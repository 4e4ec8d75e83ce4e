import DeclLang.Text.Quoted

/-!
Strict reading of UTF-8. The first octet of a character fixes how many octets follow it and which
range the second one lies in; those ranges are what keeps out overlong forms, surrogates and values
beyond the last code point. Where a character breaks off, the fault spans its octets up to the first
one that rules it out, and that octet begins the next character.
-/

set_option autoImplicit false

namespace DeclLang.Text.Utf8

/-- What the first octet of a character demands: the part of the code point that it carries, how
many octets follow, and the range of the next one. -/
structure Lead where
  payload : Nat
  tails : Nat
  low : Nat
  high : Nat
  deriving DecidableEq, Repr

/-- The demands of a first octet; none if no character starts with it. -/
def lead (octet : Nat) : Option Lead :=
  if octet < 0x80 then some ⟨octet, 0, 0x80, 0xBF⟩
  else if octet < 0xC2 then none
  else if octet < 0xE0 then some ⟨octet - 0xC0, 1, 0x80, 0xBF⟩
  else if octet = 0xE0 then some ⟨octet - 0xE0, 2, 0xA0, 0xBF⟩
  else if octet = 0xED then some ⟨octet - 0xE0, 2, 0x80, 0x9F⟩
  else if octet < 0xF0 then some ⟨octet - 0xE0, 2, 0x80, 0xBF⟩
  else if octet = 0xF0 then some ⟨octet - 0xF0, 3, 0x90, 0xBF⟩
  else if octet < 0xF4 then some ⟨octet - 0xF0, 3, 0x80, 0xBF⟩
  else if octet = 0xF4 then some ⟨octet - 0xF0, 3, 0x80, 0x8F⟩
  else none

inductive Reason where
  | invalidStart
  | invalidContinuation
  | unexpectedEnd
  deriving DecidableEq, Repr

def Reason.wording : Reason → String
  | .invalidStart => "invalid start byte"
  | .invalidContinuation => "invalid continuation byte"
  | .unexpectedEnd => "unexpected end of data"

/-- The octets at an offset that are not a character: the first one, how many there are, and why
they are refused. -/
structure Fault where
  offset : Nat
  first : UInt8
  length : Nat
  reason : Reason
  deriving DecidableEq, Repr

def Fault.message (f : Fault) : String :=
  let place :=
    if f.length = 1 then
      "byte 0x" ++ String.ofList (hexDigits 2 f.first.toNat) ++ " in position " ++ toString f.offset
    else
      "bytes in position " ++ toString f.offset ++ "-" ++ toString (f.offset + f.length - 1)
  "'utf-8' codec can't decode " ++ place ++ ": " ++ f.reason.wording

/-- Reads the octets that follow a first one, the next of them within the given range, and adds
their payload. A refusal says how many were taken before it. -/
def readTails : (tails low high taken payload : Nat) → List UInt8 →
    Except (Nat × Reason) (Nat × List UInt8)
  | 0, _, _, _, payload, rest => .ok (payload, rest)
  | _ + 1, _, _, taken, _, [] => .error (taken, .unexpectedEnd)
  | tails + 1, low, high, taken, payload, b :: rest =>
    if low ≤ b.toNat ∧ b.toNat ≤ high then
      readTails tails 0x80 0xBF (taken + 1) (payload * 64 + (b.toNat - 0x80)) rest
    else .error (taken, .invalidContinuation)

/-- Reads the character that starts with the given octet. -/
def readChar (b : UInt8) (rest : List UInt8) : Except (Nat × Reason) (Char × List UInt8) :=
  match lead b.toNat with
  | none => .error (1, .invalidStart)
  | some l =>
    (readTails l.tails l.low l.high 1 l.payload rest).map fun (code, rest) =>
      (Char.ofNat code, rest)

theorem length_readTails_le {tails low high taken payload code : Nat} {bytes rest : List UInt8}
    (h : readTails tails low high taken payload bytes = .ok (code, rest)) :
    rest.length ≤ bytes.length := by
  induction tails generalizing low high taken payload bytes with
  | zero =>
    simp only [readTails, Except.ok.injEq, Prod.mk.injEq] at h
    exact Nat.le_of_eq (congrArg List.length h.2.symm)
  | succ tails ih =>
    cases bytes with
    | nil => simp [readTails] at h
    | cons b bytes =>
      simp only [readTails] at h
      split at h
      · exact Nat.le_succ_of_le (ih h)
      · simp at h

theorem length_readChar_le {b : UInt8} {bytes rest : List UInt8} {c : Char}
    (h : readChar b bytes = .ok (c, rest)) : rest.length ≤ bytes.length := by
  simp only [readChar] at h
  split at h
  · simp at h
  · rename_i l _
    cases ht : readTails l.tails l.low l.high 1 l.payload bytes with
    | error e => simp [ht, Except.map] at h
    | ok r =>
      obtain ⟨code, tail⟩ := r
      simp only [ht, Except.map, Except.ok.injEq, Prod.mk.injEq] at h
      exact h.2 ▸ length_readTails_le ht

/-- Reads octets as text, counting from the given offset. -/
def decodeFrom (offset : Nat) : List UInt8 → Except Fault (List Char)
  | [] => .ok []
  | b :: bytes =>
    match h : readChar b bytes with
    | .error (length, reason) => .error ⟨offset, b, length, reason⟩
    | .ok (c, rest) =>
      have _shorter := length_readChar_le h
      (decodeFrom (offset + (1 + bytes.length - rest.length)) rest).map (c :: ·)
termination_by bytes => bytes.length

def decode (bytes : List UInt8) : Except Fault (List Char) :=
  decodeFrom 0 bytes

def encode (text : List Char) : List UInt8 :=
  text.flatMap String.utf8EncodeChar

end DeclLang.Text.Utf8
