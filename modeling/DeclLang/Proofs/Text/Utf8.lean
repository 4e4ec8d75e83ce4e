import DeclLang.Text.Utf8

/-!
# Encoded texts are read as they were

Each character is encoded by one to four octets. The first octet and the range of the second depend
on the code point together: the ranges that keep out overlong forms and surrogates are exactly those
that the second octets of characters lie in.

What decoding makes of octets that encode no text is not shown here.
-/

set_option autoImplicit false

namespace DeclLang.Text.Utf8

/-! ### First octets -/

theorem lead_one {octet : Nat} (h : octet < 0x80) : lead octet = some ⟨octet, 0, 0x80, 0xBF⟩ :=
  if_pos h

theorem lead_two {octet : Nat} (h : 0xC2 ≤ octet ∧ octet < 0xE0) :
    lead octet = some ⟨octet - 0xC0, 1, 0x80, 0xBF⟩ := by
  rw [lead, if_neg (by omega), if_neg (by omega), if_pos (by omega)]

theorem lead_three {octet : Nat} (h : 0xE0 ≤ octet ∧ octet < 0xF0) :
    lead octet = some ⟨octet - 0xE0, 2, if octet = 0xE0 then 0xA0 else 0x80,
      if octet = 0xED then 0x9F else 0xBF⟩ := by
  rw [lead, if_neg (by omega), if_neg (by omega), if_neg (by omega)]
  by_cases hfirst : octet = 0xE0
  · simp [hfirst]
  · by_cases hsurrogate : octet = 0xED
    · simp [hsurrogate]
    · simp [hfirst, hsurrogate, h.2]

theorem lead_four {octet : Nat} (h : 0xF0 ≤ octet ∧ octet ≤ 0xF4) :
    lead octet = some ⟨octet - 0xF0, 3, if octet = 0xF0 then 0x90 else 0x80,
      if octet = 0xF4 then 0x8F else 0xBF⟩ := by
  rw [lead, if_neg (by omega), if_neg (by omega), if_neg (by omega), if_neg (by omega),
    if_neg (by omega), if_neg (by omega)]
  by_cases hfirst : octet = 0xF0
  · simp [hfirst]
  · by_cases hlast : octet = 0xF4
    · simp [hlast]
    · simp [hfirst, hlast]
      omega

/-! ### Characters -/

theorem readTails_cons {tails low high n : Nat} (taken payload : Nat) (rest : List UInt8)
    (h : low ≤ n ∧ n ≤ high) (hn : n < 0x100) :
    readTails (tails + 1) low high taken payload (UInt8.ofNat n :: rest) =
      readTails tails 0x80 0xBF (taken + 1) (payload * 64 + (n - 0x80)) rest := by
  rw [readTails, UInt8.toNat_ofNat_of_lt' hn, if_pos h]

theorem readChar_ofNat {n payload tails low high : Nat} {rest back : List UInt8} {c : Char}
    (hn : n < 0x100) (hlead : lead n = some ⟨payload, tails, low, high⟩)
    (htails : readTails tails low high 1 payload rest = .ok (c.toNat, back)) :
    readChar (UInt8.ofNat n) rest = .ok (c, back) := by
  simp only [readChar, UInt8.toNat_ofNat_of_lt' hn, hlead, htails, Except.map, Char.ofNat_toNat]

section Widths

variable {c : Char} (rest : List UInt8)

theorem readChar_one (h : c.toNat ≤ 0x7F) :
    readChar (UInt8.ofNat c.toNat) rest = .ok (c, rest) :=
  readChar_ofNat (by omega) (lead_one (by omega)) rfl

theorem readChar_two (h : 0x7F < c.toNat ∧ c.toNat ≤ 0x7FF) :
    readChar (UInt8.ofNat (c.toNat / 64 % 0x20 + 0xC0))
      (UInt8.ofNat (c.toNat % 0x40 + 0x80) :: rest) = .ok (c, rest) := by
  have hcode : (c.toNat / 64 % 0x20 + 0xC0 - 0xC0) * 64 + (c.toNat % 0x40 + 0x80 - 0x80) =
      c.toNat := by omega
  refine readChar_ofNat (by omega) (lead_two (by omega)) ?_
  rw [readTails_cons _ _ _ (by omega) (by omega), readTails, hcode]

-- Here the range of the second octet depends on the first, so the two are bounded together.
theorem readChar_three (h : 0x7FF < c.toNat ∧ c.toNat ≤ 0xFFFF)
    (hsurrogate : c.toNat < 0xD800 ∨ 0xDFFF < c.toNat) :
    readChar (UInt8.ofNat (c.toNat / 4096 % 0x10 + 0xE0))
      (UInt8.ofNat (c.toNat / 64 % 0x40 + 0x80) :: UInt8.ofNat (c.toNat % 0x40 + 0x80) :: rest) =
      .ok (c, rest) := by
  have hcode : ((c.toNat / 4096 % 0x10 + 0xE0 - 0xE0) * 64 + (c.toNat / 64 % 0x40 + 0x80 - 0x80)) *
      64 + (c.toNat % 0x40 + 0x80 - 0x80) = c.toNat := by omega
  refine readChar_ofNat (by omega) (lead_three (by omega)) ?_
  rw [readTails_cons _ _ _ ?range (by omega), readTails_cons _ _ _ (by omega) (by omega), readTails,
    hcode]
  case range => constructor <;> split <;> omega

theorem readChar_four (h : 0xFFFF < c.toNat ∧ c.toNat < 0x110000) :
    readChar (UInt8.ofNat (c.toNat / 262144 % 0x08 + 0xF0))
      (UInt8.ofNat (c.toNat / 4096 % 0x40 + 0x80) :: UInt8.ofNat (c.toNat / 64 % 0x40 + 0x80) ::
        UInt8.ofNat (c.toNat % 0x40 + 0x80) :: rest) = .ok (c, rest) := by
  have hcode : (((c.toNat / 262144 % 0x08 + 0xF0 - 0xF0) * 64 +
      (c.toNat / 4096 % 0x40 + 0x80 - 0x80)) * 64 + (c.toNat / 64 % 0x40 + 0x80 - 0x80)) * 64 +
      (c.toNat % 0x40 + 0x80 - 0x80) = c.toNat := by omega
  refine readChar_ofNat (by omega) (lead_four (by omega)) ?_
  rw [readTails_cons _ _ _ ?range (by omega), readTails_cons _ _ _ (by omega) (by omega),
    readTails_cons _ _ _ (by omega) (by omega), readTails, hcode]
  case range => constructor <;> split <;> omega

end Widths

theorem readChar_utf8EncodeChar (c : Char) (rest : List UInt8) :
    ∃ b bytes, String.utf8EncodeChar c = b :: bytes ∧
      readChar b (bytes ++ rest) = .ok (c, rest) := by
  have hvalid : c.toNat < 0xD800 ∨ 0xDFFF < c.toNat ∧ c.toNat < 0x110000 := c.valid
  unfold String.utf8EncodeChar
  change ∃ b bytes, (if c.toNat ≤ 0x7F then _ else if c.toNat ≤ 0x7FF then _ else
    if c.toNat ≤ 0xFFFF then _ else _) = b :: bytes ∧ _
  split
  · next h => exact ⟨_, _, rfl, readChar_one rest h⟩
  split
  · next h => exact ⟨_, _, rfl, readChar_two rest (by omega)⟩
  split
  · next h => exact ⟨_, _, rfl, readChar_three rest (by omega) (by omega)⟩
  · next h => exact ⟨_, _, rfl, readChar_four rest (by omega)⟩

/-! ### Texts -/

theorem decodeFrom_of_readChar {b : UInt8} {bytes rest : List UInt8} {c : Char}
    (h : readChar b bytes = .ok (c, rest)) (offset : Nat) :
    decodeFrom offset (b :: bytes) =
      (decodeFrom (offset + (1 + bytes.length - rest.length)) rest).map (c :: ·) := by
  rw [decodeFrom]
  split
  · next heq =>
    rw [h] at heq
    cases heq
  · next heq =>
    rw [h] at heq
    cases heq
    rfl

theorem decodeFrom_encode (offset : Nat) (text : List Char) :
    decodeFrom offset (encode text) = .ok text := by
  induction text generalizing offset with
  | nil =>
    rw [encode, List.flatMap_nil, decodeFrom]
  | cons c text ih =>
    obtain ⟨b, bytes, hencode, hread⟩ := readChar_utf8EncodeChar c (encode text)
    rw [encode, List.flatMap_cons, ← encode, hencode, List.cons_append,
      decodeFrom_of_readChar hread, ih]
    rfl

theorem decode_encode (text : List Char) : decode (encode text) = .ok text :=
  decodeFrom_encode 0 text

end DeclLang.Text.Utf8
