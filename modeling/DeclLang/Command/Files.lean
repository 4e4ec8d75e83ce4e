/-!
The files that a command can name, as a tree of relative paths seen from the working folder. What
lies above that folder is known to be folders and nothing else. The module resolves a path to what
stands there and gives the form in which a path is shown.
-/

set_option autoImplicit false

namespace DeclLang.Command

inductive Entry where
  | file (bytes : List UInt8)
  | folder
  deriving DecidableEq, Repr

/-- Files with their contents and folders, each by its path from the working folder. -/
structure FileTree where
  files : List (String × List UInt8)
  folders : List String
  deriving DecidableEq, Repr

def pathParts (path : String) : List String :=
  path.splitOn "/"

/-- Where the walk along a path has come to. -/
inductive Location where
  /-- A folder in the tree, by its names from the working folder down. -/
  | inside (names : List String)
  /-- A folder above the working folder. -/
  | above
  | file (bytes : List UInt8)
  deriving DecidableEq, Repr

namespace FileTree

/-- The contents of the file with the given names. -/
def fileAt? (tree : FileTree) (names : List String) : Option (List UInt8) :=
  (tree.files.find? fun f => pathParts f.1 == names).map Prod.snd

/-- Whether the given names lead to a folder: one of the tree, or one that a file lies in. -/
def isFolder (tree : FileTree) (names : List String) : Bool :=
  (tree.folders ++ tree.files.map Prod.fst).any fun path => names.isPrefixOf (pathParts path)

def step (tree : FileTree) (location : Location) (part : String) : Option Location :=
  match location with
  | .file _ => none
  | .above => if part = "" ∨ part = "." ∨ part = ".." then some .above else none
  | .inside names =>
    if part = "" ∨ part = "." then some (.inside names)
    else if part = ".." then some (if names.isEmpty then .above else .inside names.dropLast)
    else
      let names := names ++ [part]
      match tree.fileAt? names with
      | some bytes => some (.file bytes)
      | none => if tree.isFolder names then some (.inside names) else none

/-- The number of bytes below which the length of a path must stay for it to lead anywhere. -/
def pathLimit : Nat := 4096

def resolve (tree : FileTree) (path : String) : Option Entry :=
  if path = "" ∨ pathLimit ≤ path.utf8ByteSize then none
  else
    let start := if path.toList.head? = some '/' then Location.above else .inside []
    ((pathParts path).foldlM tree.step start).map fun
      | .file bytes => .file bytes
      | _ => .folder

end FileTree

/-- The form in which a path is shown: without empty parts and parts that stay in place. A path
from the top keeps its slash, and exactly two slashes at the front both stay. -/
def displayPath (path : String) : String :=
  let slashes := (path.toList.takeWhile (· == '/')).length
  let root := if slashes = 0 then "" else if slashes = 2 then "//" else "/"
  let parts := (pathParts path).filter fun part => part != "" && part != "."
  let shown := root ++ "/".intercalate parts
  if shown = "" then "." else shown

end DeclLang.Command
