import DocBrowser.Files.Basic
import DocBrowser.Text.Utf8

/-!
A tree of files and directories held in memory. Paths are followed name by name, as a system does
it: every step but the last has to arrive at a directory.
-/

namespace DocBrowser

/-- The names from the root of a tree down to an entry. -/
abbrev Names := List Text

inductive Entry
  | file (content : Bytes)
  | directory

/-- Files with their contents, directories, and the directory that relative paths start from. -/
structure FileTree where
  files : List (Names × Bytes) := []
  directories : List Names := []
  here : Names := []

namespace FileTree

/-- Whether there is a directory: the root, a listed one, or one above some file or directory. -/
def isDirectory (tree : FileTree) (names : Names) : Bool :=
  names.isEmpty || names.isPrefixOf tree.here || tree.directories.any (names.isPrefixOf ·) ||
    tree.files.any fun (file, _) => names.isPrefixOf file && names != file

def entry? (tree : FileTree) (names : Names) : Option Entry :=
  match tree.files.lookup names with
  | some content => some (.file content)
  | none => if tree.isDirectory names then some .directory else none

/-- How many bytes the longest name has. -/
def nameLimit : Nat := 255

/-- How many bytes the longest path has. -/
def pathLimit : Nat := 4095

def step (tree : FileTree) (place : Names) (name : Text) : Except FileError Names :=
  match tree.entry? place with
  | some .directory =>
    if name = [] ∨ name = ['.'] then .ok place
    else if name = ['.', '.'] then .ok place.dropLast
    else if nameLimit < (Utf8.encode name).length then .error .nameTooLong
    else if (tree.entry? (place ++ [name])).isSome then .ok (place ++ [name])
    else .error .missing
  | _ => .error .notDirectory

def walk (tree : FileTree) : Names → List Text → Except FileError Names
  | place, [] => .ok place
  | place, name :: rest =>
    match tree.step place name with
    | .ok place => tree.walk place rest
    | .error error => .error error

def locate (tree : FileTree) (path : Text) : Except FileError Names :=
  if path.contains (Char.ofNat 0) then .error .nulInPath
  else if path = [] then .error .missing
  else if pathLimit < (Utf8.encode path).length then .error .nameTooLong
  else tree.walk (if path.head? = some '/' then [] else tree.here) (path.splitOn '/')

def read (tree : FileTree) (path : Text) : Except FileError Bytes := do
  match tree.entry? (← tree.locate path) with
  | some (.file content) => .ok content
  | _ => .error .isDirectory

/-- What would go wrong if the file with the given name were written. -/
def writeFault (tree : FileTree) (name : Text) : Option FileError :=
  if tree.isDirectory (tree.here ++ [name]) then some .isDirectory else none

def write (tree : FileTree) (name : Text) (content : Bytes) : FileTree :=
  let names := tree.here ++ [name]
  { tree with files := (names, content) :: tree.files.filter (·.1 != names) }

def view (tree : FileTree) : Files :=
  { read := tree.read
    present := fun path => (tree.locate path).toOption.isSome
    writeFault := tree.writeFault }

end FileTree

end DocBrowser
