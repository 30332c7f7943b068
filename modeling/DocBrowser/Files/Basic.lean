import DocBrowser.Text

/-!
The files around the program, as far as it looks at them.
-/

namespace DocBrowser

inductive FileError
  | missing
  | notDirectory
  | isDirectory
  | nameTooLong
  /-- The path has a character that no file name can have. -/
  | nulInPath
  | other (message : Text)
  deriving DecidableEq

def FileError.message : FileError → Text
  | .missing => "No such file or directory (os error 2)"
  | .notDirectory => "Not a directory (os error 20)"
  | .isDirectory => "Is a directory (os error 21)"
  | .nameTooLong => "File name too long (os error 36)"
  | .nulInPath => "file name contained an unexpected NUL byte"
  | .other message => message

structure Files where
  read : Text → Except FileError Bytes
  present : Text → Bool
  /-- What would go wrong if the file were written. -/
  writeFault : Text → Option FileError

/-- The files that were looked at before; others are missing. -/
def Files.ofKnown (known : List (Text × Except FileError Bytes)) : Files :=
  { read := fun path => (known.lookup path).getD (.error .missing)
    present := fun path =>
      match known.lookup path with
      | some (.ok _) | some (.error .isDirectory) => true
      | _ => false
    writeFault := fun _ => none }

end DocBrowser
