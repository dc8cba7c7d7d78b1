/-
  How an operation on files can fail.
-/

import StaticSite.Path

namespace StaticSite

inductive FileError where
  | notFound
  | exists
  | notDirectory
  | isDirectory
  | notEmpty
  | denied
  | nameTooLong
  /-- A path with a NUL character cannot be handed to the system. -/
  | nulInPath
  | emptyPath
  /-- A text file holds bytes that are not UTF-8. -/
  | notUtf8
  /-- A store in memory does not hold the path. -/
  | notStored (path : Path)
  /-- Any other failure, as the system words it. -/
  | other (text : String)
  deriving DecidableEq, Repr

/-- The number the system has for the failure, with its wording. -/
def FileError.system? : FileError → Option (Nat × String)
  | .notFound => some (2, "No such file or directory")
  | .exists => some (17, "File exists")
  | .notDirectory => some (20, "Not a directory")
  | .isDirectory => some (21, "Is a directory")
  | .notEmpty => some (39, "Directory not empty")
  | .denied => some (13, "Permission denied")
  | .nameTooLong => some (36, "File name too long")
  | _ => none

def FileError.message (e : FileError) : String :=
  match e.system? with
  | some (code, text) => text ++ " (os error " ++ toString code ++ ")"
  | none =>
    match e with
    | .nulInPath => "file name contained an unexpected NUL byte"
    | .emptyPath => "cannot make an empty path absolute"
    | .notUtf8 => "stream did not contain valid UTF-8"
    | .notStored path => path.text ++ " not in memory store"
    | .other text => text
    | _ => ""

end StaticSite
