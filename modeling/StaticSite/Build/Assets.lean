/-
  Copying the assets of a project.
-/

import StaticSite.Disk.Walk

namespace StaticSite

namespace Assets

variable {m : Type → Type} [Monad m]

/-- Takes over one file or directory into the target; yields the files that were copied. -/
def take (disk : Disk m) (source target : Path) (e : Walked) : ExceptT FileError m (List Path) := do
  let place := target.join ((e.path.stripPrefix? source).getD e.path)
  match e.kind with
  | .directory => do
    ExceptT.mk (disk.makeDirectories place)
    ExceptT.mk (disk.copyMode e.path place)
    return []
  | .file => do
    ExceptT.mk (disk.copyFile e.path place)
    ExceptT.mk (disk.copyMode e.path place)
    return [place]

/-- A walk that fails names the place where it did. -/
def walkError (path : Path) (cause : FileError) : FileError :=
  .other ("IO error for operation on " ++ path.text ++ ": " ++ cause.message)

/-- Copies a directory with everything in it, and counts the files.  Files that are in the way are
overwritten, all others stay.  What is no directory has nothing to copy. -/
def copyDirectory (disk : Disk m) (source target : Path) : m (Except FileError Nat) := do
  if ← disk.isDirectory source then
    let copied : ExceptT FileError m (List Path) :=
      disk.walk (fun path cause => throw (walkError path cause)) (take disk source target) source
    return (← copied.run).map (·.length)
  else return .ok 0

end Assets

end StaticSite
