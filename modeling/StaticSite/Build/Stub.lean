/-
  Stubs: empty files for style sheets and scripts that do not exist yet.
-/

import StaticSite.Disk
import StaticSite.Resource

namespace StaticSite

namespace Stub

variable {m : Type → Type} [Monad m]

/-- Makes an empty file with its directories. -/
def create (disk : Disk m) (path : Path) : m (Except FileError Unit) := do
  let made ← match path.parent? with
    | some parent => disk.makeDirectories parent
    | none => pure (.ok ())
  match made with
  | .error cause => return .error cause
  | .ok () => disk.write path ""

/-- Makes the files that are missing; the result lists them. -/
def createMissing (disk : Disk m) : List Path → m (Except FileError (List Path))
  | [] => return .ok []
  | path :: rest => do
    if ← disk.has path then createMissing disk rest
    else
      match ← create disk path with
      | .error cause => return .error cause
      | .ok () => return (← createMissing disk rest).map (path :: ·)

/-- Makes the files of a set that are missing; files that exist are never touched. -/
def ensureAll (disk : Disk m) (set : ResourceSet) : m (Except FileError (List Path)) :=
  createMissing disk set.files

end Stub

end StaticSite
