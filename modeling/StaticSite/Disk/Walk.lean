/-
  Walking a directory tree.

  A directory comes before what is in it, and names come in ascending order.  What is
  in a directory is listed when the walk reaches it, so files that a visit makes there
  later are not seen.
-/

import StaticSite.Disk

namespace StaticSite

/-- A file or directory that a walk reaches. -/
structure Walked where
  path : Path
  kind : EntryKind
  deriving DecidableEq, Repr

namespace Disk

variable {m n : Type → Type} [Monad m] [Monad n] [MonadLiftT m n] {α : Type}

/-- Visits an entry and everything below it; `depth` bounds the levels. -/
def walkFrom (disk : Disk m) (fail : Path → FileError → n (List α)) (visit : Walked → n (List α)) :
    (depth : Nat) → Path → EntryKind → n (List α)
  | _, path, .file => visit { path, kind := .file }
  | 0, path, .directory => fail path .nameTooLong
  | depth + 1, path, .directory => do
    let listing : Except FileError (List (String × EntryKind)) ← liftM (disk.list path)
    let here ← visit { path, kind := .directory }
    match listing with
    | .error cause => fail path cause
    | .ok names =>
      let below ← names.mapM fun (name, kind) =>
        walkFrom disk fail visit depth (path.join ⟨name⟩) kind
      return here ++ below.flatten

/-- No path has more levels than this. -/
def maxLevels : Nat := 4096

/-- Visits a file or directory and everything below it, and collects what the visits yield. -/
def walk (disk : Disk m) (fail : Path → FileError → n (List α)) (visit : Walked → n (List α))
    (root : Path) : n (List α) := do
  let found : Except FileError EntryKind ← liftM (disk.kind root)
  match found with
  | .error cause => fail root cause
  | .ok kind => walkFrom disk fail visit maxLevels root kind

end Disk

end StaticSite
