/-
  What a build asks of a disk.

  The operations are those of a common file system.  Everything larger is made of them
  here, so that it is the same over a real disk and over a model of one.
-/

import StaticSite.Source

namespace StaticSite

inductive EntryKind where
  | directory
  | file
  deriving DecidableEq, Repr

/-- A disk. -/
structure Disk (m : Type → Type) where
  /-- The directory from which relative paths start. -/
  currentDirectory : m Path
  kind : Path → m (Except FileError EntryKind)
  read : Path → m (Except FileError Reading)
  /-- The names in a directory, in ascending order. -/
  list : Path → m (Except FileError (List (String × EntryKind)))
  makeDirectory : Path → m (Except FileError Unit)
  /-- Writes a file anew; its directory has to be there. -/
  write : Path → String → m (Except FileError Unit)
  /-- Copies the content and the mode of a file. -/
  copyFile : (source target : Path) → m (Except FileError Unit)
  copyMode : (source target : Path) → m (Except FileError Unit)

namespace Disk

variable {m : Type → Type} [Monad m] (disk : Disk m)

def isKind (kind : EntryKind) (path : Path) : m Bool := do
  return match ← disk.kind path with
    | .ok found => found == kind
    | .error _ => false

def isDirectory (path : Path) : m Bool := disk.isKind .directory path

def isFile (path : Path) : m Bool := disk.isKind .file path

def has (path : Path) : m Bool := do
  return match ← disk.kind path with
    | .ok _ => true
    | .error _ => false

/-- The sources of a build on the disk. -/
def source : Source m := { read := disk.read, isFile := disk.isFile }

/-! ## Directories with their parents -/

/-- An attempt that may fail without harm, because the directory is there already. -/
def unlessThere (path : Path) (attempt : Except FileError Unit) : m (Except FileError Unit) := do
  match attempt with
  | .ok () => return .ok ()
  | .error cause => if ← disk.isDirectory path then return .ok () else return .error cause

/-- Makes a directory, and its parents where they are missing; `parents` bounds their number. -/
def makeDirectoriesUp : (parents : Nat) → Path → m (Except FileError Unit)
  | 0, path => do disk.unlessThere path (← disk.makeDirectory path)
  | parents + 1, path => do
    match ← disk.makeDirectory path with
    | .error .notFound =>
      match path.parent? with
      | none => return .error .notFound
      | some parent =>
        match ← makeDirectoriesUp parents parent with
        | .error cause => return .error cause
        | .ok () => disk.unlessThere path (← disk.makeDirectory path)
    | attempt => disk.unlessThere path attempt

/-- Makes a directory, and its parents where they are missing. -/
def makeDirectories (path : Path) : m (Except FileError Unit) :=
  match path.components.length with
  | 0 => return .ok ()
  | parents + 1 => disk.makeDirectoriesUp parents path

end Disk

end StaticSite
