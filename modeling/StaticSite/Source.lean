/-
  Where the text of source files comes from.

  A build reads its sources through two questions, so that it can be run over a store
  in memory as well as over a disk.  Paths are compared by their components.
-/

import StaticSite.FileError

namespace StaticSite

/-- The text of a file that was read. -/
structure Reading where
  text : String
  /-- Whether the file held bytes that are not UTF-8. -/
  lossy : Bool := false
  deriving DecidableEq, Repr

/-- The questions that a build asks about its sources. -/
structure Source (m : Type → Type) where
  read : Path → m (Except FileError Reading)
  isFile : Path → m Bool

/-! ## A store in memory -/

/-- Texts by the components of their paths, and the reads so far, the last one first. -/
structure Store where
  files : List (List Path.Component × String) := []
  reads : List (List Path.Component) := []
  deriving Repr

namespace Store

def text? (store : Store) (path : Path) : Option String := store.files.lookup path.components

def insert (store : Store) (path : Path) (text : String) : Store :=
  { store with files := (path.components, text) :: store.files }

/-- How often a path was read. -/
def readCount (store : Store) (path : Path) : Nat := store.reads.count path.components

def read (path : Path) : StateM Store (Except FileError Reading) := do
  modify fun store => { store with reads := path.components :: store.reads }
  match (← get).text? path with
  | some text => return .ok { text }
  | none => return .error (.notStored path)

def source : Source (StateM Store) where
  read := read
  isFile path := return ((← get).text? path).isSome

end Store

end StaticSite
