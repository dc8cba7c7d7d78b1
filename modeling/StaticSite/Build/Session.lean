/-
  One build: what it is given, and what changes while it runs.
-/

import StaticSite.Build.Error
import StaticSite.Build.Summary

namespace StaticSite

/-- What a build is given. -/
structure Project where
  /-- The directory of the project, cleaned. -/
  root : Path
  config : Config
  /-- The version that is added to the URLs of files. -/
  version : Option String
  /-- How long a chain of references may be; longer ones count as endless. -/
  maxDepth : Nat := 5000
  deriving Repr

/-- What changes while pages are compiled. -/
structure Session where
  cache : Cache := {}
  /-- What was told so far, in order. -/
  notices : List Notice := []
  /-- What happened so far, in order. -/
  events : List Event := []

/-- A step of a build. -/
abbrev BuildM (m : Type → Type) := ExceptT BuildError (StateT Session m)

/-- What the compilation of a page asks for while it runs, and where its notices go. -/
structure Supply (n : Type → Type) where
  /-- The text of a layout, if there is such a file. -/
  layout? : Path → n (Option String)
  /-- The text of a file that is spliced in, if it can be read. -/
  partial? : Path → n (Option String)
  tell : List Notice → n Unit

namespace BuildM

variable {m : Type → Type} [Monad m]

def tell (ns : List Notice) : BuildM m Unit :=
  modify fun s => { s with notices := s.notices ++ ns }

def emit (es : List Event) : BuildM m Unit :=
  modify fun s => { s with events := s.events ++ es }

/-- Does something that may fail; `why` makes it a failure of the build. -/
def attempt (why : FileError → BuildError) (x : m (Except FileError α)) : BuildM m α := do
  let result : Except FileError α ← x
  match result with
  | .ok a => return a
  | .error cause => throw (why cause)

/-- The text of a layout or a reference. -/
def readCached (source : Source m) (path : Path) : BuildM m (Option String) := do
  let answer : Answer ← (Cache.read source (← get).cache path : m Answer)
  modify fun s => { s with cache := answer.cache }
  tell answer.notices
  return answer.text?

/-- The text of a layout, if there is such a file. -/
def readExisting (source : Source m) (path : Path) : BuildM m (Option String) := do
  let present : Bool ← (Cache.has source (← get).cache path : m Bool)
  if present then readCached source path else return none

/-- The text of a page; pages are not kept. -/
def readPage (source : Source m) (page : Path) : BuildM m String := do
  let reading ← attempt (.read page) (source.read page)
  tell (Cache.readingNotices page reading)
  return reading.text

/-- Layouts and partials come through the cache of the build. -/
def supply (source : Source m) : Supply (BuildM m) where
  layout? := readExisting source
  partial? := readCached source
  tell := tell

end BuildM

end StaticSite
