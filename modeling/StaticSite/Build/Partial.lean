/-
  Partials: the files that pages and layouts refer to.

  Before anything is spliced, the files that can be reached are searched for a cycle.
  A file may itself refer to files, and the directive of a reference may change what
  it refers to; so the search is over files together with their directives.
-/

import StaticSite.Build.Session
import StaticSite.Graph.Cycle
import StaticSite.Html.Reader
import StaticSite.Resource
import StaticSite.Template.Extraction
import StaticSite.Template.Replacement

namespace StaticSite

open Template (Reference Fragment Replacement Marker)

/-- A page on its way through a build. -/
structure Page where
  path : Path
  /-- The directory from which the page refers to files. -/
  dir : Path
  deriving DecidableEq, Repr

/-- A partial with the directive that changes its text. -/
structure Partial where
  path : Path
  replace : Option String
  deriving DecidableEq, Repr

namespace Partial

/-- The partial that a reference in the base directory means. -/
def ofReference (root base : Path) (ref : Reference) : Partial :=
  { path := resolve root base ref.src, replace := ref.replace }

variable {n : Type → Type} [Monad n]

/-- The text of a partial under a directive. -/
def expand (supply : Supply n) (content : String) (directive : Option String) : n String := do
  supply.tell ((directive.map Replacement.notices).getD [])
  return Replacement.expand content directive

/-! ## Cycles -/

/-- The partials that the text of a partial refers to, from the directory of the page. -/
def successors (project : Project) (supply : Supply n) (page : Page) (p : Partial) :
    n (List Partial) := do
  match ← supply.partial? p.path with
  | none => return []
  | some content =>
    let found := Template.extract .page (.parse (← expand supply content p.replace))
    supply.tell found.notices
    return found.descriptor.references.map (ofReference project.root page.dir)

variable [MonadExcept BuildError n]

/-- Fails if a cycle can be reached from the given partials. -/
def checkCycles (project : Project) (supply : Supply n) (page : Page) (roots : List Partial) :
    n Unit := do
  match ← Graph.findCycle (successors project supply page) project.maxDepth roots with
  | .acyclic => return
  | .cycle chain =>
    throw (.cycle page.path (chain.map fun p => (p.path.stripPrefix? project.root).getD p.path))
  | .tooDeep => throw (.chainTooLong page.path)

/-! ## Splicing -/

/-- The text that takes the place of a reference in a file of the base directory. -/
def textFor (project : Project) (supply : Supply n) (page : Page) (base : Path)
    (ref : Reference) : n String := do
  let path := resolve project.root base ref.src
  let content ← match ← supply.partial? path with
    | some content => pure content
    | none =>
      match project.config.embeds.onMissing with
      | .error => throw (.missingReference page.path path)
      | .warn => do
        supply.tell [.missingReference page.path path]
        pure ""
  supply.tell [.splicing path]
  expand supply content ref.replace

/-- Splices a file in for every reference of the fragment; slots stay. -/
def spliceAll (project : Project) (supply : Supply n) (page : Page) (base : Path)
    (fragment : Fragment) : n Fragment :=
  fragment.substitute fun
    | .slot _ => pure none
    | .splice ref => return some (.ofHtml (← textFor project supply page base ref))

end Partial

end StaticSite
