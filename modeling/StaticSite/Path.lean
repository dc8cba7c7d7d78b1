/-
  Paths as text, and their components.

  A path keeps the text it was written with, because messages show it.  Two paths
  name the same place if their components agree: repeated slashes, a trailing slash
  and inner `.` components do not count, a leading `.` does.  Nothing in this file
  looks at a disk.
-/

import StaticSite.Text.Split

namespace StaticSite

structure Path where
  text : String
  deriving DecidableEq, Repr

namespace Path

/-- A component of a path. -/
inductive Component where
  | root
  /-- A `.` at the start of a relative path. -/
  | current
  | parent
  | normal (name : String)
  deriving DecidableEq, Repr

def Component.text : Component → String
  | .root => "/"
  | .current => "."
  | .parent => ".."
  | .normal name => name

/-! ## Components -/

def isAbsolute (p : Path) : Bool := p.text.toList.head? == some '/'

/-- A piece between slashes as a component; empty pieces and `.` are none. -/
def pieceComponent? (piece : String) : Option Component :=
  if piece == "" || piece == "." then none
  else if piece == ".." then some .parent
  else some (.normal piece)

def components (p : Path) : List Component :=
  let pieces := Text.split '/' p.text
  let start := if p.isAbsolute then [Component.root]
    else if pieces.head? == some "." then [.current] else []
  start ++ pieces.filterMap pieceComponent?

/-- Whether two paths name the same place. -/
def same (p q : Path) : Bool := p.components == q.components

/-- A path inside another; an absolute one replaces it. -/
def join (base rest : Path) : Path :=
  if rest.isAbsolute then rest
  else if base.text == "" || base.text.toList.getLast? == some '/' then ⟨base.text ++ rest.text⟩
  else ⟨base.text ++ "/" ++ rest.text⟩

/-- The path with the given components. -/
def ofComponents (cs : List Component) : Path :=
  cs.foldl (fun p c => p.join ⟨c.text⟩) ⟨""⟩

/-! ## Cleaning -/

/-- Adds a component to a cleaned list, the last component first. -/
def pushClean (done : List Component) : Component → List Component
  | .current => done
  | .parent =>
    match done with
    | .root :: _ => done
    | .normal _ :: rest => rest
    | _ => .parent :: done
  | c => c :: done

/-- The components that are left when `.` and inner `..` are removed. -/
def cleanComponents (cs : List Component) : List Component := (cs.foldl pushClean []).reverse

/-- The shortest text for the same place, as far as the text alone can tell. -/
def clean (p : Path) : Path :=
  match cleanComponents p.components with
  | [] => ⟨"."⟩
  | cs => ofComponents cs

/-! ## Parts -/

/-- The pieces of a path, the last one first, from the last one on that is a component.  The first
piece of a path is one unless it is empty. -/
def upToComponent : List String → List String
  | [] => []
  | [first] => if first == "" then [] else [first]
  | piece :: before =>
    if (pieceComponent? piece).isSome then piece :: before else upToComponent before

/-- The path without its last component; what comes before it stays as it is written. -/
def parent? (p : Path) : Option Path :=
  match upToComponent (Text.split '/' p.text).reverse with
  | [] => none
  | _ :: before =>
    match upToComponent before with
    | [] => some ⟨if p.isAbsolute then "/" else ""⟩
    | kept => some ⟨"/".intercalate kept.reverse⟩

/-- The last component, if it is a name. -/
def fileName? (p : Path) : Option String :=
  match p.components.getLast? with
  | some (.normal name) => some name
  | _ => none

/-- A file name up to its last dot, and what follows that dot; a leading dot does not count. -/
def splitName (name : String) : String × Option String :=
  match Text.cutAt '.' name.toList.reverse with
  | some (after, before) =>
    if before.isEmpty then (name, none)
    else (String.ofList before.reverse, some (String.ofList after.reverse))
  | none => (name, none)

def fileStem? (p : Path) : Option String := p.fileName?.map fun name => (splitName name).1

def extension? (p : Path) : Option String := p.fileName?.bind fun name => (splitName name).2

/-- What follows the components of the base, if the path starts with them. -/
def stripPrefix? (p base : Path) : Option Path :=
  (base.components.isPrefixOf? p.components).map ofComponents

/-- The path seen from the given current directory; `..` stays, and so does a trailing slash. -/
def absolute (p current : Path) : Path :=
  let steps := p.components.filter (· != .current)
  let start : Path :=
    if !p.isAbsolute then current
    else if "//".toList.isPrefixOf p.text.toList && !"///".toList.isPrefixOf p.text.toList
    then ⟨"//"⟩ else ⟨"/"⟩
  let whole := (steps.filter (· != .root)).foldl (fun q c => q.join ⟨c.text⟩) start
  if p.text.toList.getLast? == some '/' then whole.join ⟨""⟩ else whole

end Path

end StaticSite
