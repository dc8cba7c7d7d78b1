/-
  Markers: the places in a page or layout that a build fills in.

  A slot is filled by merging a page into its layout, a reference by splicing in the
  text of another file.  In a document a marker is an element whose `type` names it;
  a marker that is never filled is written as text in braces.
-/

namespace StaticSite.Template

/-- A place in a layout. -/
inductive Slot where
  /-- Receives the content of the page. -/
  | page
  /-- Receives the links to style sheets. -/
  | css
  /-- Receives the scripts. -/
  | js
  deriving DecidableEq, Repr

/-- A file that is spliced in, and what is replaced in its text. -/
structure Reference where
  src : String
  replace : Option String := none
  deriving DecidableEq, Repr

inductive Marker where
  | slot (slot : Slot)
  | splice (ref : Reference)
  deriving DecidableEq, Repr

/-- How a marker that was never filled is written. -/
def Marker.text : Marker → String
  | .slot .page => "\x7bham:page\x7d"
  | .slot .css => "\x7bham:css\x7d"
  | .slot .js => "\x7bham:js\x7d"
  | .splice ref => "\x7bembed:" ++ ref.src ++ "\x7d"

def Marker.slot? : Marker → Option Slot
  | .slot s => some s
  | .splice _ => none

def Marker.reference? : Marker → Option Reference
  | .slot _ => none
  | .splice ref => some ref

/-! ## Kinds of markers -/

/-- What the `type` of an element can ask for. -/
inductive MarkerKind where
  | splice
  | slot (slot : Slot)
  deriving DecidableEq, Repr

namespace MarkerKind

def all : List MarkerKind := [.splice, .slot .page, .slot .js, .slot .css]

/-- The `type` that asks for a marker of this kind. -/
def typeName : MarkerKind → String
  | .splice => "ham/partial"
  | .slot .page => "ham/page"
  | .slot .js => "ham/layout-js"
  | .slot .css => "ham/layout-css"

/-- The kind that a `type` asks for; other types are none of ours. -/
def ofType? (value : String) : Option MarkerKind := all.find? (·.typeName == value)

theorem ofType?_typeName (kind : MarkerKind) : ofType? kind.typeName = some kind := by
  cases kind with
  | splice => decide
  | slot s => cases s <;> decide

end MarkerKind

/-- The kind that asks for the marker. -/
def Marker.kind : Marker → MarkerKind
  | .slot s => .slot s
  | .splice _ => .splice

end StaticSite.Template
