/-
  Fragments: HTML text with markers in it.

  A fragment is a list of segments.  Everything below builds fragments through
  `ofSegments`, which leaves no segment empty and no two texts side by side, so that
  two fragments with the same characters and markers are equal.  `flat` is that
  sequence of characters and markers.
-/

import StaticSite.Template.Marker

namespace StaticSite.Template

inductive Segment where
  | html (text : String)
  | marker (marker : Marker)
  deriving DecidableEq, Repr

def Segment.marker? : Segment → Option Marker
  | .html _ => none
  | .marker m => some m

def Segment.render : Segment → String
  | .html text => text
  | .marker m => m.text

/-- HTML text with markers in it. -/
structure Fragment where
  segments : List Segment := []
  deriving DecidableEq, Repr

namespace Fragment

/-! ## Building -/

/-- A text as segments; an empty one is none. -/
def htmlSegments (text : String) : List Segment :=
  if text.isEmpty then [] else [.html text]

/-- Joins texts that stand side by side; `before` is the text read so far. -/
def joinHtml (before : String) : List Segment → List Segment
  | [] => htmlSegments before
  | .html text :: rest => joinHtml (before ++ text) rest
  | .marker m :: rest => htmlSegments before ++ .marker m :: joinHtml "" rest

def ofSegments (segments : List Segment) : Fragment := ⟨joinHtml "" segments⟩

def ofHtml (text : String) : Fragment := ofSegments [.html text]

def pushHtml (f : Fragment) (text : String) : Fragment := ofSegments (f.segments ++ [.html text])

def pushMarker (f : Fragment) (m : Marker) : Fragment := ofSegments (f.segments ++ [.marker m])

def append (f g : Fragment) : Fragment := ofSegments (f.segments ++ g.segments)

instance : Append Fragment := ⟨append⟩

/-! ## Reading -/

def isEmpty (f : Fragment) : Bool := f.segments.isEmpty

/-- The markers in order. -/
def markers (f : Fragment) : List Marker := f.segments.filterMap Segment.marker?

/-- The slots that are still open, in order. -/
def slots (f : Fragment) : List Slot := f.markers.filterMap Marker.slot?

/-- The files that are still to be spliced in, in order. -/
def references (f : Fragment) : List Reference := f.markers.filterMap Marker.reference?

/-- The fragment as text, with markers in their text form. -/
def render (f : Fragment) : String := String.join (f.segments.map Segment.render)

/-- The characters and markers of a segment. -/
def flatSegment : Segment → List (Char ⊕ Marker)
  | .html text => text.toList.map .inl
  | .marker m => [.inr m]

/-- The characters and markers of a fragment. -/
def flat (f : Fragment) : List (Char ⊕ Marker) := f.segments.flatMap flatSegment

/-! ## Cutting -/

/-- What follows a text that the fragment starts with. -/
def dropStart? (start : String) (f : Fragment) : Option Fragment :=
  match f.segments with
  | .html text :: rest =>
    (start.toList.isPrefixOf? text.toList).map fun left =>
      ofSegments (.html (String.ofList left) :: rest)
  | _ => none

/-- What comes before a text that the fragment ends with. -/
def dropEnd? (last : String) (f : Fragment) : Option Fragment :=
  match f.segments.getLast? with
  | some (.html text) =>
    (last.toList.isSuffixOf? text.toList).map fun left =>
      ofSegments (f.segments.dropLast ++ [.html (String.ofList left)])
  | _ => none

/-- The fragment without its open slots. -/
def withoutSlots (f : Fragment) : Fragment :=
  ofSegments (f.segments.filter fun s => (s.marker?.bind Marker.slot?).isNone)

/-! ## Filling -/

/-- The segments before the first occurrence of a marker, and those after it. -/
def cutAtMarker (target : Marker) : List Segment → Option (List Segment × List Segment)
  | [] => none
  | s :: rest =>
    if s = .marker target then some ([], rest)
    else (cutAtMarker target rest).map fun (before, after) => (s :: before, after)

/-- Fills the first occurrence of a marker, if there is one. -/
def replaceFirst? (f : Fragment) (target : Marker) (content : Fragment) : Option Fragment :=
  (cutAtMarker target f.segments).map fun (before, after) =>
    ofSegments (before ++ content.segments ++ after)

/-- Asks for every marker what stands in its place; `none` keeps it. -/
def fillSegments [Monad m] (fill : Marker → m (Option Fragment)) :
    List Segment → m (List Segment)
  | [] => pure []
  | .html text :: rest => do return .html text :: (← fillSegments fill rest)
  | .marker x :: rest => do
    let here := match ← fill x with
      | some content => content.segments
      | none => [.marker x]
    return here ++ (← fillSegments fill rest)

/-- Fills markers from the first to the last. -/
def substitute [Monad m] (fill : Marker → m (Option Fragment)) (f : Fragment) : m Fragment := do
  return ofSegments (← fillSegments fill f.segments)

end Fragment

end StaticSite.Template
