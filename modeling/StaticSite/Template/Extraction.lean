/-
  Reading a page or a layout.

  One walk over the document yields its pieces in order: HTML text, markers, settings
  and notices.  The fragment, the descriptor and the notices are three views of the
  pieces, so they cannot disagree.  The role of the file only decides what its
  descriptor keeps; the fragment does not depend on it.
-/

import StaticSite.Html.Render
import StaticSite.Notice
import StaticSite.Template.Descriptor
import StaticSite.Template.Fragment

namespace StaticSite.Template

open Html (Tag Node Document)

/-! ## Pieces -/

inductive Piece where
  | html (text : String)
  | marker (marker : Marker)
  | settings (settings : Settings)
  | notice (notice : Notice)

/-- Elements of this class are left out with everything in them. -/
def removalClass : String := "ham-remove"

/-- The attribute that says what is replaced in a spliced file. -/
def replaceAttribute : String := "data-ham-replace"

/-- The kind of marker that an element is, if it is one. -/
def markerKind? (tag : Tag) : Option MarkerKind :=
  let asked := (tag.attr? "type").bind MarkerKind.ofType?
  if tag.name == "embed" then asked
  else if tag.name == "link" then asked.filter (· == .slot .css)
  else none

/-- The settings on a tag, or what is wrong with them. -/
def settingsPieces (tag : Tag) : List Piece :=
  match tag.attr? settingsAttribute with
  | none => []
  | some json =>
    match Settings.parse json with
    | .ok s => [.settings s]
    | .error cause => [.notice (.malformedSettings cause)]

/-- A marker element; a reference needs to say what it refers to. -/
def markerPiece (tag : Tag) : MarkerKind → Piece
  | .slot s => .marker (.slot s)
  | .splice =>
    match tag.attr? "src" with
    | none | some "" => .notice .referenceWithoutSrc
    | some src => .marker (.splice { src, replace := tag.attr? replaceAttribute })

/-- The tag as it is written; settings are not. -/
def writtenTag (tag : Tag) : Tag :=
  { tag with attrs := tag.attrs.filter (·.name != settingsAttribute) }

mutual

/-- The pieces of a node; `raw` says that its parent takes text verbatim. -/
def nodePieces (raw : Bool) : Node → List Piece
  | .element tag children =>
    if tag.hasClass removalClass then []
    else settingsPieces tag ++
      match markerKind? tag with
      | some kind => [markerPiece tag kind]
      | none =>
        .html ((writtenTag tag).renderStart children) :: nodesPieces tag.hasRawText children
          ++ [.html tag.renderEnd]
  | .text text => [.html (Html.renderText raw text)]
  | .comment text => [.html (Node.render raw (.comment text))]
  | .doctype name => [.html (Node.render raw (.doctype name))]

def nodesPieces (raw : Bool) : List Node → List Piece
  | [] => []
  | node :: rest => nodePieces raw node ++ nodesPieces raw rest

end

theorem nodesPieces_append (raw : Bool) (a b : List Node) :
    nodesPieces raw (a ++ b) = nodesPieces raw a ++ nodesPieces raw b := by
  induction a with
  | nil => rfl
  | cons node rest ih =>
    rw [List.cons_append, nodesPieces, nodesPieces, ih, List.append_assoc]

theorem nodesPieces_singleton (raw : Bool) (node : Node) :
    nodesPieces raw [node] = nodePieces raw node := by
  rw [nodesPieces, nodesPieces, List.append_nil]

def documentPieces (doc : Document) : List Piece := nodesPieces false doc.nodes

/-! ## Views of the pieces -/

def Piece.segment? : Piece → Option Segment
  | .html text => some (.html text)
  | .marker m => some (.marker m)
  | _ => none

def Piece.marker? : Piece → Option Marker
  | .marker m => some m
  | _ => none

def Piece.settings? : Piece → Option Settings
  | .settings s => some s
  | _ => none

def Piece.notice? : Piece → Option Notice
  | .notice n => some n
  | _ => none

/-! ## Extraction -/

/-- What a file is read as. -/
inductive Role where
  | page
  | layout
  deriving DecidableEq, Repr

/-- Whether the descriptor of a file keeps a marker. -/
def Role.keeps : Role → Marker → Bool
  | _, .splice _ => true
  | .page, .slot _ => false
  | .layout, .slot s => s != .page

/-- The settings that count for a file; a layout has no layout. -/
def Role.admit : Role → Settings → Settings
  | .page, s => s
  | .layout, s => { s with layout := none }

/-- A file that has been read. -/
structure Extraction where
  fragment : Fragment
  descriptor : Descriptor
  notices : List Notice

/-- Lays the settings over each other in order and lists the markers. -/
def describe (role : Role) (pieces : List Piece) : Descriptor :=
  let settings := (pieces.filterMap Piece.settings?).map role.admit
  { settings.foldl Descriptor.overlay {} with
    markers := (pieces.filterMap Piece.marker?).filter role.keeps }

def extract (role : Role) (doc : Document) : Extraction :=
  let pieces := documentPieces doc
  { fragment := .ofSegments (pieces.filterMap Piece.segment?)
    descriptor := describe role pieces
    notices := pieces.filterMap Piece.notice? }

end StaticSite.Template
