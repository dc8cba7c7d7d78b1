/-
  Settings in document order.

  The walk over a file lays settings over each other as it comes by them, whatever else it
  does at an element.  What that comes to can be told of the elements alone, in document
  order: each value of the descriptor is the one that the last settings name that name it at
  all (`Named.foldl_overlay`, `settings_nodesPieces`).  For the rest of the walk the settings might
  as well not be there: a file from which they are taken away leaves the same fragment and
  the same markers (`view_writtenNodes`).
-/

import StaticSite.Proofs.Pruning
import StaticSite.Proofs.Walker

namespace StaticSite.Template

open Html (Tag Node Document)

/-! ## The last word -/

/-- The value that the last settings give that name it. -/
def lastNamed {α : Type} (named : Settings → Option α) (all : List Settings) : Option α :=
  (all.filterMap named).getLast?

theorem lastNamed_cons {α : Type} (named : Settings → Option α) (s : Settings)
    (rest : List Settings) (default : α) :
    (lastNamed named (s :: rest)).getD default =
      (lastNamed named rest).getD ((named s).getD default) := by
  unfold lastNamed
  cases hs : named s with
  | none => rw [List.filterMap_cons_none hs, Option.getD_none]
  | some value =>
    rw [List.filterMap_cons_some hs, List.getLast?_cons, Option.getD_some, Option.getD_some]

/-- A value of a descriptor that is named by settings, and by nothing else. -/
structure Named {α : Type} (value : Descriptor → α) (named : Settings → Option α) : Prop where
  overlay (d : Descriptor) (s : Settings) : value (d.overlay s) = (named s).getD (value d)
  markers (d : Descriptor) (markers : List Marker) : value { d with markers } = value d

theorem named_layout : Named Descriptor.layout Settings.layout := ⟨fun _ _ => rfl, fun _ _ => rfl⟩

theorem named_css : Named Descriptor.css Settings.css := ⟨fun _ _ => rfl, fun _ _ => rfl⟩

theorem named_js : Named Descriptor.js Settings.js := ⟨fun _ _ => rfl, fun _ _ => rfl⟩

theorem named_modules : Named Descriptor.modules Settings.modules :=
  ⟨fun _ _ => rfl, fun _ _ => rfl⟩

/-- What settings that are laid over each other leave of a value is the last one that they name. -/
theorem Named.foldl_overlay {α : Type} {value : Descriptor → α} {named : Settings → Option α}
    (h : Named value named) (all : List Settings) (d : Descriptor) :
    value (all.foldl Descriptor.overlay d) = (lastNamed named all).getD (value d) := by
  induction all generalizing d with
  | nil => rfl
  | cons s rest ih => rw [List.foldl_cons, ih, h.overlay, lastNamed_cons]

/-! ## Settings that are met -/

/-- The settings on a tag, if it has some and they can be read. -/
def settingsOn? (tag : Tag) : Option Settings :=
  (tag.attr? settingsAttribute).bind fun json => (Settings.parse json).toOption

/-- The settings on some elements, in their order. -/
def settingsOn (elements : List (Tag × List Node)) : List Settings :=
  elements.filterMap fun e => settingsOn? e.1

/-- The settings on the elements that reading comes by, in document order. -/
def settingsOf (doc : Document) : List Settings := settingsOn (visitedIn doc.nodes)

theorem settingsOn_append (a b : List (Tag × List Node)) :
    settingsOn (a ++ b) = settingsOn a ++ settingsOn b := List.filterMap_append

theorem settingsOn_cons (e : Tag × List Node) (rest : List (Tag × List Node)) :
    settingsOn (e :: rest) = settingsOn [e] ++ settingsOn rest := settingsOn_append [e] rest

theorem settings_settingsPieces (tag : Tag) (children : List Node) :
    (settingsPieces tag).filterMap Piece.settings? = settingsOn [(tag, children)] := by
  rw [settingsOn, settingsPieces]
  cases hattr : tag.attr? settingsAttribute with
  | none => simp [settingsOn?, hattr]
  | some json =>
    cases hread : Settings.parse json <;>
      simp [settingsOn?, hattr, hread, Except.toOption, Piece.settings?]

theorem settings?_markerPiece (tag : Tag) (kind : MarkerKind) :
    (markerPiece tag kind).settings? = none := by
  cases kind with
  | slot s => rfl
  | splice =>
    simp only [markerPiece]
    split <;> rfl

mutual

theorem settings_nodePieces (raw : Bool) (node : Node) :
    (nodePieces raw node).filterMap Piece.settings? = settingsOn (visitedFrom node) := by
  match node with
  | .doctype _ | .comment _ | .text _ =>
    rw [nodePieces]
    rfl
  | .element tag children =>
    rw [nodePieces, visitedFrom]
    split
    · rfl
    · -- The settings of an element come before those of what is in it.
      rw [List.filterMap_append, settings_settingsPieces tag children]
      cases markerKind? tag with
      | some kind =>
        -- What is in a marker is not walked.
        simp only [List.filterMap_cons_none (settings?_markerPiece tag kind)]
        exact List.append_nil _
      | none =>
        dsimp only
        rw [List.cons_append, List.filterMap_cons_none rfl, List.filterMap_append,
          settings_nodesPieces, List.filterMap_cons_none rfl, List.filterMap_nil, List.append_nil]
        exact (settingsOn_cons _ _).symm

theorem settings_nodesPieces (raw : Bool) (nodes : List Node) :
    (nodesPieces raw nodes).filterMap Piece.settings? = settingsOn (visitedIn nodes) := by
  match nodes with
  | [] => rfl
  | node :: rest =>
    rw [nodesPieces, visitedIn, List.filterMap_append, settingsOn_append, settings_nodePieces,
      settings_nodesPieces]

end

/-- A value of a file is the last one that is named by what its role admits. -/
theorem Named.extract {α : Type} {value : Descriptor → α} {named : Settings → Option α}
    (h : Named value named) (role : Role) (doc : Document) :
    value (extract role doc).descriptor =
      (lastNamed (named ∘ role.admit) (settingsOf doc)).getD (value {}) := by
  have hsettings : (documentPieces doc).filterMap Piece.settings? = settingsOf doc :=
    settings_nodesPieces false doc.nodes
  show value (describe role (documentPieces doc)) = _
  rw [describe, h.markers, hsettings, h.foldl_overlay, lastNamed, lastNamed, List.filterMap_map]

/-! ## Files without settings -/

mutual

/-- A node whose tags are as they are written. -/
def writtenNode : Node → Node
  | .element tag children => .element (writtenTag tag) (writtenNodes children)
  | node => node

def writtenNodes : List Node → List Node
  | [] => []
  | node :: rest => writtenNode node :: writtenNodes rest

end

/-- A document without its settings, whether they can be read or not. -/
def withoutSettings (doc : Document) : Document := ⟨writtenNodes doc.nodes⟩

/-- No other attribute of a tag has changed. -/
theorem attr?_writtenTag (tag : Tag) {name : String} (h : name ≠ settingsAttribute) :
    (writtenTag tag).attr? name = tag.attr? name := by
  have hkept (attr : Html.Attribute) :
      decide (attr.name != settingsAttribute ∧ attr.name == name) = (attr.name == name) := by
    by_cases hname : attr.name = name <;> simp [hname, h]
  rw [Tag.attr?, Tag.attr?, writtenTag, List.find?_filter, funext hkept]

theorem hasClass_writtenTag (tag : Tag) (word : String) :
    (writtenTag tag).hasClass word = tag.hasClass word := by
  rw [Tag.hasClass, Tag.hasClass, attr?_writtenTag tag (by decide)]

theorem markerKind?_writtenTag (tag : Tag) : markerKind? (writtenTag tag) = markerKind? tag := by
  rw [markerKind?, markerKind?, attr?_writtenTag tag (by decide)]
  rfl

theorem markerPiece_writtenTag (tag : Tag) (kind : MarkerKind) :
    markerPiece (writtenTag tag) kind = markerPiece tag kind := by
  cases kind with
  | slot s => rfl
  | splice =>
    rw [markerPiece, markerPiece, attr?_writtenTag tag (by decide),
      attr?_writtenTag tag (by decide)]

theorem writtenTag_writtenTag (tag : Tag) : writtenTag (writtenTag tag) = writtenTag tag := by
  simp [writtenTag]

theorem startsWithNewline_writtenNodes (nodes : List Node) :
    Html.startsWithNewline (writtenNodes nodes) = Html.startsWithNewline nodes := by
  cases nodes with
  | nil => rfl
  | cons node rest => cases node <;> rfl

theorem renderStart_writtenNodes (tag : Tag) (children : List Node) :
    tag.renderStart (writtenNodes children) = tag.renderStart children := by
  rw [Tag.renderStart, Tag.renderStart, Tag.leadingNewline, Tag.leadingNewline,
    startsWithNewline_writtenNodes]

mutual

/-- Settings change nothing of a view that does not see them. -/
theorem view_writtenNode {β : Type} {view : Piece → Option β} (h : Disregards view) (raw : Bool)
    (node : Node) :
    (nodePieces raw (writtenNode node)).filterMap view = (nodePieces raw node).filterMap view := by
  match node with
  | .doctype _ | .comment _ | .text _ => rfl
  | .element tag children =>
    rw [writtenNode, nodePieces, nodePieces, hasClass_writtenTag]
    split
    · rfl
    · rw [List.filterMap_append, List.filterMap_append, h.settingsPieces, h.settingsPieces,
        markerKind?_writtenTag]
      cases markerKind? tag with
      | some kind =>
        dsimp only
        rw [markerPiece_writtenTag]
      | none =>
        have hraw : (writtenTag tag).hasRawText = tag.hasRawText := rfl
        have hend : (writtenTag tag).renderEnd = tag.renderEnd := rfl
        dsimp only
        rw [writtenTag_writtenTag, renderStart_writtenNodes, hraw, hend, List.cons_append,
          List.cons_append, List.filterMap_cons, List.filterMap_cons, List.filterMap_append,
          List.filterMap_append, view_writtenNodes h]

theorem view_writtenNodes {β : Type} {view : Piece → Option β} (h : Disregards view) (raw : Bool)
    (nodes : List Node) :
    (nodesPieces raw (writtenNodes nodes)).filterMap view =
      (nodesPieces raw nodes).filterMap view := by
  match nodes with
  | [] => rfl
  | node :: rest =>
    rw [writtenNodes, nodesPieces, nodesPieces, List.filterMap_append, List.filterMap_append,
      view_writtenNode h, view_writtenNodes h]

end

/-! ## What a descriptor says -/

/-- The layout that a file asks for: a page for the last one that is named, a layout for none. -/
def Role.layoutNamed : Role → List Settings → String
  | .page, all => (lastNamed (·.layout) all).getD ""
  | .layout, _ => ""

/-- What the settings of a file come to. -/
structure Overlaid (role : Role) (doc : Document) : Prop where
  css : (extract role doc).descriptor.css = (lastNamed (·.css) (settingsOf doc)).getD []
  js : (extract role doc).descriptor.js = (lastNamed (·.js) (settingsOf doc)).getD []
  modules : (extract role doc).descriptor.modules = (lastNamed (·.modules) (settingsOf doc)).getD []
  layout : (extract role doc).descriptor.layout = role.layoutNamed (settingsOf doc)
  /-- The walk that carries the descriptor with it comes to the same. -/
  walked : Walker.run role doc = extract role doc
  /-- The text and its markers do not depend on any settings, whether they can be read or not. -/
  fragment : ∀ other, withoutSettings other = withoutSettings doc →
    (extract role other).fragment = (extract role doc).fragment
  markers : ∀ other, withoutSettings other = withoutSettings doc →
    (extract role other).descriptor.markers = (extract role doc).descriptor.markers

/-- What a view disregards may differ between two files. -/
theorem Disregards.congr {β : Type} {view : Piece → Option β} (h : Disregards view)
    {doc other : Document} (hsame : withoutSettings other = withoutSettings doc) :
    (documentPieces other).filterMap view = (documentPieces doc).filterMap view := by
  have hnodes : writtenNodes other.nodes = writtenNodes doc.nodes := congrArg (·.nodes) hsame
  rw [documentPieces, documentPieces, ← view_writtenNodes h, hnodes, view_writtenNodes h]

/-- Every value of a descriptor is the last one that is named in document order, and settings have
no part in anything else. -/
theorem extract_overlays (role : Role) (doc : Document) : Overlaid role doc where
  css := by cases role <;> exact named_css.extract _ doc
  js := by cases role <;> exact named_js.extract _ doc
  modules := by cases role <;> exact named_modules.extract _ doc
  layout := by
    rw [named_layout.extract role doc]
    cases role with
    | page => rfl
    | layout =>
      -- What a layout admits names no layout.
      have hnone : (settingsOf doc).filterMap (Settings.layout ∘ Role.layout.admit) = [] :=
        List.filterMap_eq_nil_iff.2 fun _ _ => rfl
      rw [lastNamed, hnone]
      rfl
  walked := Walker.run_eq role doc
  fragment other hsame := by
    show Fragment.ofSegments _ = Fragment.ofSegments _
    rw [disregards_segment.congr hsame]
  markers other hsame := by
    show List.filter _ _ = List.filter _ _
    rw [disregards_marker.congr hsame]

end StaticSite.Template
