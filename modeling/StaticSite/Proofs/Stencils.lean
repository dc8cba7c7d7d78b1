/-
  What reading a file writes of its tree.

  A file is written twice: a document by `Document.render`, and its pieces one after the
  other as the reader comes by them.  The two agree, except where the reader puts a marker.
  A stencil is a tree with such places in it, each with the text that stands there; a tree
  without any is written as a stencil like it is written as a document
  (`Stencil.renderAll_ofNodes`).  The fragment of a file is written as the stencil that its
  tree leaves when settings are taken off and markers are cut out (`extract_writes`).
-/

import StaticSite.Proofs.Canonical

namespace StaticSite

namespace Html

/-! ## Stencils -/

/-- A node of a tree in which some nodes are texts that are written as they are. -/
inductive Stencil where
  | doctype (name : String)
  | comment (text : String)
  | text (text : String)
  | verbatim (text : String)
  | element (tag : Tag) (children : List Stencil)
  deriving Repr

namespace Stencil

/-- Whether the nodes begin with a text that begins with a line feed; what is written as it is
counts as no text. -/
def startsWithNewline : List Stencil → Bool
  | .text s :: _ => s.toList.head? == some '\n'
  | _ => false

/-- The start tag, and the line feed that has to follow it. -/
def renderStart (tag : Tag) (children : List Stencil) : String :=
  "<" ++ tag.name ++ String.join (tag.attrs.map Attribute.render) ++ ">"
    ++ if newlineDroppingNames.contains tag.name && startsWithNewline children then "\n" else ""

mutual

/-- The node as HTML; `raw` says that its parent takes text verbatim. -/
def render (raw : Bool) : Stencil → String
  | .doctype name => "<!DOCTYPE " ++ name ++ ">"
  | .comment s => "<!--" ++ s ++ "-->"
  | .text s => renderText raw s
  | .verbatim s => s
  | .element tag children =>
    renderStart tag children ++ renderAll tag.hasRawText children ++ tag.renderEnd

/-- Sibling nodes one after the other. -/
def renderAll (raw : Bool) : List Stencil → String
  | [] => ""
  | node :: rest => node.render raw ++ renderAll raw rest

end

mutual

/-- A tree as a stencil with nothing cut out. -/
def ofNode : Node → Stencil
  | .doctype name => .doctype name
  | .comment s => .comment s
  | .text s => .text s
  | .element tag children => .element tag (ofNodes children)

def ofNodes : List Node → List Stencil
  | [] => []
  | node :: rest => ofNode node :: ofNodes rest

end

theorem startsWithNewline_ofNodes (nodes : List Node) :
    startsWithNewline (ofNodes nodes) = Html.startsWithNewline nodes := by
  cases nodes with
  | nil => rfl
  | cons node rest => cases node <;> rfl

theorem renderStart_ofNodes (tag : Tag) (nodes : List Node) :
    renderStart tag (ofNodes nodes) = tag.renderStart nodes := by
  rw [renderStart, startsWithNewline_ofNodes]
  rfl

mutual

theorem render_ofNode (raw : Bool) (node : Node) : (ofNode node).render raw = node.render raw := by
  match node with
  | .doctype name => rfl
  | .comment s => rfl
  | .text s => rfl
  | .element tag children =>
    rw [ofNode, render, Node.render, renderStart_ofNodes, renderAll_ofNodes]

/-- Nothing but what is cut out makes a stencil different from a document. -/
theorem renderAll_ofNodes (raw : Bool) (nodes : List Node) :
    renderAll raw (ofNodes nodes) = Node.renderAll raw nodes := by
  match nodes with
  | [] => rfl
  | node :: rest => rw [ofNodes, renderAll, Node.renderAll, render_ofNode, renderAll_ofNodes]

end

end Stencil

/-! ## Tags of a tree -/

mutual

/-- Whether all tags of a node and below it satisfy a test. -/
def Node.everyTag (p : Tag → Bool) : Node → Bool
  | .element tag children => p tag && Node.everyTagOf p children
  | _ => true

def Node.everyTagOf (p : Tag → Bool) : List Node → Bool
  | [] => true
  | node :: rest => node.everyTag p && Node.everyTagOf p rest

end

end Html

namespace Template

open Html (Tag Node Document Stencil)

/-! ## The stencil of a file -/

/-- How a marker element is written. -/
def markerText (tag : Tag) : MarkerKind → String
  | .slot s => (Marker.slot s).text
  | .splice => (Marker.splice { src := (tag.attr? "src").getD "" }).text

mutual

/-- What a node leaves when settings are taken off and markers are cut out. -/
def stencil : Node → Stencil
  | .doctype name => .doctype name
  | .comment s => .comment s
  | .text s => .text s
  | .element tag children =>
    match markerKind? tag with
    | some kind => .verbatim (markerText tag kind)
    | none => .element (writtenTag tag) (stencils children)

def stencils : List Node → List Stencil
  | [] => []
  | node :: rest => stencil node :: stencils rest

end

/-- Whether the reader writes something for an element: it is not to be removed, and says what it
refers to if it is a reference. -/
def isWritten (tag : Tag) : Bool :=
  !tag.hasClass removalClass &&
    (markerKind? tag != some .splice || (tag.attr? "src").getD "" != "")

/-- Whether an element is no marker and has no settings. -/
def isOrdinary (tag : Tag) : Bool :=
  (markerKind? tag).isNone && tag.attrs.all (·.name != settingsAttribute)

/-! ## Settings -/

/-- A view of the pieces that sees neither settings nor notices. -/
structure Disregards {β : Type} (view : Piece → Option β) : Prop where
  settings (s : Settings) : view (.settings s) = none
  notice (n : Notice) : view (.notice n) = none

theorem Disregards.settingsPieces {β : Type} {view : Piece → Option β} (h : Disregards view)
    (tag : Tag) : (settingsPieces tag).filterMap view = [] := by
  unfold Template.settingsPieces
  split
  · rfl
  · split
    · rw [List.filterMap_cons_none (h.settings _), List.filterMap_nil]
    · rw [List.filterMap_cons_none (h.notice _), List.filterMap_nil]

theorem disregards_segment : Disregards Piece.segment? := ⟨fun _ => rfl, fun _ => rfl⟩

theorem disregards_marker : Disregards Piece.marker? := ⟨fun _ => rfl, fun _ => rfl⟩

/-! ## Reading writes the stencil -/

/-- The text of some pieces. -/
def written (pieces : List Piece) : String :=
  String.join ((pieces.filterMap Piece.segment?).map Segment.render)

theorem written_append (a b : List Piece) : written (a ++ b) = written a ++ written b := by
  simp [written, List.filterMap_append, List.map_append, String.join_append]

theorem written_html (text : String) (rest : List Piece) :
    written (.html text :: rest) = text ++ written rest := by
  simp [written, Piece.segment?, Segment.render, String.join_cons]

/-- Settings leave no trace in the text. -/
theorem written_settingsPieces (tag : Tag) : written (settingsPieces tag) = "" := by
  rw [written, disregards_segment.settingsPieces]
  rfl

/-- An element that is written and asks for a marker gets one. -/
theorem markerPiece_of_isWritten {tag : Tag} {kind : MarkerKind}
    (hkind : markerKind? tag = some kind) (h : isWritten tag) :
    ∃ m, markerPiece tag kind = .marker m ∧ m.text = markerText tag kind := by
  cases kind with
  | slot s => exact ⟨.slot s, rfl, rfl⟩
  | splice =>
    have hsrc : (tag.attr? "src").getD "" ≠ "" := by
      simpa [isWritten, hkind] using (Bool.and_eq_true_iff.1 h).2
    cases hattr : tag.attr? "src" with
    | none => simp [hattr] at hsrc
    | some src =>
      have hne : src ≠ "" := by simpa [hattr] using hsrc
      refine ⟨.splice { src, replace := tag.attr? replaceAttribute }, ?_, ?_⟩
      · simp only [markerPiece, hattr]
      · simp [markerText, hattr, Marker.text]

theorem written_markerPiece {tag : Tag} {kind : MarkerKind} (hkind : markerKind? tag = some kind)
    (h : isWritten tag) : written [markerPiece tag kind] = markerText tag kind := by
  obtain ⟨m, hpiece, htext⟩ := markerPiece_of_isWritten hkind h
  rw [hpiece, ← htext]
  simp [written, Piece.segment?, Segment.render]

/-- A marker in front is no text, so no line feed is restored for it. -/
theorem startsWithNewline_stencils (nodes : List Node) :
    Stencil.startsWithNewline (stencils nodes) = Html.startsWithNewline nodes := by
  cases nodes with
  | nil => rfl
  | cons node rest =>
    cases node with
    | element tag children =>
      rw [stencils, stencil]
      split <;> rfl
    | _ => rfl

theorem renderStart_stencils (tag : Tag) (nodes : List Node) :
    Stencil.renderStart tag (stencils nodes) = tag.renderStart nodes := by
  rw [Stencil.renderStart, startsWithNewline_stencils]
  rfl

/-- Settings do not decide how an element is written. -/
theorem writtenTag_rest (tag : Tag) : (writtenTag tag).hasRawText = tag.hasRawText ∧
    (writtenTag tag).renderEnd = tag.renderEnd := ⟨rfl, rfl⟩

mutual

theorem written_nodePieces (raw : Bool) {node : Node} (h : node.everyTag isWritten) :
    written (nodePieces raw node) = (stencil node).render raw := by
  match node with
  | .doctype name => simp [nodePieces, stencil, Stencil.render, Node.render, written, Piece.segment?,
      Segment.render]
  | .comment s => simp [nodePieces, stencil, Stencil.render, Node.render, written, Piece.segment?,
      Segment.render]
  | .text s => simp [nodePieces, stencil, Stencil.render, written, Piece.segment?, Segment.render]
  | .element tag children =>
    obtain ⟨htag, hchildren⟩ := Bool.and_eq_true_iff.1 h
    have hstays : tag.hasClass removalClass = false := by
      simpa using (Bool.and_eq_true_iff.1 htag).1
    rw [nodePieces, stencil, if_neg (by rw [hstays]; exact Bool.false_ne_true), written_append,
      written_settingsPieces, String.empty_append]
    cases hkind : markerKind? tag with
    | some kind => exact written_markerPiece hkind htag
    | none =>
      simp only [List.cons_append]
      rw [written_html, written_append, written_nodesPieces _ hchildren, Stencil.render,
        renderStart_stencils, String.append_assoc]
      simp [written, Piece.segment?, Segment.render, writtenTag_rest]

theorem written_nodesPieces (raw : Bool) {nodes : List Node} (h : Node.everyTagOf isWritten nodes) :
    written (nodesPieces raw nodes) = Stencil.renderAll raw (stencils nodes) := by
  match nodes with
  | [] => rfl
  | node :: rest =>
    obtain ⟨hnode, hrest⟩ := Bool.and_eq_true_iff.1 h
    rw [nodesPieces, written_append, written_nodePieces raw hnode, written_nodesPieces raw hrest]
    rfl

end

/-! ## Trees without markers -/

theorem writtenTag_eq_self {tag : Tag} (h : tag.attrs.all (·.name != settingsAttribute)) :
    writtenTag tag = tag := by
  rw [writtenTag, List.filter_eq_self.2 (List.all_eq_true.1 h)]

mutual

theorem stencil_eq_ofNode {node : Node} (h : node.everyTag isOrdinary) :
    stencil node = Stencil.ofNode node := by
  match node with
  | .doctype name => rfl
  | .comment s => rfl
  | .text s => rfl
  | .element tag children =>
    obtain ⟨htag, hchildren⟩ := Bool.and_eq_true_iff.1 h
    obtain ⟨hkind, hsettings⟩ := Bool.and_eq_true_iff.1 htag
    rw [stencil, Option.isNone_iff_eq_none.1 hkind, Stencil.ofNode,
      ← stencils_eq_ofNodes hchildren, writtenTag_eq_self hsettings]

theorem stencils_eq_ofNodes {nodes : List Node} (h : Node.everyTagOf isOrdinary nodes) :
    stencils nodes = Stencil.ofNodes nodes := by
  match nodes with
  | [] => rfl
  | node :: rest =>
    obtain ⟨hnode, hrest⟩ := Bool.and_eq_true_iff.1 h
    rw [stencils, Stencil.ofNodes, stencil_eq_ofNode hnode, stencils_eq_ofNodes hrest]

end

theorem marker?_settingsPieces (tag : Tag) : (settingsPieces tag).filterMap Piece.marker? = [] :=
  disregards_marker.settingsPieces tag

mutual

theorem marker?_nodePieces (raw : Bool) {node : Node} (h : node.everyTag isOrdinary) :
    (nodePieces raw node).filterMap Piece.marker? = [] := by
  match node with
  | .doctype name => rfl
  | .comment s => rfl
  | .text s => rfl
  | .element tag children =>
    obtain ⟨htag, hchildren⟩ := Bool.and_eq_true_iff.1 h
    rw [nodePieces]
    split
    · rfl
    · rw [Option.isNone_iff_eq_none.1 (Bool.and_eq_true_iff.1 htag).1, List.filterMap_append,
        marker?_settingsPieces, List.nil_append, List.cons_append, List.filterMap_cons,
        List.filterMap_append, marker?_nodesPieces _ hchildren]
      rfl

theorem marker?_nodesPieces (raw : Bool) {nodes : List Node} (h : Node.everyTagOf isOrdinary nodes) :
    (nodesPieces raw nodes).filterMap Piece.marker? = [] := by
  match nodes with
  | [] => rfl
  | node :: rest =>
    obtain ⟨hnode, hrest⟩ := Bool.and_eq_true_iff.1 h
    rw [nodesPieces, List.filterMap_append, marker?_nodePieces raw hnode,
      marker?_nodesPieces raw hrest, List.nil_append]

end

/-- The reader and the writer of documents agree: where nothing is left out, the fragment of a file
is written as its tree with the settings taken off and each marker in its text form.  A tree without
markers and settings is one text, the one that is written for the document. -/
theorem extract_writes (role : Role) (doc : Document) (h : Node.everyTagOf isWritten doc.nodes) :
    (extract role doc).fragment.render = Stencil.renderAll false (stencils doc.nodes) ∧
    (Node.everyTagOf isOrdinary doc.nodes →
      stencils doc.nodes = Stencil.ofNodes doc.nodes ∧
      Stencil.renderAll false (Stencil.ofNodes doc.nodes) = doc.render ∧
      (extract role doc).fragment.segments =
        (if doc.render = "" then [] else [.html doc.render]) ∧
      (extract role doc).descriptor.markers = []) := by
  have hrender : (extract role doc).fragment.render =
      Stencil.renderAll false (stencils doc.nodes) :=
    (Fragment.render_ofSegments _).trans (written_nodesPieces false h)
  refine ⟨hrender, fun hordinary => ?_⟩
  have hstencils := stencils_eq_ofNodes hordinary
  have hdocument := Stencil.renderAll_ofNodes false doc.nodes
  have hnone : (documentPieces doc).filterMap Piece.marker? = [] :=
    marker?_nodesPieces false hordinary
  refine ⟨hstencils, hdocument, ?_, ?_⟩
  · -- A fragment without markers is its text, which is that of the document.
    have hmarkers := (markers_extract role doc).trans hnone
    rw [Fragment.segments_of_markers_nil (extract_isJoined role doc) hmarkers, hrender, hstencils,
      hdocument, Fragment.htmlSegments, Document.render]
    simp only [String.isEmpty_iff]
  · show ((documentPieces doc).filterMap Piece.marker?).filter role.keeps = []
    rw [hnone]
    rfl

/-- Markers within text that is escaped and text that is not, behind a line feed to be restored. -/
def mixedDocument : Document where
  nodes := [
    .doctype "html",
    .element { name := "pre", attrs := [⟨"title", "a\"b"⟩, ⟨settingsAttribute, "[]"⟩] } [
      .text "\n1 < 2",
      .element { name := "embed", attrs := [⟨"type", "ham/partial"⟩, ⟨"src", "a<b.html"⟩] } []],
    .element { name := "script" } [
      .text "1 < 2",
      .element { name := "link", attrs := [⟨"type", "ham/layout-css"⟩] } [.text "unread"]]]

/-- The same without markers and settings. -/
def plainDocument : Document where
  nodes := [.element { name := "textarea" } [.text "\n", .comment "-"], .text "1 < 2"]

theorem extract_writes_mixed :
    Node.everyTagOf isWritten mixedDocument.nodes ∧
    (extract .layout mixedDocument).fragment.render =
      "<!DOCTYPE html><pre title=\"a&quot;b\">\n\n1 &lt; 2\x7bembed:a<b.html\x7d</pre>" ++
      "<script>1 < 2\x7bham:css\x7d</script>" ∧
    Node.everyTagOf isWritten plainDocument.nodes ∧ Node.everyTagOf isOrdinary plainDocument.nodes ∧
    (extract .page plainDocument).fragment.segments =
      [.html "<textarea>\n\n<!-----></textarea>1 &lt; 2"] := by
  have hmixed : Node.everyTagOf isWritten mixedDocument.nodes := by decide +kernel
  have hplain : Node.everyTagOf isWritten plainDocument.nodes := by decide +kernel
  have hordinary : Node.everyTagOf isOrdinary plainDocument.nodes := by decide +kernel
  refine ⟨hmixed, ?_, hplain, hordinary, ?_⟩
  · rw [(extract_writes .layout mixedDocument hmixed).1]
    decide +kernel
  · rw [((extract_writes .page plainDocument hplain).2 hordinary).2.2.1]
    decide +kernel

end Template

end StaticSite
