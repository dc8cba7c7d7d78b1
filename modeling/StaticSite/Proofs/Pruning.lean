/-
  Leaving elements out before a file is read.

  Reading leaves out every element that is to be removed, and every reference that does not
  say what it refers to.  They might as well be cut out of the tree first (`prune`), but for
  one thing: a start tag is written with the line feed that its first child asks for, and
  which child is the first is decided before any of them is left out.  So the text of a tree
  that was pruned is the text that is read without pruning, with a line feed more for every
  element whose first text only then comes first (`prune_sequence`); where there is none,
  pruning changes nothing (`extract_prune`).
-/

import StaticSite.Proofs.Stencils

namespace StaticSite.Template

open Html (Tag Node Document)

/-! ## Trees without what is left out -/

mutual

/-- What a node leaves: nothing of an element that reading leaves out.  What is in a marker is not
looked at. -/
def pruneNode : Node → List Node
  | .element tag children =>
    if !isWritten tag then []
    else if (markerKind? tag).isSome then [.element tag children]
    else [.element tag (pruneNodes children)]
  | node => [node]

def pruneNodes : List Node → List Node
  | [] => []
  | node :: rest => pruneNode node ++ pruneNodes rest

end

/-- A document without what reading leaves out. -/
def prune (doc : Document) : Document := ⟨pruneNodes doc.nodes⟩

mutual

/-- The elements that reading comes by, with their children: those to be removed are passed over
with all that is in them, and markers with what is in them. -/
def visitedFrom : Node → List (Tag × List Node)
  | .element tag children =>
    if tag.hasClass removalClass then []
    else (tag, children) :: if (markerKind? tag).isSome then [] else visitedIn children
  | _ => []

def visitedIn : List Node → List (Tag × List Node)
  | [] => []
  | node :: rest => visitedFrom node ++ visitedIn rest

end

/-- Whether a text with a line feed comes first in an element only after pruning, where a reader
drops that line feed. -/
def exposesNewline (e : Tag × List Node) : Bool :=
  Html.newlineDroppingNames.contains e.1.name && !Html.startsWithNewline e.2
    && Html.startsWithNewline (pruneNodes e.2)

/-- Whether an element is a reference that does not say what it refers to. -/
def isBareReference (tag : Tag) : Bool := markerKind? tag == some .splice && !isWritten tag

/-! ## Line feeds -/

/-- A text that comes first stays where it is. -/
theorem startsWithNewline_pruneNodes {nodes : List Node} (h : Html.startsWithNewline nodes) :
    Html.startsWithNewline (pruneNodes nodes) := by
  cases nodes with
  | nil => exact h
  | cons node rest =>
    cases node with
    | text s => exact h
    | doctype name => exact h
    | comment s => exact h
    | element tag children => exact absurd h Bool.false_ne_true

/-- Markers restore no line feed. -/
theorem exposesNewline_of_marker {tag : Tag} {children : List Node}
    (h : (markerKind? tag).isSome) : exposesNewline (tag, children) = false := by
  have hname : tag.name = "embed" ∨ tag.name = "link" := by
    unfold markerKind? at h
    split at h
    · next hembed => exact .inl (by simpa using hembed)
    · split at h
      · next hlink => exact .inr (by simpa using hlink)
      · cases h
  have hkept : Html.newlineDroppingNames.contains tag.name = false := by
    rcases hname with hname | hname <;> rw [hname] <;> decide
  rw [exposesNewline, hkept]
  rfl

/-- The line feed behind the start tag of a pruned element. -/
theorem leadingNewline_prune (tag : Tag) (children : List Node) :
    tag.leadingNewline (pruneNodes children) =
      if exposesNewline (tag, children) then tag.leadingNewline children ++ "\n"
      else tag.leadingNewline children := by
  have hkept := @startsWithNewline_pruneNodes children
  unfold Tag.leadingNewline exposesNewline
  cases hname : Html.newlineDroppingNames.contains tag.name with
  | false => simp
  | true =>
    cases hbefore : Html.startsWithNewline children with
    | true => simp [hkept hbefore]
    | false => cases hafter : Html.startsWithNewline (pruneNodes children) <;> simp

/-! ## What is written -/

/-- The characters and markers of some pieces. -/
def sequence (pieces : List Piece) : List (Char ⊕ Marker) :=
  Fragment.flatten (pieces.filterMap Piece.segment?)

@[simp]
theorem sequence_append (a b : List Piece) : sequence (a ++ b) = sequence a ++ sequence b := by
  simp [sequence, List.filterMap_append]

@[simp]
theorem sequence_html (text : String) (rest : List Piece) :
    sequence (.html text :: rest) = Fragment.chars text ++ sequence rest := rfl

@[simp]
theorem sequence_nil : sequence [] = [] := rfl

@[simp]
theorem sequence_settingsPieces (tag : Tag) : sequence (settingsPieces tag) = [] := by
  rw [sequence, disregards_segment.settingsPieces]
  rfl

/-- A sequence with some items added to it. -/
structure Extended (before after : List (Char ⊕ Marker)) (added : Nat) : Prop where
  sublist : List.Sublist before after
  length : after.length = before.length + added

namespace Extended

variable {before after before' after' : List (Char ⊕ Marker)} {added added' : Nat}

theorem refl (before : List (Char ⊕ Marker)) : Extended before before 0 := ⟨.refl _, rfl⟩

theorem append (h : Extended before after added) (h' : Extended before' after' added') :
    Extended (before ++ before') (after ++ after') (added + added') := by
  refine ⟨h.sublist.append h'.sublist, ?_⟩
  rw [List.length_append, List.length_append, h.length, h'.length]
  omega

theorem eq_iff (h : Extended before after added) : after = before ↔ added = 0 := by
  constructor
  · intro heq
    have hlength := h.length
    rw [heq] at hlength
    omega
  · intro hnone
    refine (h.sublist.eq_of_length ?_).symm
    rw [h.length, hnone, Nat.add_zero]

end Extended

/-- A reference that does not say what it refers to leaves a notice only. -/
theorem markerPiece_of_not_written {tag : Tag} {kind : MarkerKind}
    (hkind : markerKind? tag = some kind) (hstays : ¬tag.hasClass removalClass)
    (h : ¬isWritten tag) : kind = .splice ∧ markerPiece tag kind = .notice .referenceWithoutSrc := by
  cases kind with
  | slot s => simp [isWritten, hstays, hkind] at h
  | splice =>
    have hsrc : (tag.attr? "src").getD "" = "" := by simpa [isWritten, hstays, hkind] using h
    refine ⟨rfl, ?_⟩
    cases hattr : tag.attr? "src" with
    | none => simp only [markerPiece, hattr]
    | some src =>
      obtain rfl : src = "" := by simpa [hattr] using hsrc
      simp only [markerPiece, hattr]

/-- The start tag of an element before and after pruning. -/
theorem extended_renderStart (tag : Tag) (children : List Node) :
    Extended (Fragment.chars ((writtenTag tag).renderStart children))
      (Fragment.chars ((writtenTag tag).renderStart (pruneNodes children)))
      (if exposesNewline (tag, children) then 1 else 0) := by
  have hnewline : (writtenTag tag).leadingNewline (pruneNodes children) = _ :=
    leadingNewline_prune (writtenTag tag) children
  have hsame : exposesNewline (writtenTag tag, children) = exposesNewline (tag, children) := rfl
  rw [hsame] at hnewline
  simp only [Tag.renderStart, hnewline]
  split
  · rw [← String.append_assoc, Fragment.chars_append _ "\n"]
    exact ⟨List.sublist_append_left _ _, List.length_append⟩
  · exact .refl _

mutual

theorem pruneNode_sequence (raw : Bool) (node : Node) :
    Extended (sequence (nodePieces raw node)) (sequence (nodesPieces raw (pruneNode node)))
      ((visitedFrom node).countP exposesNewline) := by
  match node with
  | .doctype name =>
    rw [show pruneNode _ = [_] from rfl, nodesPieces_singleton]
    exact .refl _
  | .comment s =>
    rw [show pruneNode _ = [_] from rfl, nodesPieces_singleton]
    exact .refl _
  | .text s =>
    rw [show pruneNode _ = [_] from rfl, nodesPieces_singleton]
    exact .refl _
  | .element tag children =>
    have hcount (rest : List (Tag × List Node)) : ((tag, children) :: rest).countP exposesNewline =
        (if exposesNewline (tag, children) then 1 else 0) + rest.countP exposesNewline := by
      rw [List.countP_cons, Nat.add_comm]
    by_cases hremoved : tag.hasClass removalClass
    · have hleft : isWritten tag = false := by simp [isWritten, hremoved]
      rw [nodePieces, if_pos hremoved, pruneNode, hleft, visitedFrom, if_pos hremoved]
      exact .refl _
    · rw [visitedFrom, if_neg hremoved, hcount]
      cases hkind : markerKind? tag with
      | some kind =>
        -- Nothing is restored for a marker, whether it is kept or not.
        have hmarker : (markerKind? tag).isSome := by rw [hkind]; rfl
        have hnone : exposesNewline (tag, children) = false := exposesNewline_of_marker hmarker
        rw [hnone]
        by_cases hwritten : isWritten tag
        · have hkept : pruneNode (.element tag children) = [.element tag children] := by
            simp [pruneNode, hwritten, hkind]
          rw [hkept, nodesPieces_singleton]
          exact .refl _
        · have hleft : pruneNode (.element tag children) = [] := by simp [pruneNode, hwritten]
          have hnotice := (markerPiece_of_not_written hkind hremoved hwritten).2
          rw [hleft, nodePieces, if_neg hremoved, sequence_append, sequence_settingsPieces, hkind]
          simp only [hnotice]
          exact .refl _
      | none =>
        have hwritten : isWritten tag := by simp [isWritten, hremoved, hkind]
        have hkept : pruneNode (.element tag children) =
            [.element tag (pruneNodes children)] := by simp [pruneNode, hwritten, hkind]
        have hchildren := pruneNodes_sequence tag.hasRawText children
        rw [hkept, nodesPieces_singleton]
        simp only [nodePieces, if_neg hremoved, hkind, List.cons_append, sequence_append,
          sequence_settingsPieces, sequence_html, sequence_nil, List.nil_append]
        exact (extended_renderStart tag children).append (hchildren.append (.refl _))

theorem pruneNodes_sequence (raw : Bool) (nodes : List Node) :
    Extended (sequence (nodesPieces raw nodes)) (sequence (nodesPieces raw (pruneNodes nodes)))
      ((visitedIn nodes).countP exposesNewline) := by
  match nodes with
  | [] => exact .refl _
  | node :: rest =>
    rw [pruneNodes, nodesPieces_append, nodesPieces, sequence_append, sequence_append, visitedIn,
      List.countP_append]
    exact (pruneNode_sequence raw node).append (pruneNodes_sequence raw rest)

end

/-! ## What is kept beside the text -/

/-- A view of the pieces that sees neither text nor notices. -/
structure Overlooks {β : Type} (view : Piece → Option β) : Prop where
  html (text : String) : view (.html text) = none
  notice (n : Notice) : view (.notice n) = none

mutual

/-- Pruning changes such a view only where a reference that does not say what it refers to has
settings of its own. -/
theorem view_pruneNode {β : Type} {view : Piece → Option β} (hview : Overlooks view) (raw : Bool)
    (node : Node)
    (h : ∀ e ∈ visitedFrom node, isBareReference e.1 → (settingsPieces e.1).filterMap view = []) :
    (nodesPieces raw (pruneNode node)).filterMap view = (nodePieces raw node).filterMap view := by
  match node with
  | .doctype name => rw [show pruneNode _ = [_] from rfl, nodesPieces_singleton]
  | .comment s => rw [show pruneNode _ = [_] from rfl, nodesPieces_singleton]
  | .text s => rw [show pruneNode _ = [_] from rfl, nodesPieces_singleton]
  | .element tag children =>
    by_cases hremoved : tag.hasClass removalClass
    · have hleft : isWritten tag = false := by simp [isWritten, hremoved]
      rw [nodePieces, if_pos hremoved, pruneNode, hleft]
      rfl
    · rw [visitedFrom, if_neg hremoved] at h
      by_cases hwritten : isWritten tag
      · cases hkind : markerKind? tag with
        | some kind =>
          have hkept : pruneNode (.element tag children) = [.element tag children] := by
            simp [pruneNode, hwritten, hkind]
          rw [hkept, nodesPieces_singleton]
        | none =>
          have hkept : pruneNode (.element tag children) =
              [.element tag (pruneNodes children)] := by simp [pruneNode, hwritten, hkind]
          have hchildren := view_pruneNodes hview tag.hasRawText children fun e he =>
            h e (by rw [hkind]; exact List.mem_cons_of_mem _ he)
          rw [hkept, nodesPieces_singleton]
          simp only [nodePieces, if_neg hremoved, hkind, List.cons_append, List.filterMap_append,
            List.filterMap_cons, hview.html, hchildren]
      · -- What is not written is a reference without a source, and leaves a notice.
        have hleft : pruneNode (.element tag children) = [] := by simp [pruneNode, hwritten]
        cases hkind : markerKind? tag with
        | none => exact absurd (by simp [isWritten, hremoved, hkind]) hwritten
        | some kind =>
          obtain ⟨rfl, hnotice⟩ := markerPiece_of_not_written hkind hremoved hwritten
          have hbare : isBareReference tag := by simp [isBareReference, hkind, hwritten]
          rw [hleft, nodePieces, if_neg hremoved, hkind, List.filterMap_append,
            h _ List.mem_cons_self hbare]
          simp only [hnotice, List.filterMap_cons, hview.notice]
          rfl

theorem view_pruneNodes {β : Type} {view : Piece → Option β} (hview : Overlooks view) (raw : Bool)
    (nodes : List Node)
    (h : ∀ e ∈ visitedIn nodes, isBareReference e.1 → (settingsPieces e.1).filterMap view = []) :
    (nodesPieces raw (pruneNodes nodes)).filterMap view = (nodesPieces raw nodes).filterMap view := by
  match nodes with
  | [] => rfl
  | node :: rest =>
    have hnode := view_pruneNode hview raw node fun e he => h e (List.mem_append_left _ he)
    have hrest := view_pruneNodes hview raw rest fun e he => h e (List.mem_append_right _ he)
    rw [pruneNodes, nodesPieces_append, nodesPieces, List.filterMap_append, List.filterMap_append,
      hnode, hrest]

end

theorem overlooks_marker : Overlooks Piece.marker? := ⟨fun _ => rfl, fun _ => rfl⟩

theorem overlooks_settings : Overlooks Piece.settings? := ⟨fun _ => rfl, fun _ => rfl⟩

theorem settingsPieces_eq_nil {tag : Tag} (h : tag.attr? settingsAttribute = none) :
    settingsPieces tag = [] := by
  rw [settingsPieces, h]

/-! ## Reading a pruned file -/

/-- Pruning adds one line feed for every element that exposes one, and otherwise leaves the text and
the markers as they are; so the fragment stays the same just where no element does.  The markers and
settings stay the same unless a reference without a source has settings of its own. -/
theorem extract_prune (role : Role) (doc : Document) :
    Extended (extract role doc).fragment.flat (extract role (prune doc)).fragment.flat
      ((visitedIn doc.nodes).countP exposesNewline) ∧
    ((extract role (prune doc)).fragment = (extract role doc).fragment ↔
      ∀ e ∈ visitedIn doc.nodes, exposesNewline e = false) ∧
    ((∀ e ∈ visitedIn doc.nodes, isBareReference e.1 → e.1.attr? settingsAttribute = none) →
      (extract role (prune doc)).descriptor = (extract role doc).descriptor) := by
  have hflat (d : Document) : (extract role d).fragment.flat = sequence (documentPieces d) :=
    Fragment.flat_ofSegments _
  have hextended : Extended (extract role doc).fragment.flat (extract role (prune doc)).fragment.flat
      ((visitedIn doc.nodes).countP exposesNewline) := by
    rw [hflat, hflat]
    exact pruneNodes_sequence false doc.nodes
  refine ⟨hextended, ?_, fun hbare => ?_⟩
  · -- Both fragments are joined, so they are the same if their characters and markers are.
    have hsame : (extract role (prune doc)).fragment = (extract role doc).fragment ↔
        (extract role (prune doc)).fragment.flat = (extract role doc).fragment.flat := by
      constructor
      · intro h
        rw [h]
      · exact Fragment.eq_of_flat (extract_isJoined _ _) (extract_isJoined _ _)
    rw [hsame, hextended.eq_iff, List.countP_eq_zero]
    simp only [Bool.not_eq_true]
  · have hmarkers : (documentPieces (prune doc)).filterMap Piece.marker? =
        (documentPieces doc).filterMap Piece.marker? :=
      view_pruneNodes overlooks_marker false doc.nodes fun e _ _ => marker?_settingsPieces e.1
    have hsettings : (documentPieces (prune doc)).filterMap Piece.settings? =
        (documentPieces doc).filterMap Piece.settings? :=
      view_pruneNodes overlooks_settings false doc.nodes fun e he href => by
        rw [settingsPieces_eq_nil (hbare e he href)]
        rfl
    show describe role (documentPieces (prune doc)) = describe role (documentPieces doc)
    rw [describe, describe, hmarkers, hsettings]

/-- An element to be removed before a text, and a reference without a source behind it. -/
def leftoverDocument (text : String) : Document where
  nodes := [
    .element { name := "pre" } [
      .element { name := "i", attrs := [⟨"class", "a ham-remove"⟩] } [.text "preview"],
      .text text,
      .element { name := "embed", attrs := [⟨"type", "ham/partial"⟩] } []]]

theorem extract_prune_leftover :
    (∀ e ∈ visitedIn (leftoverDocument "x").nodes, exposesNewline e = false) ∧
    (∀ e ∈ visitedIn (leftoverDocument "x").nodes,
      isBareReference e.1 → e.1.attr? settingsAttribute = none) ∧
    (extract .page (prune (leftoverDocument "x"))).fragment =
      (extract .page (leftoverDocument "x")).fragment ∧
    (extract .page (prune (leftoverDocument "x"))).descriptor =
      (extract .page (leftoverDocument "x")).descriptor := by
  have hnone : ∀ e ∈ visitedIn (leftoverDocument "x").nodes, exposesNewline e = false := by
    decide +kernel
  have hbare : ∀ e ∈ visitedIn (leftoverDocument "x").nodes,
      isBareReference e.1 → e.1.attr? settingsAttribute = none := by decide +kernel
  obtain ⟨-, hfragment, hdescriptor⟩ := extract_prune .page (leftoverDocument "x")
  exact ⟨hnone, hbare, hfragment.2 hnone, hdescriptor hbare⟩

/-- What is removed takes a line feed with it: a reader will drop the one that is left. -/
theorem prune_changes_fragment :
    (extract .page (prune (leftoverDocument "\nx"))).fragment ≠
      (extract .page (leftoverDocument "\nx")).fragment ∧
    (extract .page (leftoverDocument "\nx")).fragment.segments = [.html "<pre>\nx</pre>"] ∧
    (extract .page (prune (leftoverDocument "\nx"))).fragment.segments =
      [.html "<pre>\n\nx</pre>"] := by
  decide +kernel

end StaticSite.Template
