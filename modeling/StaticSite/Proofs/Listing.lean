/-
  What a descriptor lists.

  A page is compiled from two views of each file: the descriptor, from which the check for
  cycles and the bound on the passes take their references, and the fragment, from which
  the references are spliced.  The two never disagree (`Template.Listing`).  So a page that
  is merged checks exactly what it then splices, and a pass over the buffer that lists
  nothing splices nothing; both are laws of the program, for every supply that answers it
  (`Page.Listed`).
-/

import StaticSite.Proofs.Halting
import StaticSite.Proofs.Walker

namespace StaticSite

namespace Template

open Html (Tag Node Document)

/-! ## References have a source -/

/-- Whether a piece is not a reference to nothing. -/
def Piece.IsSourced : Piece → Prop
  | .marker (.splice ref) => ref.src ≠ ""
  | _ => True

theorem isSourced_markerPiece (tag : Tag) (kind : MarkerKind) : (markerPiece tag kind).IsSourced := by
  cases kind with
  | slot s => trivial
  | splice =>
    simp only [markerPiece]
    -- No source, an empty one, and one that is not empty.
    split
    · trivial
    · trivial
    · next src hne hsrc =>
      intro hempty
      exact hne hempty

theorem isSourced_settingsPieces (tag : Tag) : ∀ p ∈ settingsPieces tag, p.IsSourced := by
  intro p hp
  unfold settingsPieces at hp
  split at hp
  · cases hp
  · split at hp <;> cases List.mem_singleton.1 hp <;> trivial

mutual

theorem isSourced_nodePieces (raw : Bool) (n : Node) : ∀ p ∈ nodePieces raw n, p.IsSourced := by
  match n with
  | .text _ | .comment _ | .doctype _ =>
    intro p hp
    rw [nodePieces] at hp
    cases List.mem_singleton.1 hp
    trivial
  | .element tag children =>
    rw [nodePieces]
    split
    · nofun
    · refine List.forall_mem_append.2 ⟨isSourced_settingsPieces tag, ?_⟩
      split
      · exact List.forall_mem_singleton.2 (isSourced_markerPiece tag _)
      · refine List.forall_mem_append.2 ⟨List.forall_mem_cons.2 ⟨trivial, ?_⟩,
          List.forall_mem_singleton.2 trivial⟩
        exact isSourced_nodesPieces tag.hasRawText children

theorem isSourced_nodesPieces (raw : Bool) (nodes : List Node) :
    ∀ p ∈ nodesPieces raw nodes, p.IsSourced := by
  match nodes with
  | [] =>
    rw [nodesPieces]
    nofun
  | node :: rest =>
    rw [nodesPieces]
    exact List.forall_mem_append.2 ⟨isSourced_nodePieces raw node, isSourced_nodesPieces raw rest⟩

end

theorem src_ne_of_mem_references {role : Role} {doc : Document} {ref : Reference}
    (h : ref ∈ (extract role doc).fragment.references) : ref.src ≠ "" := by
  have hmarker := Fragment.mem_references.1 h
  rw [markers_extract] at hmarker
  obtain ⟨p, hp, hpiece⟩ := List.mem_filterMap.1 hmarker
  have hsourced := isSourced_nodesPieces false doc.nodes p hp
  cases p <;> cases hpiece
  exact hsourced

/-! ## Two views of a file -/

theorem markers_descriptor (role : Role) (doc : Document) :
    (extract role doc).descriptor.markers =
      (extract role doc).fragment.markers.filter role.keeps := by
  rw [markers_extract]
  rfl

/-- How the descriptors and the fragments of a document agree, each marker counted as often as it
stands there. -/
structure Listing (doc : Document) : Prop where
  /-- One walk that writes the lists side by side comes to both. -/
  walked : ∀ role, Walker.run role doc = extract role doc
  /-- A page lists its references, in order. -/
  page : (extract .page doc).descriptor.markers =
    (extract .page doc).fragment.references.map .splice
  sourced : ∀ ref ∈ (extract .page doc).fragment.references, ref.src ≠ ""
  /-- A page lists nothing exactly if there is nothing to splice. -/
  nothing : (extract .page doc).descriptor.markers = [] ↔
    (extract .page doc).fragment.references = []
  /-- A page lists no slot. -/
  noSlot : ∀ slot, (extract .page doc).descriptor.hasMarker (.slot slot) = false
  /-- A layout lists all its markers but the places for a page, in order. -/
  layout : (extract .layout doc).descriptor.markers =
    (extract .layout doc).fragment.markers.filter (· != .slot .page)
  /-- A layout has a kind of marker exactly if one stands in the fragment. -/
  hasMarker : ∀ kind, (extract .layout doc).descriptor.hasMarker kind = true ↔
    kind ≠ .slot .page ∧ ∃ m ∈ (extract .layout doc).fragment.markers, m.kind = kind
  /-- The role of a file does not change what is spliced and filled. -/
  fragment : (extract .page doc).fragment = (extract .layout doc).fragment

theorem filter_keeps_page (markers : List Marker) :
    markers.filter Role.page.keeps = (markers.filterMap Marker.reference?).map .splice := by
  induction markers with
  | nil => rfl
  | cons m rest ih =>
    cases m with
    | slot s => exact ih
    | splice ref => exact congrArg (Marker.splice ref :: ·) ih

theorem keeps_layout (m : Marker) : Role.layout.keeps m = (m != .slot .page) := by
  cases m with
  | slot s => cases s <;> rfl
  | splice ref => rfl

theorem listing (doc : Document) : Listing doc where
  walked role := Walker.run_eq role doc
  page := by
    rw [markers_descriptor, filter_keeps_page]
    rfl
  nothing := by
    rw [markers_descriptor, filter_keeps_page, List.map_eq_nil_iff]
    rfl
  sourced _ := src_ne_of_mem_references
  noSlot slot := by
    rw [Descriptor.hasMarker, markers_descriptor, filter_keeps_page, List.any_map, List.any_eq_false]
    intro ref _
    exact Bool.false_ne_true
  layout := by
    rw [markers_descriptor, funext keeps_layout]
  hasMarker kind := by
    -- The place for a page is the only marker of its kind.
    have hpage (m : Marker) : m ≠ .slot .page ↔ m.kind ≠ .slot .page := by
      cases m with
      | slot s => cases s <;> decide
      | splice ref => exact ⟨nofun, nofun⟩
    rw [Descriptor.hasMarker, markers_descriptor, List.any_filter, List.any_eq_true]
    constructor
    · rintro ⟨m, hm, hkept⟩
      rw [keeps_layout, Bool.and_eq_true, beq_iff_eq, bne_iff_ne, hpage] at hkept
      exact ⟨hkept.2 ▸ hkept.1, m, hm, hkept.2⟩
    · rintro ⟨hkind, m, hm, rfl⟩
      refine ⟨m, hm, ?_⟩
      rw [keeps_layout, Bool.and_eq_true, beq_iff_eq, bne_iff_ne, hpage]
      exact ⟨hkind, rfl⟩
  fragment := rfl

/-! ## Splicing asks for each reference -/

namespace Fragment

/-- Segments with texts in the place of their references, in order. -/
def putTexts : List Segment → List String → List Segment
  | [], _ => []
  | .marker (.splice _) :: rest, text :: texts => (ofHtml text).segments ++ putTexts rest texts
  | s :: rest, texts => s :: putTexts rest texts

/-- The fragment with texts in the place of its references, in order. -/
def withTexts (f : Fragment) (texts : List String) : Fragment :=
  ofSegments (putTexts f.segments texts)

variable {n : Type → Type} [Monad n] [LawfulMonad n]

/-- What a reference is filled with, and nothing else. -/
def fillReference (text : Reference → n String) : Marker → n (Option Fragment)
  | .slot _ => pure none
  | .splice ref => return some (.ofHtml (← text ref))

theorem fillSegments_eq_mapM (text : Reference → n String) (segments : List Segment) :
    fillSegments (fillReference text) segments = (do
      let texts ← ((segments.filterMap Segment.marker?).filterMap Marker.reference?).mapM text
      return putTexts segments texts) := by
  induction segments with
  | nil => simp [fillSegments, putTexts]
  | cons s rest ih =>
    cases s with
    | html t =>
      simp only [fillSegments, ih, bind_assoc, pure_bind]
      rfl
    | marker m =>
      cases m with
      | slot slot =>
        simp only [fillSegments, fillReference, ih, bind_assoc, pure_bind]
        rfl
      | splice ref =>
        -- The first text is asked for before those of the rest.
        have hrefs : ((Segment.marker (.splice ref) :: rest).filterMap Segment.marker?).filterMap
            Marker.reference? = ref :: (rest.filterMap Segment.marker?).filterMap
              Marker.reference? := rfl
        simp only [fillSegments, fillReference, ih, hrefs, List.mapM_cons, bind_assoc, pure_bind]
        rfl

theorem putTexts_nil (segments : List Segment) : putTexts segments [] = segments := by
  induction segments with
  | nil => rfl
  | cons s rest ih =>
    rw [putTexts, ih]
    nofun

theorem withTexts_nil {f : Fragment} (hf : f.IsJoined) : f.withTexts [] = f := by
  rw [withTexts, putTexts_nil]
  exact hf

end Fragment

end Template

open Template (Fragment Extraction)

variable {n : Type → Type} [Monad n] [MonadExcept BuildError n]

namespace Partial

/-- The partials that are spliced into a fragment of a file in the base directory, in order. -/
def within (root base : Path) (f : Fragment) : List Partial :=
  f.references.map (.ofReference root base)

variable [LawfulMonad n] (project : Project) (supply : Supply n) (page : Page) (base : Path)

/-- Splicing asks for the text of each reference once, in order, and for nothing else. -/
theorem spliceAll_eq_mapM (f : Fragment) : spliceAll project supply page base f = (do
    let texts ← f.references.mapM (textFor project supply page base)
    return f.withTexts texts) := by
  have hfill : spliceAll project supply page base f =
      f.substitute (Fragment.fillReference (textFor project supply page base)) := by
    refine congrArg (Fragment.substitute · f) (funext fun m => ?_)
    cases m <;> rfl
  rw [hfill, Fragment.substitute, Fragment.fillSegments_eq_mapM, bind_assoc]
  simp only [pure_bind]
  rfl

/-- Without references there is nothing to ask for. -/
theorem spliceAll_of_nil {f : Fragment} (hf : f.IsJoined) (hrefs : f.references = []) :
    spliceAll project supply page base f = pure f := by
  rw [spliceAll_eq_mapM, hrefs, List.mapM_nil, pure_bind, Fragment.withTexts_nil hf]

end Partial

/-! ## What is checked is what is spliced -/

namespace Page

variable (project : Project) (supply : Supply n) (page : Page)

/-- A document as it is merged, with the assets of the page. -/
def pageRead (doc : Html.Document) : Extraction :=
  let read := Template.extract .page doc
  { read with descriptor := withPageAssets project page read.descriptor }

/-- One pass over the buffer: what is listed decides whether the bound is reached, and what was
spliced whether to go on. -/
def bufferPass (atBound : Bool) (goOn : Progress → n Progress) (p : Progress) : n Progress := do
  let read ← reread supply p
  if !read.descriptor.markers.isEmpty && atBound then throw (.passLimit page.path p.splicing)
  else
    let spliced ← Partial.spliceAll project supply page page.dir read.fragment
    let html := (← dropSlots supply page spliced).render
    let count := read.fragment.references.length
    if count > 0 then
      goOn {
        html
        passes := p.passes + 1
        partials := p.partials + count
        splicing := p.splicing + 1 }
    else return { p with html, passes := p.passes + 1 }

/-- How the compilation of a page uses what is listed and what is spliced. -/
structure Listed : Prop where
  splices : ∀ base f, Partial.spliceAll project supply page base f = (do
    let texts ← f.references.mapM (Partial.textFor project supply page base)
    return f.withTexts texts)
  /-- Without a layout, the check starts from what is spliced into the page. -/
  alone : ∀ doc,
    let read := pageRead project page doc
    mergeWithout project supply page read = (do
      supply.tell [.compiling page.path none]
      Partial.checkCycles project supply page (Partial.within project.root page.dir read.fragment)
      let resources ← collect project supply page.dir {} read.descriptor
      return {
        fragment := ← Partial.spliceAll project supply page page.dir read.fragment
        resources
        partials := read.fragment.references.length })
  /-- In a layout, it starts from what is spliced into the page and into the layout. -/
  inLayout : ∀ doc layoutPath layoutText,
    let read := pageRead project page doc
    let layout := Template.extract .layout (.parse layoutText)
    let layoutDir := layoutPath.parent?.getD project.root
    mergeInto project supply page layoutPath layoutText read = (do
      supply.tell layout.notices
      Partial.checkCycles project supply page
        (Partial.within project.root page.dir (bodyOf read.fragment)
          ++ Partial.within project.root layoutDir layout.fragment)
      let links ← collect project supply layoutDir {} layout.descriptor
      let resources ← collect project supply page.dir links read.descriptor
      supply.tell ((unslotted layout.descriptor resources).map (.noSlotFor · layoutPath page.path))
      let frame ← Partial.spliceAll project supply page layoutDir layout.fragment
      let inner ← Partial.spliceAll project supply page page.dir (bodyOf read.fragment)
      return {
        fragment := ← insertContent supply page layoutPath frame inner
        resources
        partials := layout.fragment.references.length + (bodyOf read.fragment).references.length })
  /-- At the bound no pass goes on, whatever would come after it. -/
  atBound : ∀ goOn p, passesFrom project supply page 0 p = bufferPass project supply page true goOn p
  below : ∀ left p, passesFrom project supply page (left + 1) p =
    bufferPass project supply page false (passesFrom project supply page left) p

variable {project page}

theorem references_pageRead (doc : Html.Document) :
    (pageRead project page doc).descriptor.references =
      (pageRead project page doc).fragment.references :=
  (references_withPageAssets project page _).trans (Template.extract_references .page doc)

/-- Whether a buffer lists something is whether there is something to splice in it. -/
theorem isEmpty_markers (html : String) :
    (Template.extract .page (.parse html)).descriptor.markers.isEmpty =
      (Template.extract .page (.parse html)).fragment.references.isEmpty := by
  rw [(Template.listing _).page, List.isEmpty_map]

variable [LawfulMonad n] {supply}

/-- A pass over a buffer, when it is known whether there is something to splice. -/
theorem bufferPass_eq (atBound : Bool) (goOn : Progress → n Progress) (p : Progress) :
    bufferPass project supply page atBound goOn p = (do
      let read ← reread supply p
      if read.fragment.references.isEmpty then lastPass supply page p read
      else if atBound then throw (.passLimit page.path p.splicing)
      else goOn (← splicingPass project supply page p read)) := by
  unfold bufferPass reread
  simp only [bind_assoc, pure_bind]
  refine bind_congr fun _ => ?_
  rw [isEmpty_markers]
  have hjoined := Template.extract_isJoined .page (.parse p.html)
  generalize Template.extract .page (.parse p.html) = read at hjoined
  cases hrefs : read.fragment.references with
  | nil =>
    -- The bound is not asked for, and the splicing changes nothing.
    simp [Partial.spliceAll_of_nil _ _ _ _ hjoined hrefs, lastPass]
  | cons ref rest =>
    -- Below the bound something is counted, so the loop goes on.
    simp [splicingPass, hrefs]

variable (project supply page) in
theorem listed : Listed project supply page where
  splices := Partial.spliceAll_eq_mapM project supply page
  alone doc := by
    intro read
    rw [mergeWithout, references_pageRead]
    rfl
  inLayout doc layoutPath layoutText := by
    intro read layout layoutDir
    rw [mergeInto, references_pageRead, Template.extract_references]
    simp only [Partial.within, references_bodyOf]
    rfl
  atBound goOn p := by
    rw [bufferPass_eq]
    rfl
  below left p := by
    rw [bufferPass_eq]
    rfl

variable (project supply page) in
/-- Descriptor and fragment never disagree: for every document each lists what the other has.  So
the check for cycles starts from exactly what the first pass splices, and the loop comes to the same
end whether it asks what a buffer lists or what was spliced. -/
theorem lists_agree : (∀ doc, Template.Listing doc) ∧ Listed project supply page :=
  ⟨Template.listing, listed project supply page⟩

/-! ### A document with markers that count and markers that do not -/

/-- A reference to a file. -/
def mixedReference (src : String) (attrs : List Html.Attribute) : Html.Node :=
  .element { name := "embed", attrs := ⟨"type", "ham/partial"⟩ :: ⟨"src", src⟩ :: attrs } []

def mixedDocument : Html.Document where
  nodes := [
    .element { name := "link", attrs := [⟨"type", "ham/layout-css"⟩] } [],
    .element { name := "p", attrs := [⟨"class", "ham-remove"⟩] } [mixedReference "x" []],
    mixedReference "" [],
    .element { name := "p", attrs := [] } [mixedReference "a" [⟨"data-ham-replace", "k:1"⟩]],
    .element { name := "embed", attrs := [⟨"type", "ham/page"⟩] } [mixedReference "y" []],
    mixedReference "a" []]

/-- A layout keeps both references to one file; what is removed, has no source or stands in a marker
is in neither view. -/
theorem lists_agree_mixed :
    LawfulMonad (Except BuildError) ∧
    (Template.extract .layout mixedDocument).descriptor.markers =
      [.slot .css, .splice { src := "a", replace := some "k:1" }, .splice { src := "a" }] ∧
    Template.Listing mixedDocument ∧
    Listed nestedProject (.ofTexts (Session.found {} nestedStore)) nestedPage := by
  obtain ⟨hlisting, hlisted⟩ :=
    lists_agree nestedProject (.ofTexts (Session.found {} nestedStore)) nestedPage
  exact ⟨inferInstance, by decide +kernel, hlisting _, hlisted⟩

end Page

end StaticSite
