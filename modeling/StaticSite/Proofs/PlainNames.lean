/-
  The names that a tree builder puts into its tree.

  A name is plain if it has no character that ends a name: no slash and no `>` in the name of
  an element, no `>` in the name of a document type.  Whatever a token does to the tree, each
  element is named by a tag or by a rule of the builder, so a builder whose names are plain
  has plain names after a token with plain names (`Builder.IsPlain.accept`).  Only the arena
  and the list of formatting elements hold names; the rules are gone through one by one.
-/

import StaticSite.Html.Builder.Document
import Mathlib

namespace StaticSite.Html

/-! ## Plain names -/

/-- Whether a name has none of the characters that end the name of an element. -/
def isPlainName (name : String) : Bool := name.toList.all fun c => c != '/' && c != '>'

/-- Whether a name has no character that ends the name of a document type. -/
def isPlainType (name : String) : Bool := name.toList.all (· != '>')

def Content.isPlain : Content → Bool
  | .element tag => isPlainName tag.name
  | .doctype name => isPlainType name
  | _ => true

def Formatting.isPlain : Formatting → Bool
  | .marker => true
  | .element _ tag => isPlainName tag.name

mutual

/-- Whether all names in a tree are plain. -/
def Node.isPlain : Node → Bool
  | .element tag children => isPlainName tag.name && Node.arePlain children
  | .doctype name => isPlainType name
  | _ => true

def Node.arePlain : List Node → Bool
  | [] => true
  | node :: rest => node.isPlain && Node.arePlain rest

end

theorem Node.arePlain_of_forall {nodes : List Node} (h : ∀ n ∈ nodes, n.isPlain) :
    Node.arePlain nodes := by
  induction nodes with
  | nil => rfl
  | cons n rest ih =>
    obtain ⟨hn, hrest⟩ := List.forall_mem_cons.1 h
    rw [Node.arePlain, hn, ih hrest]
    rfl

/-! ## Arenas -/

/-- All names in an arena are plain, also of nodes that hang nowhere. -/
def Arena.IsPlain (a : Arena) : Prop := ∀ cell ∈ a.cells, cell.content.isPlain

namespace Arena.IsPlain

variable {a : Arena} (h : a.IsPlain)

include h

theorem getElem? {id : NodeId} {cell : Cell} (hcell : a.cells[id]? = some cell) :
    cell.content.isPlain := h cell (Array.mem_of_getElem? hcell)

theorem add {content : Content} (hcontent : content.isPlain) : (a.add content).IsPlain := by
  intro cell hcell
  rcases Array.mem_push.1 hcell with hold | rfl
  · exact h cell hold
  · exact hcontent

theorem addElement {tag : Tag} (htag : isPlainName tag.name) : (a.add (.element tag)).IsPlain :=
  h.add htag

theorem addText (s : String) : (a.add (.text s)).IsPlain := h.add rfl

theorem modify (id : NodeId) {f : Cell → Cell}
    (hf : ∀ cell, cell.content.isPlain → (f cell).content.isPlain) : (a.modify id f).IsPlain := by
  intro cell hcell
  obtain ⟨i, hi⟩ := Array.getElem?_of_mem hcell
  rw [Arena.modify, Array.getElem?_modify] at hi
  split at hi
  · obtain ⟨old, hold, rfl⟩ := Option.map_eq_some_iff.1 hi
    exact hf old (h.getElem? hold)
  · exact h.getElem? hi

/-- Links between cells say nothing about names. -/
theorem relink (id : NodeId) {f : Cell → Cell} (hf : ∀ cell, (f cell).content = cell.content) :
    (a.modify id f).IsPlain :=
  h.modify id fun cell hcell => by rwa [hf]

theorem attach (parent child : NodeId) : (a.attach parent child).IsPlain := by
  unfold Arena.attach
  refine relink (relink h child ?_) parent ?_ <;> exact fun _ => rfl

theorem detach (id : NodeId) : (a.detach id).IsPlain := by
  unfold Arena.detach
  split
  · exact h
  · refine relink (relink h _ ?_) id ?_ <;> exact fun _ => rfl

theorem attachBefore (sibling child : NodeId) : (a.attachBefore sibling child).IsPlain := by
  unfold Arena.attachBefore
  split
  · exact h
  · refine relink (relink h child ?_) _ ?_ <;> exact fun _ => rfl

theorem moveChildren (source target : NodeId) : (a.moveChildren source target).IsPlain := by
  have hmoved (ids : List NodeId) (a : Arena) (h : a.IsPlain) :
      (ids.foldl (fun a id => a.modify id ({ · with parent := some target })) a).IsPlain := by
    induction ids generalizing a with
    | nil => exact h
    | cons id rest ih =>
      refine ih _ (relink h id ?_)
      exact fun _ => rfl
  unfold Arena.moveChildren
  simp only [← Array.foldl_toList]
  refine relink (relink (hmoved _ a h) source ?_) target ?_ <;> exact fun _ => rfl

theorem pushChar (id : NodeId) (c : Char) : (a.pushChar id c).IsPlain :=
  h.modify id fun cell hcell => by
    cases hcontent : cell.content <;> simp_all [Content.pushChar, Content.isPlain]

theorem appendChar (parent : NodeId) (c : Char) : (a.appendChar parent c).IsPlain := by
  have hfresh := (h.addText (String.singleton c)).attach parent a.next
  unfold Arena.appendChar
  split
  · split
    · exact h.pushChar _ c
    · exact hfresh
  · exact hfresh

theorem insertCharBefore (sibling : NodeId) (c : Char) : (a.insertCharBefore sibling c).IsPlain := by
  have hfresh := (h.addText (String.singleton c)).attachBefore sibling a.next
  unfold Arena.insertCharBefore
  split
  · split
    · split
      · exact h.pushChar _ c
      · exact hfresh
    · exact hfresh
  · exact hfresh

theorem addMissingAttrs (id : NodeId) (attrs : List Attribute) :
    (a.addMissingAttrs id attrs).IsPlain :=
  h.modify id fun cell hcell => by
    cases hcontent : cell.content <;> simp_all [Content.addMissingAttrs, Content.isPlain]

theorem placeNode (spot : Builder.Spot) (id : NodeId) : (Builder.placeNode a spot id).IsPlain := by
  unfold Builder.placeNode
  split
  · exact h.attach _ id
  · split
    · exact h.attachBefore _ id
    · exact h.attach _ id

theorem placeChar (spot : Builder.Spot) (c : Char) : (Builder.placeChar a spot c).IsPlain := by
  unfold Builder.placeChar
  split
  · exact h.appendChar _ c
  · split
    · exact h.insertCharBefore _ c
    · exact h.appendChar _ c

/-- What is read off a plain arena is plain. -/
theorem node? (depth : Nat) {id : NodeId} {node : Node} (hnode : a.node? depth id = some node) :
    node.isPlain := by
  induction depth generalizing id node with
  | zero => cases hnode
  | succ depth ih =>
    obtain ⟨cell, hcell, hread⟩ := Option.bind_eq_some_iff.1 hnode
    have hplain := h.getElem? hcell
    cases hcontent : cell.content with
    | document => simp [hcontent] at hread
    | element tag =>
      simp only [hcontent, Option.some.injEq] at hread
      rw [hcontent] at hplain
      have hname : isPlainName tag.name := hplain
      rw [← hread, Node.isPlain, hname, Node.arePlain_of_forall]
      · rfl
      · intro n hn
        obtain ⟨child, -, hchild⟩ := List.mem_filterMap.1 hn
        exact ih hchild
    | doctype name =>
      simp only [hcontent, Option.some.injEq] at hread
      rw [hcontent] at hplain
      rw [← hread]
      exact hplain
    | comment s =>
      simp only [hcontent, Option.some.injEq] at hread
      rw [← hread]
      rfl
    | text s =>
      simp only [hcontent, Option.some.injEq] at hread
      rw [← hread]
      rfl

end Arena.IsPlain

/-! ## Builders -/

/-- All names that a builder holds are plain. -/
def Builder.IsPlain (b : Builder) : Prop := b.arena.IsPlain ∧ ∀ f ∈ b.formatting, f.isPlain

def Step.IsPlain : Step → Prop
  | .done b => b.IsPlain
  | .again b => b.IsPlain

def Token.isPlain : Token → Bool
  | .startTag tag => isPlainName tag.name
  | .doctype d => d.name.all isPlainType
  | _ => true

namespace Builder

variable {b c : Builder}

@[simp]
theorem isPlain_done : (Step.done b).IsPlain ↔ b.IsPlain := Iff.rfl

@[simp]
theorem isPlain_again : (Step.again b).IsPlain ↔ b.IsPlain := Iff.rfl

/-- Only the arena and the list of formatting elements hold names. -/
@[simp]
theorem isPlain_mk {mode returnMode : Mode} {templateModes : List Mode} {stack : List OpenElement}
    {head? : Option OpenElement} {form? : Option NodeId}
    {framesetOk tableClosesParagraph fostering skipNewline : Bool} {tableText : List Char}
    {rawText? : Option RawText} :
    (Builder.mk b.arena mode returnMode templateModes stack b.formatting head? form? framesetOk
      tableClosesParagraph fostering skipNewline tableText rawText?).IsPlain ↔ b.IsPlain := Iff.rfl

@[simp]
theorem isPlain_ite {p : Prop} [Decidable p] :
    (if p then b else c).IsPlain ↔ (p → b.IsPlain) ∧ (¬p → c.IsPlain) := by
  split <;> simp_all

@[simp]
theorem isPlain_iteStep {p : Prop} [Decidable p] {s t : Step} :
    (if p then s else t).IsPlain ↔ (p → s.IsPlain) ∧ (¬p → t.IsPlain) := by
  split <;> simp_all

@[simp]
theorem isPlain_startTag (tag : StartTag) : (Token.startTag tag).isPlain = isPlainName tag.name := rfl

@[simp]
theorem isPlain_popThrough (p : OpenElement → Bool) : (b.popThrough p).IsPlain ↔ b.IsPlain := Iff.rfl

@[simp]
theorem isPlain_pop : b.pop.IsPlain ↔ b.IsPlain := Iff.rfl

@[simp]
theorem isPlain_close (name : String) : (b.close name).IsPlain ↔ b.IsPlain := Iff.rfl

@[simp]
theorem isPlain_popTo (names : List String) : (b.popTo names).IsPlain ↔ b.IsPlain := Iff.rfl

@[simp]
theorem isPlain_closeImplied (names : List String) :
    (b.closeImplied names).IsPlain ↔ b.IsPlain := Iff.rfl

@[simp]
theorem isPlain_closeImpliedExcept (name : String) :
    (b.closeImpliedExcept name).IsPlain ↔ b.IsPlain := Iff.rfl

@[simp]
theorem isPlain_removeOpen (id : NodeId) : (b.removeOpen id).IsPlain ↔ b.IsPlain := Iff.rfl

@[simp]
theorem isPlain_closeParagraph : b.closeParagraph.IsPlain ↔ b.IsPlain := Iff.rfl

@[simp]
theorem isPlain_closeParagraphInScope : b.closeParagraphInScope.IsPlain ↔ b.IsPlain := by
  unfold closeParagraphInScope
  split <;> rfl

@[simp]
theorem isPlain_resetMode : b.resetMode.IsPlain ↔ b.IsPlain := Iff.rfl

@[simp]
theorem isPlain_forbidFrameset : b.forbidFrameset.IsPlain ↔ b.IsPlain := Iff.rfl

@[simp]
theorem isPlain_pushMarker : b.pushMarker.IsPlain ↔ b.IsPlain := by
  simp [IsPlain, pushMarker, Formatting.isPlain]

@[simp]
theorem isPlain_againIn (mode : Mode) : (b.againIn mode).IsPlain ↔ b.IsPlain := Iff.rfl

@[simp]
theorem isPlain_ignore : b.ignore.IsPlain ↔ b.IsPlain := Iff.rfl

namespace IsPlain

variable (h : b.IsPlain)

include h

/-! ### Insertion -/

@[simp]
theorem insert (space : Namespace) {tag : Tag} (htag : isPlainName tag.name) :
    (b.insert space tag).IsPlain := 
  ⟨(h.1.addElement htag).placeNode _ _, h.2⟩

@[simp]
theorem insertHtml {tag : Tag} (htag : isPlainName tag.name) : (b.insertHtml tag).IsPlain :=
  h.insert .html htag

@[simp]
theorem insertVoid {tag : Tag} (htag : isPlainName tag.name) : (b.insertVoid tag).IsPlain :=
  h.insertHtml htag

@[simp]
theorem insertMissing {name : String} (hname : isPlainName name) : (b.insertMissing name).IsPlain :=
  h.insertHtml hname

@[simp]
theorem insertRaw {tag : Tag} (htag : isPlainName tag.name) (kind : RawText) :
    (b.insertRaw tag kind).IsPlain := h.insertHtml htag

@[simp]
theorem insertRoot (attrs : List Attribute) : (b.insertRoot attrs).IsPlain :=
  h.insertHtml (show isPlainName "html" by decide)

@[simp]
theorem appendChar (c : Char) : (b.appendChar c).IsPlain := ⟨h.1.placeChar _ c, h.2⟩

@[simp]
theorem commentIn (parent : NodeId) (s : String) : (b.commentIn parent s).IsPlain :=
  ⟨(h.1.add rfl).attach _ _, h.2⟩

@[simp]
theorem appendComment (s : String) : (b.appendComment s).IsPlain :=
  ⟨(h.1.add rfl).placeNode _ _, h.2⟩

/-! ### Formatting elements -/

@[simp]
theorem clearFormattingToMarker : b.clearFormattingToMarker.IsPlain :=
  ⟨h.1, fun f hf => h.2 f ((List.dropWhile_sublist _).mem (List.mem_of_mem_tail hf))⟩

@[simp]
theorem dropListed (id : NodeId) : (b.dropListed id).IsPlain :=
  ⟨h.1, fun f hf => h.2 f (List.mem_filter.1 hf).1⟩

theorem reopen {kept lost : List Formatting} (hkept : ∀ f ∈ kept, f.isPlain)
    (hlost : ∀ f ∈ lost, f.isPlain) : (b.reopen kept lost).IsPlain := by
  induction lost generalizing b kept with
  | nil => exact ⟨h.1, hkept⟩
  | cons f rest ih =>
    obtain ⟨hf, hrest⟩ := List.forall_mem_cons.1 hlost
    cases f with
    | marker => exact ih h (List.forall_mem_cons.2 ⟨rfl, hkept⟩) hrest
    | element elem tag => exact ih (h.insertHtml hf) (List.forall_mem_cons.2 ⟨hf, hkept⟩) hrest

@[simp]
theorem reopenFormatting : b.reopenFormatting.IsPlain := by
  unfold Builder.reopenFormatting
  split
  · exact h
  · refine h.reopen (fun f hf => h.2 f ((List.dropWhile_sublist _).mem hf)) fun f hf => ?_
    exact h.2 f ((List.takeWhile_sublist _).mem (List.mem_reverse.1 hf))

@[simp]
theorem openFormatting {tag : Tag} (htag : isPlainName tag.name) :
    (b.openFormatting tag).IsPlain := by
  have hopen {kept : Builder} (h : kept.IsPlain) : { kept.insertHtml tag with
      formatting := .element (kept.nextElement .html tag) tag :: kept.formatting }.IsPlain :=
    ⟨(h.insertHtml htag).1, List.forall_mem_cons.2 ⟨htag, h.2⟩⟩
  unfold Builder.openFormatting
  split
  · exact hopen (h.dropListed _)
  · exact hopen h

@[simp]
theorem closeGeneric (name : String) : (b.closeGeneric name).IsPlain := by
  unfold Builder.closeGeneric
  split <;> exact h

end IsPlain

/-! ### Splits -/

theorem isPlain_copy {s : Split} (hs : s.builder.IsPlain) (block : NodeId) (count : Nat)
    (e : OpenElement) : (s.copy block count e).builder.IsPlain := by
  unfold Split.copy
  split
  · next elem tag hfound =>
    have htag : isPlainName tag.name := hs.2 _ (List.mem_of_find?_eq_some hfound)
    split
    · exact hs.dropListed e.id
    · refine ⟨((hs.1.addElement htag).detach _).attach _ _, fun f hf => ?_⟩
      obtain ⟨entry, hentry, rfl⟩ := List.mem_map.1 hf
      split
      · exact htag
      · exact hs.2 entry hentry
  · exact hs

theorem isPlain_copyAll {s : Split} (hs : s.builder.IsPlain) (block : NodeId) (count : Nat)
    (elems : List OpenElement) : (s.copyAll block count elems).builder.IsPlain := by
  induction elems generalizing s count with
  | nil => exact hs
  | cons e rest ih => exact ih (isPlain_copy hs block count e) (count + 1)

theorem isPlain_replaceEntry {entries : List Formatting} (hentries : ∀ f ∈ entries, f.isPlain)
    {entry : Formatting} (hentry : entry.isPlain) (old : NodeId) (bookmark : Bookmark) :
    ∀ f ∈ replaceEntry old entry bookmark entries, f.isPlain := by
  intro f hf
  cases bookmark with
  | inPlace =>
    obtain ⟨e, he, rfl⟩ := List.mem_map.1 hf
    split
    · exact hentry
    · exact hentries e he
  | after id =>
    obtain ⟨e, he, hfe⟩ := List.mem_flatMap.1 (List.mem_filter.1 hf).1
    split at hfe
    · rcases List.mem_cons.1 hfe with rfl | hfe
      · exact hentry
      · rw [List.mem_singleton.1 hfe]
        exact hentries e he
    · rw [List.mem_singleton.1 hfe]
      exact hentries e he

namespace IsPlain

variable (h : b.IsPlain)

include h

theorem splitAt (elem : OpenElement) {tag : Tag} (htag : isPlainName tag.name)
    (inner : List OpenElement) (block : OpenElement) (between outer : List OpenElement) :
    (b.splitAt elem tag inner block between outer).IsPlain := by
  have hcopied : (Split.copyAll { builder := b, moved := block.id } block.id 1 between).builder.IsPlain :=
    isPlain_copyAll h block.id 1 between
  refine ⟨?_, ?_⟩
  · exact ((((hcopied.1.detach _).placeNode _ _).addElement htag).moveChildren _ _).attach _ _
  · exact isPlain_replaceEntry hcopied.2 (show (Formatting.element _ tag).isPlain from htag) elem.id _

theorem closeFormattingWithin (name : String) (rounds : Nat) :
    (b.closeFormattingWithin name rounds).IsPlain := by
  induction rounds generalizing b with
  | zero => exact h
  | succ rounds ih =>
    unfold Builder.closeFormattingWithin
    dsimp only
    split
    · exact h.closeGeneric name
    · next elem tag hlisted =>
      obtain ⟨f, hf, hfound⟩ := List.exists_of_findSome?_eq_some hlisted
      have htag : isPlainName tag.name := by
        have hplain := h.2 f ((List.takeWhile_sublist _).mem hf)
        cases f with
        | marker => cases hfound
        | element other otherTag =>
          dsimp only at hfound
          split at hfound
          · cases hfound
            exact hplain
          · cases hfound
      split_ifs
      · exact h.dropListed elem.id
      · exact h
      · split
        · exact h.dropListed elem.id
        · exact ih (h.splitAt elem htag _ _ _ _)

@[simp]
theorem closeFormatting (name : String) : (b.closeFormatting name).IsPlain := by
  unfold Builder.closeFormatting
  split
  · exact h
  · exact h.closeFormattingWithin name 8

@[simp]
theorem closeOpenAnchor : b.closeOpenAnchor.IsPlain := by
  unfold Builder.closeOpenAnchor
  dsimp only
  split
  · exact h
  · exact (h.closeFormatting "a").dropListed _

/-! ### Head and templates -/

@[simp]
theorem repeatHtml (tag : Tag) : (b.repeatHtml tag).IsPlain := by
  unfold Builder.repeatHtml
  split
  · split
    · exact h
    · exact ⟨h.1.addMissingAttrs _ _, h.2⟩
  · exact h

@[simp]
theorem openTemplate {tag : Tag} (htag : isPlainName tag.name) : (b.openTemplate tag).IsPlain := by
  simp [Builder.openTemplate, h, htag]

@[simp]
theorem closeTemplate : b.closeTemplate.IsPlain := by
  simp [Builder.closeTemplate, h]

@[simp]
theorem templateEof : b.templateEof.IsPlain := by
  simp [Builder.templateEof, h]

@[simp]
theorem headContent {tag : StartTag} (htag : isPlainName tag.name) :
    (b.headContent tag).IsPlain := by
  simp [Builder.headContent, h, htag]

@[simp]
theorem leaveHead : b.leaveHead.IsPlain := h

theorem inHead {t : Token} (ht : t.isPlain) : (b.inHead t).IsPlain := by
  cases t <;> simp_all [Builder.inHead]

/-! ### Body -/

@[simp]
theorem repeatBody (tag : Tag) : (b.repeatBody tag).IsPlain := by
  unfold Builder.repeatBody
  split
  · split
    · exact h
    · exact ⟨h.1.addMissingAttrs _ _, h.2⟩
  · exact h

@[simp]
theorem replaceBody {tag : Tag} (htag : isPlainName tag.name) : (b.replaceBody tag).IsPlain := by
  unfold Builder.replaceBody
  split
  · next body root _ _ _ =>
    have hdetached : { b with arena := b.arena.detach body.id, stack := [root] }.IsPlain :=
      ⟨h.1.detach _, h.2⟩
    exact hdetached.insertHtml htag
  · exact h

@[simp]
theorem openListItem {tag : Tag} (htag : isPlainName tag.name) : (b.openListItem tag).IsPlain := by
  unfold Builder.openListItem
  dsimp only
  split <;> simp [h, htag]

@[simp]
theorem openForm {tag : Tag} (htag : isPlainName tag.name) : (b.openForm tag).IsPlain := by
  simp [Builder.openForm, h, htag]

@[simp]
theorem openButton {tag : Tag} (htag : isPlainName tag.name) : (b.openButton tag).IsPlain := by
  simp [Builder.openButton, h, htag]

@[simp]
theorem openNobr {tag : Tag} (htag : isPlainName tag.name) : (b.openNobr tag).IsPlain := by
  have hreopened := h.reopenFormatting
  have hclosed := (hreopened.closeFormatting "nobr").reopenFormatting
  simp [Builder.openNobr, hreopened, hclosed, htag]

@[simp]
theorem bodyVoid {tag : Tag} (htag : isPlainName tag.name) : (b.bodyVoid tag).IsPlain := by
  simp [Builder.bodyVoid, h, htag]

@[simp]
theorem openSelect {tag : Tag} (htag : isPlainName tag.name) : (b.openSelect tag).IsPlain := by
  simp [Builder.openSelect, h, htag]

@[simp]
theorem openTable {tag : Tag} (htag : isPlainName tag.name) : (b.openTable tag).IsPlain := by
  simp [Builder.openTable, h, htag]

@[simp]
theorem openRuby {tag : Tag} (htag : isPlainName tag.name) : (b.openRuby tag).IsPlain := by
  simp [Builder.openRuby, h, htag]

@[simp]
theorem insertForeign (space : Namespace) {tag : StartTag} (htag : isPlainName tag.name) :
    (b.insertForeign space tag).IsPlain := by
  unfold Builder.insertForeign
  cases space <;> simp [h, htag, respellAttrs]

theorem bodyStart {tag : StartTag} (htag : isPlainName tag.name) : (b.bodyStart tag).IsPlain := by
  have himage : isPlainName "img" := by decide
  have hclosed := h.closeOpenAnchor.reopenFormatting
  simp [Builder.bodyStart, h, htag, himage, hclosed]

@[simp]
theorem closeForm : b.closeForm.IsPlain := by
  unfold Builder.closeForm
  split
  · simp [h]
  · split <;> simp [h]

theorem bodyEnd (name : String) : (b.bodyEnd name).IsPlain := by
  have hparagraph : isPlainName "p" := by decide
  have hbreak : isPlainName "br" := by decide
  simp [Builder.bodyEnd, h, hparagraph, hbreak]

@[simp]
theorem bodyChar (c : Char) : (b.bodyChar c).IsPlain := by
  simp [Builder.bodyChar, h]

@[simp]
theorem inBody {t : Token} (ht : t.isPlain) : (b.inBody t).IsPlain := by
  cases t with
  | startTag tag => exact h.bodyStart ht
  | endTag name => exact h.bodyEnd name
  | _ => simp [Builder.inBody, h]

/-! ### Tables -/

@[simp]
theorem foster {t : Token} (ht : t.isPlain) : (b.foster t).IsPlain := by
  have hfostering : { b with fostering := true }.IsPlain := h
  have hbody := hfostering.inBody ht
  unfold Builder.foster
  split <;> simp_all

@[simp]
theorem tableChar (c : Char) : (b.tableChar c).IsPlain := by
  unfold Builder.tableChar
  split
  · exact h
  · exact h.foster rfl

@[simp]
theorem flushTableText : b.flushTableText.IsPlain := by
  have hblank (cs : List Char) {b : Builder} (h : b.IsPlain) :
      (cs.foldl Builder.appendChar b).IsPlain := by
    induction cs generalizing b with
    | nil => exact h
    | cons c rest ih => exact ih (h.appendChar c)
  have hother (cs : List Char) {b : Builder} (h : b.IsPlain) :
      (cs.foldl (fun b c => Builder.Step.builder (b.foster (.char c))) b).IsPlain := by
    induction cs generalizing b with
    | nil => exact h
    | cons c rest ih =>
      have hstep : (b.foster (.char c)).IsPlain := h.foster rfl
      refine ih ?_
      cases hdone : b.foster (.char c) <;> simp_all [Builder.Step.builder]
  have hcleared : { b with tableText := [] }.IsPlain := h
  unfold Builder.flushTableText
  dsimp only
  split
  · exact hblank _ hcleared
  · exact hother _ hcleared

theorem inTableText (t : Token) : (b.inTableText t).IsPlain := by
  cases t <;> simp [Builder.inTableText, h]

@[simp]
theorem openPart (holders : List String) {tag : Tag} (htag : isPlainName tag.name) (mode : Mode) :
    (b.openPart holders tag mode).IsPlain := by
  simp [Builder.openPart, h, htag]

@[simp]
theorem supplyPart (holders : List String) {name : String} (hname : isPlainName name) (mode : Mode) :
    (b.supplyPart holders name mode).IsPlain := h.openPart holders hname mode

theorem tableStart {tag : StartTag} (htag : isPlainName tag.name) :
    (b.tableStart tag).IsPlain := by
  have hcolumns : isPlainName "colgroup" := by decide
  have hrows : isPlainName "tbody" := by decide
  simp [Builder.tableStart, h, htag, hcolumns, hrows]

theorem tableEnd (name : String) : (b.tableEnd name).IsPlain := by
  have htag : (Token.endTag name).isPlain := rfl
  simp [Builder.tableEnd, h, htag]

@[simp]
theorem inTable {t : Token} (ht : t.isPlain) : (b.inTable t).IsPlain := by
  cases t with
  | startTag tag => exact h.tableStart ht
  | endTag name => exact h.tableEnd name
  | eof => exact h.inBody ht
  | _ => simp [Builder.inTable, h]

theorem leaveCaption? {c : Builder} (hc : b.leaveCaption? = some c) : c.IsPlain := by
  unfold Builder.leaveCaption? at hc
  split at hc
  · cases hc
    simp [h]
  · cases hc

theorem inCaption {t : Token} (ht : t.isPlain) : (b.inCaption t).IsPlain := by
  have hleft (f : Builder → Step) (hf : ∀ c : Builder, c.IsPlain → (f c).IsPlain) :
      ((b.leaveCaption?.map f).getD b.ignore).IsPlain := by
    cases hc : b.leaveCaption? with
    | none => exact h
    | some c => exact hf c (h.leaveCaption? hc)
  have hagain := hleft .again fun _ hc => hc
  have hdone := hleft .done fun _ hc => hc
  cases t <;> simp [Builder.inCaption, h, hagain, hdone, ht]

theorem leaveColumnGroup : b.leaveColumnGroup.IsPlain := by
  simp [Builder.leaveColumnGroup, h]

theorem inColumnGroup {t : Token} (ht : t.isPlain) : (b.inColumnGroup t).IsPlain := by
  have hleft := h.leaveColumnGroup
  have heof : (b.inBody .eof).IsPlain := h.inBody rfl
  cases t with
  | startTag tag =>
    have htag : isPlainName tag.name := ht
    simp [Builder.inColumnGroup, h, htag, hleft]
  | _ => simp [Builder.inColumnGroup, h, hleft, heof]

@[simp]
theorem leavePart (holders : List String) (mode : Mode) : (b.leavePart holders mode).IsPlain := h

theorem inTableBody {t : Token} (ht : t.isPlain) : (b.inTableBody t).IsPlain := by
  have hrow : isPlainName "tr" := by decide
  cases t <;> simp_all [Builder.inTableBody]

theorem inRow {t : Token} (ht : t.isPlain) : (b.inRow t).IsPlain := by
  cases t <;> simp_all [Builder.inRow]

@[simp]
theorem leaveCell : b.leaveCell.IsPlain := by
  simp [Builder.leaveCell, h]

theorem inCell {t : Token} (ht : t.isPlain) : (b.inCell t).IsPlain := by
  cases t <;> simp_all [Builder.inCell]

/-! ### Select -/

@[simp]
theorem closeOptions : b.closeOptions.IsPlain := by
  simp [Builder.closeOptions, h]

@[simp]
theorem selectStart {tag : StartTag} (htag : isPlainName tag.name) :
    (b.selectStart tag).IsPlain := by
  simp [Builder.selectStart, h, htag]

@[simp]
theorem selectEnd (name : String) : (b.selectEnd name).IsPlain := by
  simp [Builder.selectEnd, h]

@[simp]
theorem inSelect {t : Token} (ht : t.isPlain) : (b.inSelect t).IsPlain := by
  have heof : (b.inBody .eof).IsPlain := h.inBody rfl
  cases t <;> simp_all [Builder.inSelect]

theorem inSelectInTable {t : Token} (ht : t.isPlain) : (b.inSelectInTable t).IsPlain := by
  cases t <;> simp_all [Builder.inSelectInTable]

/-! ### Around the body -/

theorem inInitial {t : Token} (ht : t.isPlain) : (b.inInitial t).IsPlain := by
  cases t with
  | doctype d =>
    have hname : (Content.doctype (d.name.getD "")).isPlain := by
      cases hd : d.name with
      | none => rfl
      | some name => simpa [Token.isPlain, Content.isPlain, hd] using ht
    exact ⟨(h.1.add hname).attach _ _, h.2⟩
  | _ => simp [Builder.inInitial, h]

@[simp]
theorem supplyRoot : b.supplyRoot.IsPlain := h.insertRoot []

theorem beforeHtml (t : Token) : (b.beforeHtml t).IsPlain := by
  cases t <;> simp [Builder.beforeHtml, h]

@[simp]
theorem openHead {tag : Tag} (htag : isPlainName tag.name) : (b.openHead tag).IsPlain :=
  h.insertHtml htag

@[simp]
theorem supplyHead : b.supplyHead.IsPlain := h.openHead (show isPlainName "head" by decide)

theorem beforeHead {t : Token} (ht : t.isPlain) : (b.beforeHead t).IsPlain := by
  cases t with
  | startTag tag =>
    have htag : isPlainName tag.name := ht
    simp [Builder.beforeHead, h, htag]
  | _ => simp [Builder.beforeHead, h]

@[simp]
theorem supplyBody : b.supplyBody.IsPlain := h.insertMissing (show isPlainName "body" by decide)

@[simp]
theorem lateHeadContent {tag : StartTag} (htag : isPlainName tag.name) :
    (b.lateHeadContent tag).IsPlain := by
  unfold Builder.lateHeadContent
  split
  · exact h
  · next head _ =>
    have hstacked : { b with stack := head :: b.stack }.IsPlain := h
    have hread := hstacked.headContent htag
    split
    · next c hc =>
      rw [hc] at hread
      exact hread
    · next c hc =>
      rw [hc] at hread
      exact hread

theorem afterHead {t : Token} (ht : t.isPlain) : (b.afterHead t).IsPlain := by
  cases t with
  | startTag tag =>
    have htag : isPlainName tag.name := ht
    simp [Builder.afterHead, h, htag]
  | _ => simp [Builder.afterHead, h]

theorem inText (t : Token) : (b.inText t).IsPlain := by
  cases t with
  | char c => exact h.appendChar c
  | _ => exact h

@[simp]
theorem retarget (mode : Mode) : (b.retarget mode).IsPlain := h

theorem inTemplate {t : Token} (ht : t.isPlain) : (b.inTemplate t).IsPlain := by
  cases t <;> simp_all [Builder.inTemplate]

theorem afterBody {t : Token} (ht : t.isPlain) : (b.afterBody t).IsPlain := by
  cases t with
  | comment s =>
    unfold Builder.afterBody
    cases b.html? <;> simp [h]
  | _ => simp_all [Builder.afterBody]

theorem afterAfterBody {t : Token} (ht : t.isPlain) : (b.afterAfterBody t).IsPlain := by
  cases t <;> simp_all [Builder.afterAfterBody]

theorem inFrameset {t : Token} (ht : t.isPlain) : (b.inFrameset t).IsPlain := by
  cases t with
  | startTag tag =>
    have htag : isPlainName tag.name := ht
    simp [Builder.inFrameset, h, htag]
  | _ => simp [Builder.inFrameset, h]

theorem afterFrameset {t : Token} (ht : t.isPlain) : (b.afterFrameset t).IsPlain := by
  cases t with
  | startTag tag =>
    have htag : isPlainName tag.name := ht
    simp [Builder.afterFrameset, h, htag]
  | _ => simp [Builder.afterFrameset, h]

theorem afterAfterFrameset {t : Token} (ht : t.isPlain) : (b.afterAfterFrameset t).IsPlain := by
  cases t with
  | startTag tag =>
    have htag : isPlainName tag.name := ht
    simp [Builder.afterAfterFrameset, h, htag]
  | _ => simp [Builder.afterAfterFrameset, h, ht]

/-! ### All rules -/

@[simp]
theorem rules {t : Token} (ht : t.isPlain) (mode : Mode) : (b.rules mode t).IsPlain := by
  cases mode with
  | initial => exact h.inInitial ht
  | beforeHtml => exact h.beforeHtml t
  | beforeHead => exact h.beforeHead ht
  | inHead => exact h.inHead ht
  | afterHead => exact h.afterHead ht
  | inBody => exact h.inBody ht
  | text => exact h.inText t
  | inTable => exact h.inTable ht
  | inTableText => exact h.inTableText t
  | inCaption => exact h.inCaption ht
  | inColumnGroup => exact h.inColumnGroup ht
  | inTableBody => exact h.inTableBody ht
  | inRow => exact h.inRow ht
  | inCell => exact h.inCell ht
  | inSelect => exact h.inSelect ht
  | inSelectInTable => exact h.inSelectInTable ht
  | inTemplate => exact h.inTemplate ht
  | afterBody => exact h.afterBody ht
  | inFrameset => exact h.inFrameset ht
  | afterFrameset => exact h.afterFrameset ht
  | afterAfterBody => exact h.afterAfterBody ht
  | afterAfterFrameset => exact h.afterAfterFrameset ht

theorem breakOut {t : Token} (ht : t.isPlain) : (b.breakOut t).IsPlain := by
  have hpopped : { b with stack := b.stack.dropWhile (!·.takesHtml) }.IsPlain := h
  exact hpopped.rules ht b.mode

theorem foreignStart {tag : StartTag} (htag : isPlainName tag.name) :
    (b.foreignStart tag).IsPlain := by
  -- The names of the vocabulary are plain like the one they stand for.
  have hspelled : isPlainName (respell svgTagNames tag.name) := by
    have htable : ∀ e ∈ svgTagNames, isPlainName e.2 := by decide
    rw [respell]
    cases hfound : svgTagNames.lookup tag.name with
    | none => exact htag
    | some name =>
      obtain ⟨before, after, hentries, -⟩ := List.lookup_eq_some_iff.1 hfound
      exact htable (tag.name, name) (by rw [hentries]; simp)
  unfold Builder.foreignStart
  split
  · exact h
  · exact h.insertForeign _ (by dsimp only; split <;> assumption)

theorem inForeign {t : Token} (ht : t.isPlain) : (b.inForeign t).IsPlain := by
  have hbroken := h.breakOut ht
  cases t with
  | startTag tag =>
    have hopened := h.foreignStart ht
    simp [Builder.inForeign, hbroken, hopened]
  | endTag name =>
    unfold Builder.inForeign
    dsimp only
    split
    · exact hbroken
    · split
      · exact h
      · exact h.rules ht b.mode
  | _ => simp [Builder.inForeign, h]

theorem step {t : Token} (ht : t.isPlain) : (b.step t).IsPlain := by
  unfold Builder.step
  split
  · exact h.inForeign ht
  · exact h.rules ht b.mode

theorem settle {t : Token} (ht : t.isPlain) (rounds : Nat) : (b.settle t rounds).IsPlain := by
  induction rounds generalizing b with
  | zero => exact h
  | succ rounds ih =>
    have hstep := h.step ht
    unfold Builder.settle
    split
    · next c hc =>
      rw [hc] at hstep
      exact hstep
    · next c hc =>
      rw [hc] at hstep
      exact ih hstep

/-- A token whose names are plain leaves all names plain. -/
theorem accept {t : Token} (ht : t.isPlain) : (b.accept t).IsPlain := by
  have hrest : { b with skipNewline := false }.IsPlain := h
  unfold Builder.accept
  dsimp only
  split
  · split
    · exact hrest
    · exact hrest.settle ht _
  · split
    · exact hrest.settle ht 1
    · exact hrest
  · exact hrest.settle ht _

end IsPlain

end Builder

end StaticSite.Html
