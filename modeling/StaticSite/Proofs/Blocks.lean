/-
  Ordinary block documents.

  A body may hold groups (`div`, `section` and their like) and texts, nested in any way.
  A group closes nothing that is open where groups are nested (`Grouping`), so such a tree
  is steady at any depth, and the document around it is read back exactly as it was
  written, whatever its texts and values say (`Document.parse_render_blocks`).
-/

import Mathlib
import StaticSite.Proofs.Rereading

namespace StaticSite.Html

/-! ## Trees of groups and texts -/

/-- Elements that group what they hold and say nothing else about it. -/
def groupNames : List String :=
  ["div", "section", "article", "main", "nav", "header", "footer", "aside"]

/-- Whether a character is a small letter, a digit or a hyphen. -/
def isSimpleChar (c : Char) : Bool := c.isLower || c.isDigit || c == '-'

/-- Whether a name starts with a small letter and goes on with small letters, digits and hyphens. -/
def isSimpleName (name : String) : Bool :=
  match name.toList with
  | [] => false
  | c :: rest => c.isLower && rest.all isSimpleChar

/-- Whether a tag is one of a group: its attributes have simple names, all different, and values
without NUL and carriage return. -/
def Tag.isGroup (tag : Tag) : Bool :=
  groupNames.contains tag.name &&
    tag.attrs.all (fun attr => isSimpleName attr.name && attr.value.toList.all isKept) &&
    decide (tag.attrs.map (·.name)).Nodup

namespace Node

mutual

/-- Whether a node is a text that is not empty and has no NUL and no carriage return, or a group of
such nodes. -/
def isBlock : Node → Bool
  | .text s => s != "" && s.toList.all isKept
  | .element tag children => tag.isGroup && areBlocks children
  | .comment _ | .doctype _ => false

/-- Whether siblings are groups and texts, no two texts side by side. -/
def areBlocks : List Node → Bool
  | [] => true
  | n :: rest => n.isBlock && !(n.isText && rest.head?.any isText) && areBlocks rest

end

end Node

/-- The document with the given content in its body and nothing in its head. -/
def Document.ofBody (doctype : Bool) (body : List Node) : Document where
  nodes := (if doctype then [.doctype "html"] else []) ++
    [.element { name := "html" } [.element { name := "head" } [],
      .element { name := "body" } body]]

/-! ## Names -/

theorem isNameChar_of_isSimpleChar {c : Char} (h : isSimpleChar c) : isNameChar c ∧ c ≠ '=' := by
  have hne (d : Char) (hd : isSimpleChar d = false) : c ≠ d := by
    rintro rfl
    rw [h] at hd
    cases hd
  have hupper : ¬ c.isUpper := by
    simp only [isSimpleChar, Bool.or_eq_true, beq_iff_eq] at h
    obtain (hletter | hdigit) | rfl := h
    · exact Char.not_isUpper_of_isLower hletter
    · -- Digits stand before the capital letters.
      simp only [Char.isDigit, Char.isUpper, Bool.and_eq_true, decide_eq_true_eq] at hdigit ⊢
      intro hupper
      have hle : (65 : UInt32) ≤ 57 := UInt32.le_trans hupper.1 hdigit.2
      exact absurd hle (by decide)
    · decide
  have hblank : isBlank c = false := by
    simp [isBlank, hne ' ' (by decide), hne '\n' (by decide), hne '\t' (by decide),
      hne '\r' (by decide), hne '\x0c' (by decide)]
  refine ⟨isNameChar_iff.2 ⟨hblank, ?_, ?_, ?_, Char.toLower_eq_of_not_isUpper hupper⟩, ?_⟩
  · exact hne '/' (by decide)
  · exact hne '>' (by decide)
  · exact hne '\x00' (by decide)
  · exact hne '=' (by decide)

theorem isAttrName_of_isSimpleName {name : String} (h : isSimpleName name) : isAttrName name := by
  unfold isSimpleName at h
  unfold isAttrName
  cases hchars : name.toList with
  | nil =>
    rw [hchars] at h
    cases h
  | cons c rest =>
    rw [hchars] at h
    simp only [Bool.and_eq_true, List.all_eq_true] at h
    have hfirst : isSimpleChar c := by rw [isSimpleChar, h.1, Bool.true_or, Bool.true_or]
    simp only [Bool.and_eq_true, List.all_eq_true, bne_iff_ne]
    exact ⟨(isNameChar_of_isSimpleChar hfirst).1,
      fun d hd => isNameChar_of_isSimpleChar (h.2 d hd)⟩

/-- What the names of groups have in common. -/
theorem group_name {name : String} (h : name ∈ groupNames) :
    isTagName name ∧ startRule name = .block ∧ name ≠ "p" ∧ name ≠ "script" := by
  have hall : ∀ n ∈ groupNames,
      isTagName n ∧ startRule n = .block ∧ n ≠ "p" ∧ n ≠ "script" := by
    decide
  exact hall name h

theorem Tag.isGroup_iff {tag : Tag} : tag.isGroup ↔ tag.name ∈ groupNames ∧
    (∀ attr ∈ tag.attrs, isSimpleName attr.name ∧ ∀ c ∈ attr.value.toList, isKept c) ∧
    (tag.attrs.map (·.name)).Nodup := by
  simp [Tag.isGroup, and_assoc]

theorem isLegible_of_isGroup {tag : Tag} (h : tag.isGroup) : tag.isLegible := by
  obtain ⟨hname, hattrs, hnodup⟩ := Tag.isGroup_iff.1 h
  simp only [Tag.isLegible, Bool.and_eq_true, List.all_eq_true, decide_eq_true_eq]
  refine ⟨⟨(group_name hname).1, fun attr hattr => ?_⟩, hnodup⟩
  obtain ⟨hsimple, hvalue⟩ := hattrs attr hattr
  exact ⟨isAttrName_of_isSimpleName hsimple, hvalue⟩

/-! ## Nesting -/

/-- Elements in the body, no paragraph among them, so that a group closes none of them. -/
structure Grouping (above : List Tag) : Prop where
  mode : modeOf? above = some .inBody
  noParagraph : ∀ tag ∈ above, tag.name ≠ "p"

theorem scopeHas_eq_false {bounds : List String} {name : String} {above : List Tag}
    (h : ∀ tag ∈ above, tag.name ≠ name) : scopeHas bounds name above = false := by
  unfold scopeHas
  induction above with
  | nil => rfl
  | cons tag rest ih =>
    obtain ⟨htag, hrest⟩ := List.forall_mem_cons.1 h
    have hnot : (openOf (0, tag)).isHtml name = false := by
      simpa [openOf, OpenElement.isHtml] using htag
    rw [List.map_cons, inScope, hnot, ih hrest, Bool.and_false]
    rfl

namespace Grouping

variable {above : List Tag} {tag : Tag}

theorem filling (h : Grouping above) (htag : tag.isGroup) :
    tag.filling? above = some .nodes := by
  obtain ⟨-, hrule, -⟩ := group_name (Tag.isGroup_iff.1 htag).1
  have hfits : tag.fits above = true := by
    rw [Tag.fits, hrule]
    show (!scopeHas buttonScopeNames "p" above) = true
    rw [scopeHas_eq_false h.noParagraph]
    rfl
  rw [Tag.filling?, h.mode, Option.bind_some, Tag.fillingIn?, if_pos hfits, hrule]
  rfl

theorem inside (h : Grouping above) (htag : tag.isGroup) : Grouping (tag :: above) := by
  obtain ⟨-, hrule, hname, -⟩ := group_name (Tag.isGroup_iff.1 htag).1
  refine ⟨?_, List.forall_mem_cons.2 ⟨hname, h.noParagraph⟩⟩
  have hmode := @modeOf?_body tag above _ h.mode rfl (by rw [hrule]; nofun)
  rwa [hrule] at hmode

end Grouping

/-- Behind a block comes anything that is not a text next to a text. -/
theorem mayFollow_of_isBlock {n next : Node} (h : n.isBlock)
    (hapart : (n.isText && next.isText) = false) : n.mayFollow next := by
  have hscript : n.isScript = false := by
    cases n with
    | element tag children =>
      rw [Node.isBlock, Bool.and_eq_true] at h
      exact beq_eq_false_iff_ne.2 (group_name (Tag.isGroup_iff.1 h.1).1).2.2.2
    | _ => rfl
  rw [Node.mayFollow, hscript, hapart]
  rfl

/-! ## Block trees are steady -/

mutual

theorem isSteady_of_isBlock {above : List Tag} (habove : Grouping above) :
    (n : Node) → n.isBlock → n.isSteady above
  | .text s, h => by
    rw [Node.isBlock, Bool.and_eq_true] at h
    -- The content of the body takes every character but NUL.
    have htakes : s.toList.all (Mode.inBody.takes ·) = true := by
      rw [List.all_eq_true]
      intro c hc
      have hkept := isKept_iff.1 (List.all_eq_true.1 h.2 c hc)
      simp [Mode.takes, Mode.keeps, hkept.1]
    rw [Node.isSteady, h.1, h.2, habove.mode, Option.any_some, htakes]
    rfl
  | .element tag children, h => by
    rw [Node.isBlock, Bool.and_eq_true] at h
    obtain ⟨htag, hchildren⟩ := h
    -- A group closes nothing that is open, so what it holds stands inside it.
    rw [Node.isSteady, isLegible_of_isGroup htag, habove.filling htag]
    exact areSteady_of_areBlocks (habove.inside htag) children hchildren

theorem areSteady_of_areBlocks {above : List Tag} (habove : Grouping above) :
    (nodes : List Node) → Node.areBlocks nodes → Node.areSteady above nodes
  | [], _ => rfl
  | n :: rest, h => by
    rw [Node.areBlocks, Bool.and_eq_true, Bool.and_eq_true, Bool.not_eq_true'] at h
    obtain ⟨⟨hn, hapart⟩, hrest⟩ := h
    have hfollow : rest.head?.all (Node.mayFollow n) = true := by
      cases rest with
      | nil => rfl
      | cons next others => exact mayFollow_of_isBlock hn hapart
    rw [Node.areSteady, isSteady_of_isBlock habove n hn, hfollow,
      areSteady_of_areBlocks habove rest hrest]
    rfl

end

/-! ## Documents -/

theorem grouping_body : Grouping [{ name := "body" }, { name := "html" }] where
  mode := rfl
  noParagraph := by decide

theorem Document.isSteady_ofBody (doctype : Bool) {body : List Node} (h : Node.areBlocks body) :
    (ofBody doctype body).isSteady := by
  have hbody := areSteady_of_areBlocks grouping_body body h
  have hroot : Node.areInRoot { name := "html" }
      [.element { name := "head" } [], .element { name := "body" } body] = true := by
    simp only [Node.areInRoot, Node.areAfterHead, hbody]
    decide
  have helement (doctype : Bool) : Node.areOuter doctype [.element { name := "html" }
      [.element { name := "head" } [], .element { name := "body" } body]] = true := by
    simp only [Node.areOuter, hroot]
    decide
  cases doctype with
  | false => exact helement true
  | true =>
    show Node.areOuter true (.doctype "html" :: [_]) = true
    rw [Node.areOuter, helement]
    decide

/-- Whatever groups and texts the body of a document holds, the document is read back as it is
written: every element, every attribute with its value, and every character of every text. -/
theorem Document.parse_render_blocks (doctype : Bool) {body : List Node}
    (h : Node.areBlocks body) :
    Document.parse (ofBody doctype body).render = ofBody doctype body :=
  Document.parse_render (isSteady_ofBody doctype h)

/-- Texts and values full of what looks like tags and references, and a group in a group. -/
def Document.trickyBody : List Node :=
  [.text "\n</body> &amp; &amp;amp; \u00a0<!-- ",
   .element { name := "div", attrs := [⟨"a", "\"&quot;>' &nbsp;&"⟩, ⟨"b-2", ""⟩] }
    [.element { name := "main" } [], .text "&lt;div&gt", .element { name := "nav" } [.text "\ufeff<p"]],
   .text "]]>"]

theorem Document.parse_render_blocks_tricky : Node.areBlocks trickyBody = true ∧
    Document.parse (ofBody true trickyBody).render = ofBody true trickyBody :=
  have hblocks : Node.areBlocks trickyBody = true := by decide +kernel
  ⟨hblocks, Document.parse_render_blocks true hblocks⟩

end StaticSite.Html
