/-
  Reading a text that is a single reference.

  A tag that stands alone opens a document around it, and the reference that it writes is
  read back, as long as its texts need no quotes (`Template.references_referenceText`).
  Elsewhere the proofs leave open what the reader makes of a text.
-/

import StaticSite.Proofs.Markers

namespace StaticSite.Html

/-! ## The document around a tag -/

namespace Builder

theorem nextElement_html (b : Builder) (tag : Tag) :
    b.nextElement .html tag = { id := b.arena.next, space := .html, name := tag.name } := rfl

/-- The builder before the root element of a document without a doctype. -/
def unopened : Builder := { mode := .beforeHtml, tableClosesParagraph := false }

/-- The builder after the root element is opened, -/
def rooted : Builder := { unopened.insertRoot [] with mode := .beforeHead }

/-- after the head is, -/
def headed : Builder := rooted.openHead { name := "head" }

/-- and after the head is closed again. -/
def bodyless : Builder := { headed.pop with mode := .afterHead }

/-- The builder after the body is opened too. -/
def framed : Builder where
  arena := { cells := #[
    { content := .document, children := #[1] },
    { content := .element { name := "html" }, parent := some 0, children := #[2, 3] },
    { content := .element { name := "head" }, parent := some 1 },
    { content := .element { name := "body" }, parent := some 1 }] }
  mode := .inBody
  stack := [
    { id := 3, space := .html, name := "body" },
    { id := 1, space := .html, name := "html" }]
  head? := some { id := 2, space := .html, name := "head" }
  tableClosesParagraph := false

/-- The same with one tag in the body. -/
def framing (tag : Tag) : Builder := { framed with
  arena := { cells := #[
    { content := .document, children := #[1] },
    { content := .element { name := "html" }, parent := some 0, children := #[2, 3] },
    { content := .element { name := "head" }, parent := some 1 },
    { content := .element { name := "body" }, parent := some 1, children := #[4] },
    { content := .element tag, parent := some 3 }] }
  framesetOk := false }

theorem settle_again {b next : Builder} {t : Token} (h : b.step t = .again next) (rounds : Nat) :
    settle t (rounds + 1) b = settle t rounds next := by
  rw [settle, h]

theorem settle_done {b next : Builder} {t : Token} (h : b.step t = .done next) (rounds : Nat) :
    settle t (rounds + 1) b = next := by
  rw [settle, h]

section Embed

variable (attrs : List Attribute)

theorem bodyVoid_framed :
    framed.bodyVoid { name := "embed", attrs } = framing { name := "embed", attrs } := by
  rw [bodyVoid, insertVoid, insertHtml, insert, nextElement_html]
  cbv

/-- A first tag that belongs into the body opens everything around it. -/
theorem accept_embed :
    ({} : Builder).accept (.startTag { name := "embed", attrs }) =
      framing { name := "embed", attrs } := by
  let t : Token := .startTag { name := "embed", attrs }
  have hframed : { bodyless.insertMissing "body" with mode := .inBody } = framed := by cbv
  -- The tag is looked at once in every mode before the one that takes it.
  have hinitial : ({} : Builder).step t = .again unopened := rfl
  have hroot : unopened.step t = .again rooted := rfl
  have hhead : rooted.step t = .again headed := rfl
  have hclose : headed.step t = .again bodyless := rfl
  have hbody : bodyless.step t = .again framed := hframed ▸ rfl
  have htag : framed.step t = .done (framed.bodyVoid { name := "embed", attrs }) := rfl
  show settle t 32 {} = _
  rw [settle_again hinitial, settle_again hroot, settle_again hhead, settle_again hclose,
    settle_again hbody, settle_done htag, bodyVoid_framed]

end Embed

theorem framing_accept_eof (tag : Tag) : (framing tag).accept .eof = framing tag := by cbv

theorem framing_document (tag : Tag) :
    (framing tag).arena.document = ⟨[.element { name := "html" }
      [.element { name := "head" } [], .element { name := "body" } [.element tag []]]]⟩ := by
  cbv

end Builder

/-! ## Reading the text of a tag -/

theorem unifyNewlines_of_not_mem {cs : List Char} (h : '\r' ∉ cs) : unifyNewlines cs = cs := by
  induction cs with
  | nil => rfl
  | cons c rest ih =>
    rw [List.mem_cons, not_or] at h
    obtain ⟨hc, hrest⟩ := h
    rw [unifyNewlines.eq_3 c rest (fun _ hcr _ => hc hcr.symm) (fun hcr => hc hcr.symm), ih hrest]

/-- Whether a character stands for itself in a value without quotes. -/
def isPlain (c : Char) : Bool :=
  !(isBlank c || c == '"' || c == '\'' || c == '>' || c == '&' || c == '\x00')

namespace Reader

section Value

variable {r : Reader} {tag : TagDraft} {name value : String}

theorem attrValue_plain {c : Char} (hc : isPlain c) :
    r.attrValue tag name value .unquoted c =
      r.goto (.attrValue tag name (value.push c) .unquoted) := by
  simp only [isPlain, Bool.not_eq_true', Bool.or_eq_false_iff] at hc
  obtain ⟨⟨⟨⟨⟨hblank, -⟩, -⟩, hclose⟩, href⟩, hnul⟩ := hc
  simp [attrValue, visible, hblank, hclose, href, hnul]

theorem beforeAttrValue_plain {c : Char} (hc : isPlain c) :
    r.beforeAttrValue tag name c = r.goto (.attrValue tag name (String.singleton c) .unquoted) := by
  have hvalue : r.attrValue tag name "" .unquoted c =
      r.goto (.attrValue tag name (String.singleton c) .unquoted) := attrValue_plain hc
  simp only [isPlain, Bool.not_eq_true', Bool.or_eq_false_iff] at hc
  obtain ⟨⟨⟨⟨⟨hblank, hdouble⟩, hsingle⟩, hclose⟩, -⟩, -⟩ := hc
  simp only [beforeAttrValue, hblank, hdouble, hsingle, hclose, Bool.false_eq_true, if_false]
  exact hvalue

theorem run_plain {cs : List Char} (hplain : ∀ c ∈ cs, isPlain c) (hchunk : r.atChunkStart = false)
    (hstate : r.state = .attrValue tag name value .unquoted) :
    r.run cs = r.goto (.attrValue tag name (value ++ String.ofList cs) .unquoted) := by
  induction cs generalizing r value with
  | nil =>
    rw [String.ofList_nil, String.append_empty, ← hstate]
    rfl
  | cons c rest ih =>
    obtain ⟨hc, hrest⟩ := List.forall_mem_cons.1 hplain
    have hstep : r.step c = r.goto (.attrValue tag name (value.push c) .unquoted) := by
      rw [step, hchunk, if_neg Bool.false_ne_true, read, hstate]
      exact attrValue_plain hc
    have hvalue : value.push c ++ String.ofList rest = value ++ String.ofList (c :: rest) := by
      simp [String.ext_iff]
    show (r.step c).run rest = _
    rw [hstep, ← hvalue]
    exact ih (r := r.goto (.attrValue tag name (value.push c) .unquoted)) hrest hchunk rfl

/-- A value without quotes is read up to the character that ends it. -/
theorem run_value {c : Char} {rest : List Char} (hplain : ∀ x ∈ c :: rest, isPlain x)
    (hchunk : r.atChunkStart = false) (hstate : r.state = .beforeAttrValue tag name) :
    r.run (c :: rest) = r.goto (.attrValue tag name (String.ofList (c :: rest)) .unquoted) := by
  obtain ⟨hc, hrest⟩ := List.forall_mem_cons.1 hplain
  have hstep : r.step c = r.goto (.attrValue tag name (String.singleton c) .unquoted) := by
    rw [step, hchunk, if_neg Bool.false_ne_true, read, hstate]
    exact beforeAttrValue_plain hc
  -- From the first character on it is read like any other part of the value.
  show (r.step c).run rest = _
  rw [hstep, String.ofList_cons]
  exact run_plain (r := r.goto (.attrValue tag name (String.singleton c) .unquoted))
    hrest hchunk rfl

end Value

end Reader

/-! ## A reference -/

/-- The text of a reference with a directive. -/
def referenceText (src directive : List Char) : List Char :=
  "<embed type=ham/partial src=".toList ++ (src ++ (" data-ham-replace=".toList ++
    (directive ++ ['>'])))

theorem referenceText_eq (src directive : List Char) : referenceText src directive =
    "<embed type=ham/partial src=".toList ++ (src ++ (" data-ham-replace=".toList ++
      (directive ++ ['>']))) := rfl

/-- The attributes of a reference with a directive. -/
def referenceAttrs (src directive : String) : List Attribute :=
  [⟨"type", "ham/partial"⟩, ⟨"src", src⟩, ⟨"data-ham-replace", directive⟩]

namespace Reader

/-- The tag of a reference before its texts. -/
def referenceDraft (attrs : List Attribute) : TagDraft :=
  { isEnd := false, name := "embed", attrs := ⟨"type", "ham/partial"⟩ :: attrs }

/-- A reader in the middle of a first tag. -/
def within (state : State) : Reader := { state, atChunkStart := false }

theorem run_start : ({} : Reader).run "<embed type=ham/partial src=".toList =
    within (.beforeAttrValue (referenceDraft []) "src") := by
  cbv

theorem run_middle (src : String) :
    (within (.attrValue (referenceDraft []) "src" src .unquoted)).run " data-ham-replace=".toList =
      within (.beforeAttrValue (referenceDraft [⟨"src", src⟩]) "data-ham-replace") := by
  cbv

theorem emitTag_embed {r : Reader} (hbuilder : r.builder = {}) (attrs : List Attribute) :
    r.emitTag { isEnd := false, name := "embed", attrs } = { r with
      state := .data
      builder := .framing { name := "embed", attrs }
      lastStart := "embed" } := by
  have haccept := Builder.accept_embed attrs
  rw [← hbuilder] at haccept
  simp only [emitTag, haccept]
  rfl

theorem run_last (src directive : String) :
    (within (.attrValue (referenceDraft [⟨"src", src⟩]) "data-ham-replace" directive
      .unquoted)).run ['>'] =
    { builder := .framing { name := "embed", attrs := referenceAttrs src directive },
      lastStart := "embed", atChunkStart := false } := by
  -- The names of the attributes differ, so each of them is kept.
  have hpush : (referenceDraft [⟨"src", src⟩]).push "data-ham-replace" directive =
      { isEnd := false, name := "embed", attrs := referenceAttrs src directive } := by
    cbv
  show emitTag _ ((referenceDraft [⟨"src", src⟩]).push "data-ham-replace" directive) = _
  rw [hpush, emitTag_embed rfl]
  rfl

theorem run_value_within {tag : TagDraft} {name : String} {cs : List Char} (hne : cs ≠ [])
    (hplain : ∀ c ∈ cs, isPlain c) :
    (within (.beforeAttrValue tag name)).run cs =
      within (.attrValue tag name (String.ofList cs) .unquoted) := by
  obtain ⟨c, rest, rfl⟩ := List.exists_cons_of_ne_nil hne
  exact run_value hplain rfl rfl

end Reader

section Document

variable {src directive : List Char}

theorem not_mem_referenceText (hsrc : ∀ c ∈ src, isPlain c)
    (hdirective : ∀ c ∈ directive, isPlain c) : '\r' ∉ referenceText src directive := by
  have hplain : ∀ cs : List Char, (∀ c ∈ cs, isPlain c) → '\r' ∉ cs := fun cs h hmem =>
    absurd (h _ hmem) (by decide)
  have hstart : '\r' ∉ "<embed type=ham/partial src=".toList := by decide
  have hmiddle : '\r' ∉ " data-ham-replace=".toList := by decide
  have hlast : '\r' ∉ ['>'] := by decide
  rw [referenceText_eq]
  simp only [List.mem_append, not_or]
  exact ⟨hstart, hplain _ hsrc, hmiddle, hplain _ hdirective, hlast⟩

theorem run_referenceText (hsrc : src ≠ [] ∧ ∀ c ∈ src, isPlain c)
    (hdirective : directive ≠ [] ∧ ∀ c ∈ directive, isPlain c) :
    ({} : Reader).run (referenceText src directive) =
      { builder := .framing
          (.mk "embed" (referenceAttrs (String.ofList src) (String.ofList directive)))
        lastStart := "embed"
        atChunkStart := false } := by
  rw [referenceText_eq, Reader.run_append, Reader.run_start, Reader.run_append,
    Reader.run_value_within hsrc.1 hsrc.2, Reader.run_append, Reader.run_middle, Reader.run_append,
    Reader.run_value_within hdirective.1 hdirective.2, Reader.run_last]

/-- A text that is one reference is read as a document with its tag in the body. -/
theorem parse_referenceText (hsrc : src ≠ [] ∧ ∀ c ∈ src, isPlain c)
    (hdirective : directive ≠ [] ∧ ∀ c ∈ directive, isPlain c) :
    Document.parse (String.ofList (referenceText src directive)) =
      ⟨[.element { name := "html" } [.element { name := "head" } [],
        .element { name := "body" } [.element (.mk "embed"
          (referenceAttrs (String.ofList src) (String.ofList directive))) []]]]⟩ := by
  have hlines := unifyNewlines_of_not_mem (not_mem_referenceText hsrc.2 hdirective.2)
  rw [Document.parse, String.toList_ofList, hlines, run_referenceText hsrc hdirective]
  show ((Builder.framing _).accept .eof).arena.document = _
  rw [Builder.framing_accept_eof, Builder.framing_document]

end Document

end StaticSite.Html

namespace StaticSite.Template

open Html (Node Tag Document isPlain referenceText referenceAttrs)

/-- An element that frames a document has the markers of its content. -/
theorem filterMap_frame (raw : Bool) {name : String}
    (hname : name = "html" ∨ name = "head" ∨ name = "body") (children : List Node) :
    (nodePieces raw (.element { name } children)).filterMap Piece.marker? =
      (nodesPieces false children).filterMap Piece.marker? := by
  have hpieces : nodePieces raw (.element { name } children) =
      .html ((writtenTag { name }).renderStart children) :: nodesPieces false children ++
        [.html (Tag.renderEnd { name })] := by
    -- None of the three is a marker, is to be removed or takes its text verbatim.
    obtain rfl | rfl | rfl := hname <;> rfl
  rw [hpieces, List.filterMap_append, List.filterMap_cons]
  exact List.append_nil _

theorem nodePieces_reference (raw : Bool) {src directive : String} (hsrc : src ≠ "") :
    nodePieces raw (.element (.mk "embed" (referenceAttrs src directive)) []) =
      [.marker (.splice { src, replace := some directive })] := by
  have hasked : Tag.attr? (.mk "embed" (referenceAttrs src directive)) "src" = some src := rfl
  show [markerPiece (.mk "embed" (referenceAttrs src directive)) .splice] = _
  have hreplace : Tag.attr? (.mk "embed" (referenceAttrs src directive)) replaceAttribute
      = some directive := rfl
  simp [markerPiece, hasked, hreplace]

/-- A reference that stands alone is read back as it was written. -/
theorem references_referenceText {src directive : List Char}
    (hsrc : src ≠ [] ∧ ∀ c ∈ src, isPlain c)
    (hdirective : directive ≠ [] ∧ ∀ c ∈ directive, isPlain c) :
    (fragmentOf (String.ofList (referenceText src directive))).references =
      [{ src := String.ofList src, replace := some (String.ofList directive) }] := by
  have hname : String.ofList src ≠ "" := fun h => hsrc.1 (String.ofList_inj.1 h)
  have hmarkers : (fragmentOf (String.ofList (referenceText src directive))).markers =
      [.splice { src := String.ofList src, replace := some (String.ofList directive) }] := by
    rw [fragmentOf_eq, markers_extract, Html.parse_referenceText hsrc hdirective, documentPieces,
      nodesPieces_singleton, filterMap_frame false (.inl rfl), nodesPieces, List.filterMap_append,
      filterMap_frame false (.inr (.inl rfl)), nodesPieces_singleton,
      filterMap_frame false (.inr (.inr rfl)), nodesPieces_singleton,
      nodePieces_reference false hname]
    rfl
  rw [Fragment.references, hmarkers]
  rfl

end StaticSite.Template
