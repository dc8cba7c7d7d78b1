/-
  Reading back the pieces of a document.

  A piece that was written is read as the token it was written for, whatever the builder
  makes of it: a text with its references, a start tag with the values of its attributes,
  an end tag, a comment, a document type, and the content of an element with raw text up
  to its end tag.  A reader in the middle of a document is given by its state, its builder
  and the last start tag (`Reader.midway`); each lemma says where a run over a piece leads.
-/

import Mathlib
import StaticSite.Html.Reader
import StaticSite.Html.Render

namespace StaticSite.Html

/-! ## Character references -/

namespace CharRef

/-- Where a reference stands after some more characters, if it is not over before. -/
def after (inValue : Bool) : CharRef → List Char → Option CharRef
  | ref, [] => some ref
  | ref, c :: rest =>
    match ref.step inValue c with
    | .more ref => ref.after inValue rest
    | .over .. => none

/-- A name that has been read and stands for one character. -/
def complete (name : List Char) (c : Char) : CharRef :=
  .name name [([], [c.toNat])] (some ([c], true, []))

/-- Whatever comes next, a complete name is over. -/
theorem step_complete (inValue : Bool) (name : List Char) (c next : Char) :
    (complete name c).step inValue next = .over [c] true := by
  cases inValue <;> rfl

theorem after_amp (inValue : Bool) :
    start.after inValue "amp;".toList = some (complete "amp;".toList '&') := rfl

theorem after_nbsp (inValue : Bool) :
    start.after inValue "nbsp;".toList = some (complete "nbsp;".toList '\u00a0') := rfl

theorem after_quot (inValue : Bool) :
    start.after inValue "quot;".toList = some (complete "quot;".toList '"') := rfl

theorem after_lt (inValue : Bool) :
    start.after inValue "lt;".toList = some (complete "lt;".toList '<') := rfl

theorem after_gt (inValue : Bool) :
    start.after inValue "gt;".toList = some (complete "gt;".toList '>') := rfl

end CharRef

/-- A character is written as a reference by name, or as it is if it means nothing else there. -/
theorem escapeChar_cases (place : Place) (c : Char) :
    (∃ name, escapeChar place c = '&' :: name ∧
      ∀ inValue, CharRef.start.after inValue name = some (.complete name c)) ∨
    (escapeChar place c = [c] ∧ c ≠ '&' ∧ (place = .content → c ≠ '<') ∧
      (place = .attribute → c ≠ '"')) := by
  unfold escapeChar
  by_cases hamp : c = '&'
  · exact .inl ⟨_, by rw [hamp]; rfl, fun i => by rw [hamp]; exact CharRef.after_amp i⟩
  by_cases hnbsp : c = '\u00a0'
  · exact .inl ⟨_, by rw [hnbsp]; rfl, fun i => by rw [hnbsp]; exact CharRef.after_nbsp i⟩
  rw [if_neg (by simpa using hamp), if_neg (by simpa using hnbsp)]
  cases place with
  | «attribute» =>
    by_cases hquot : c = '"'
    · exact .inl ⟨_, by rw [hquot]; rfl, fun i => by rw [hquot]; exact CharRef.after_quot i⟩
    · exact .inr ⟨if_neg (by simpa using hquot), hamp, nofun, fun _ => hquot⟩
  | content =>
    by_cases hlt : c = '<'
    · exact .inl ⟨_, by rw [hlt]; rfl, fun i => by rw [hlt]; exact CharRef.after_lt i⟩
    by_cases hgt : c = '>'
    · exact .inl ⟨_, by rw [hgt]; rfl, fun i => by rw [hgt]; exact CharRef.after_gt i⟩
    refine .inr ⟨?_, hamp, fun _ => hlt, nofun⟩
    show (if _ then _ else if _ then _ else _) = _
    rw [if_neg (by simpa using hlt), if_neg (by simpa using hgt)]

/-- A builder after the characters of a text. -/
def Builder.acceptChars (b : Builder) (cs : List Char) : Builder :=
  cs.foldl (fun b c => b.accept (.char c)) b

namespace Reader

/-- A reader in the middle of a document. -/
def midway (state : State) (b : Builder) (last : String) : Reader :=
  { state, builder := b, lastStart := last, atChunkStart := false }

theorem run_cons (r : Reader) (c : Char) (rest : List Char) :
    r.run (c :: rest) = (r.step c).run rest := rfl

section Midway

variable {state : State} {b : Builder} {last : String}

theorem step_midway (c : Char) :
    (midway state b last).step c = (midway state b last).read c := rfl

theorem run_after {place : RefPlace} {ref ref' : CharRef} {cs : List Char}
    (h : ref.after (isInValue place) cs = some ref') :
    (midway (.charRef place ref) b last).run cs = midway (.charRef place ref') b last := by
  induction cs generalizing ref with
  | nil =>
    cases h
    rfl
  | cons c rest ih =>
    rw [CharRef.after] at h
    split at h
    · next ref₁ hstep =>
      have hread : (midway (.charRef place ref) b last).step c =
          midway (.charRef place ref₁) b last := by
        rw [step_midway]
        show charRef _ place ref c = _
        rw [charRef, hstep]
        rfl
      rw [run_cons, hread, ih h]
    · cases h

/-! ## Text -/

/-- How text is read where references are, in content or as the whole content of an element. -/
def textState (escapable : Bool) : State := if escapable then .raw .escapable else .data

/-- Where the references in such a text stand. -/
def textPlace (escapable : Bool) : RefPlace := if escapable then .escapable else .data

theorem visible_of_ne {c : Char} (h : c ≠ '\x00') : visible c = c := if_neg (by simpa using h)

/-- A reference in a text gives its character when the next one is read. -/
theorem run_complete_text (escapable : Bool) (name : List Char) (c next : Char)
    (rest : List Char) :
    (midway (.charRef (textPlace escapable) (.complete name c)) b last).run (next :: rest) =
      (midway (textState escapable) (b.accept (.char c)) last).run (next :: rest) := by
  have hread : (midway (.charRef (textPlace escapable) (.complete name c)) b last).step next =
      (midway (textState escapable) (b.accept (.char c)) last).step next := by
    rw [step_midway]
    show charRef _ (textPlace escapable) (.complete name c) next = _
    rw [charRef, CharRef.step_complete]
    cases escapable <;> rfl
  rw [run_cons, run_cons, hread]

theorem run_escapeChar_text (escapable : Bool) {c : Char} (hnul : c ≠ '\x00') (next : Char)
    (rest : List Char) :
    (midway (textState escapable) b last).run (escapeChar .content c ++ next :: rest) =
      (midway (textState escapable) (b.accept (.char c)) last).run (next :: rest) := by
  obtain ⟨name, hname, hafter⟩ | ⟨hself, hamp, hlt, -⟩ := escapeChar_cases .content c
  · have hstart : (midway (textState escapable) b last).step '&' =
        midway (.charRef (textPlace escapable) .start) b last := by
      cases escapable <;> rfl
    rw [hname, List.cons_append, run_cons, hstart, run_append, run_after (hafter _),
      run_complete_text]
  · have hread : (midway (textState escapable) b last).step c =
        midway (textState escapable) (b.accept (.char c)) last := by
      rw [step_midway]
      cases escapable with
      | false =>
        show data _ c = _
        rw [data, if_neg (by simpa using hlt rfl), if_neg (by simpa using hamp)]
        rfl
      | true =>
        show Reader.escapable _ c = _
        rw [Reader.escapable, if_neg (by simpa using hlt rfl), if_neg (by simpa using hamp),
          visible_of_ne hnul]
        rfl
    rw [hself, List.singleton_append, run_cons, hread]

/-- A text is read as its characters. -/
theorem run_escape_text (escapable : Bool) {cs : List Char} (hnul : ∀ c ∈ cs, c ≠ '\x00')
    (next : Char) (rest : List Char) :
    (midway (textState escapable) b last).run (cs.flatMap (escapeChar .content) ++ next :: rest) =
      (midway (textState escapable) (b.acceptChars cs) last).run (next :: rest) := by
  induction cs generalizing b with
  | nil => rfl
  | cons c cs ih =>
    obtain ⟨hc, hcs⟩ := List.forall_mem_cons.1 hnul
    obtain ⟨next', rest', hnext⟩ : ∃ next' rest',
        cs.flatMap (escapeChar .content) ++ next :: rest = next' :: rest' :=
      List.exists_cons_of_ne_nil (by simp)
    rw [List.flatMap_cons, List.append_assoc, hnext, run_escapeChar_text escapable hc, ← hnext,
      ih hcs]
    rfl

/-! ## Attribute values -/

/-- A reference in a value gives its character when the next one is read. -/
theorem run_complete_value (tag : TagDraft) (attr value : String) (name : List Char)
    (c next : Char) (rest : List Char) :
    (midway (.charRef (.value tag attr value .double) (.complete name c)) b last).run
        (next :: rest) =
      (midway (.attrValue tag attr (value.push c) .double) b last).run (next :: rest) := by
  have hpush : value ++ String.ofList [c] = value.push c := by simp
  have hread : (midway (.charRef (.value tag attr value .double) (.complete name c)) b last).step
      next = (midway (.attrValue tag attr (value.push c) .double) b last).step next := by
    rw [step_midway, ← hpush]
    show charRef _ (.value tag attr value .double) (.complete name c) next = _
    rw [charRef, CharRef.step_complete]
    rfl
  rw [run_cons, run_cons, hread]

theorem run_escapeChar_value (tag : TagDraft) (attr value : String) {c : Char} (hc : c ≠ '\x00')
    (next : Char) (rest : List Char) :
    (midway (.attrValue tag attr value .double) b last).run
        (escapeChar .attribute c ++ next :: rest) =
      (midway (.attrValue tag attr (value.push c) .double) b last).run (next :: rest) := by
  obtain ⟨name, hname, hafter⟩ | ⟨hself, hamp, -, hquot⟩ := escapeChar_cases .attribute c
  · have hstart : (midway (.attrValue tag attr value .double) b last).step '&' =
        midway (.charRef (.value tag attr value .double) .start) b last := rfl
    rw [hname, List.cons_append, run_cons, hstart, run_append, run_after (hafter _),
      run_complete_value]
  · have hread : (midway (.attrValue tag attr value .double) b last).step c =
        midway (.attrValue tag attr (value.push c) .double) b last := by
      rw [step_midway]
      show attrValue _ tag attr value .double c = _
      rw [attrValue]
      simp only [visible_of_ne hc]
      rw [if_neg (by simpa using hquot rfl), if_neg (by simpa using hamp)]
      rfl
    rw [hself, List.singleton_append, run_cons, hread]

/-- A value in quotes is read up to the quote that ends it. -/
theorem run_escape_value (tag : TagDraft) (attr value : String) {cs : List Char}
    (hcs : ∀ c ∈ cs, c ≠ '\x00') (rest : List Char) :
    (midway (.attrValue tag attr value .double) b last).run
        (cs.flatMap (escapeChar .attribute) ++ '"' :: rest) =
      (midway (.afterAttrValue (tag.push attr (value ++ String.ofList cs))) b last).run rest := by
  induction cs generalizing value with
  | nil =>
    rw [String.ofList_nil, String.append_empty]
    rfl
  | cons c cs ih =>
    obtain ⟨hc, hcs⟩ := List.forall_mem_cons.1 hcs
    obtain ⟨next, rest', hnext⟩ : ∃ next rest',
        cs.flatMap (escapeChar .attribute) ++ '"' :: rest = next :: rest' :=
      List.exists_cons_of_ne_nil (by simp)
    have hvalue : value.push c ++ String.ofList cs = value ++ String.ofList (c :: cs) := by
      simp [String.ext_iff]
    rw [List.flatMap_cons, List.append_assoc, hnext, run_escapeChar_value tag attr value hc,
      ← hnext, ih _ hcs, hvalue]

/-! ## Tags -/

end Midway

end Reader

/-- Whether a character stands for itself in the name of a tag. -/
def isNameChar (c : Char) : Bool :=
  !(isBlank c || c == '/' || c == '>' || c == '\x00') && c.toLower == c

/-- Whether a name is read as the name of a tag. -/
def isTagName (name : String) : Bool :=
  match name.toList with
  | [] => false
  | c :: rest => c.isAlpha && c.toLower == c && rest.all isNameChar

/-- Whether a name is read as the name of an attribute. -/
def isAttrName (name : String) : Bool :=
  match name.toList with
  | [] => false
  | c :: rest => isNameChar c && rest.all fun d => isNameChar d && d != '='

/-- Whether a character is read as it was written where references are read. -/
def isKept (c : Char) : Bool := c != '\x00' && c != '\r'

/-- Whether a start tag is read as it was written. -/
def Tag.isLegible (tag : Tag) : Bool :=
  isTagName tag.name && tag.attrs.all (fun attr => isAttrName attr.name &&
    attr.value.toList.all isKept) && decide (tag.attrs.map (·.name)).Nodup

theorem isNameChar_iff {c : Char} : isNameChar c ↔
    isBlank c = false ∧ c ≠ '/' ∧ c ≠ '>' ∧ c ≠ '\x00' ∧ c.toLower = c := by
  simp [isNameChar, and_assoc]

namespace Reader

section Tags

variable {state : State} {b : Builder} {last : String}

theorem step_tagName (tag : TagDraft) {c : Char} (hc : isNameChar c) :
    (midway (.tagName tag) b last).step c =
      midway (.tagName { tag with name := tag.name.push c }) b last := by
  obtain ⟨hblank, hslash, hgt, hnul, hlower⟩ := isNameChar_iff.1 hc
  rw [step_midway]
  show tagName _ tag c = _
  rw [tagName, hblank, if_neg Bool.false_ne_true, if_neg (by simpa using hslash),
    if_neg (by simpa using hgt), hlower, visible_of_ne hnul]
  rfl

theorem run_tagName (tag : TagDraft) {cs : List Char} (hcs : ∀ c ∈ cs, isNameChar c) :
    (midway (.tagName tag) b last).run cs =
      midway (.tagName { tag with name := tag.name ++ String.ofList cs }) b last := by
  induction cs generalizing tag with
  | nil =>
    rw [String.ofList_nil, String.append_empty]
    rfl
  | cons c cs ih =>
    obtain ⟨hc, hcs⟩ := List.forall_mem_cons.1 hcs
    have hname : tag.name.push c ++ String.ofList cs = tag.name ++ String.ofList (c :: cs) := by
      simp [String.ext_iff]
    rw [run_cons, step_tagName tag hc, ih _ hcs, hname]

/-- Where the name of a tag begins. -/
def nameStart (isEnd : Bool) : State := if isEnd then .endTagOpen else .tagOpen

theorem run_name {isEnd : Bool} {name : String} (hname : isTagName name) :
    (midway (nameStart isEnd) b last).run name.toList =
      midway (.tagName { isEnd, name }) b last := by
  unfold isTagName at hname
  split at hname
  · cases hname
  · next c rest hlist =>
    simp only [Bool.and_eq_true, beq_iff_eq, List.all_eq_true] at hname
    obtain ⟨⟨halpha, hlower⟩, hrest⟩ := hname
    have hself : String.singleton c ++ String.ofList rest = name := by
      rw [← String.toList_inj, hlist]
      simp
    have hbang : c ≠ '!' := fun h => absurd (h ▸ halpha) (by decide)
    have hslash : c ≠ '/' := fun h => absurd (h ▸ halpha) (by decide)
    have hquestion : c ≠ '?' := fun h => absurd (h ▸ halpha) (by decide)
    have hgt : c ≠ '>' := fun h => absurd (h ▸ halpha) (by decide)
    have hread : (midway (nameStart isEnd) b last).step c =
        midway (.tagName { isEnd, name := String.singleton c }) b last := by
      rw [step_midway]
      cases isEnd with
      | true =>
        show endTagOpen _ c = _
        rw [endTagOpen, if_neg (by simpa using hgt), if_pos halpha, hlower]
        rfl
      | false =>
        show tagOpen _ c = _
        rw [tagOpen, if_neg (by simpa using hbang), if_neg (by simpa using hslash),
          if_neg (by simpa using hquestion), if_pos halpha, hlower]
        rfl
    rw [hlist, run_cons, hread, run_tagName _ hrest, hself]

theorem step_attrName (tag : TagDraft) (attr : String) {c : Char} (hc : isNameChar c)
    (hequals : c ≠ '=') : (midway (.attrName tag attr) b last).step c =
      midway (.attrName tag (attr.push c)) b last := by
  obtain ⟨hblank, hslash, hgt, hnul, hlower⟩ := isNameChar_iff.1 hc
  rw [step_midway]
  show attrName _ tag attr c = _
  rw [attrName, hblank, if_neg Bool.false_ne_true, if_neg (by simpa using hslash),
    if_neg (by simpa using hequals), if_neg (by simpa using hgt), hlower, visible_of_ne hnul]
  rfl

theorem run_attrName (tag : TagDraft) {name : String} (hname : isAttrName name) :
    (midway (.beforeAttr tag) b last).run name.toList = midway (.attrName tag name) b last := by
  unfold isAttrName at hname
  split at hname
  · cases hname
  · next c rest hlist =>
    rw [Bool.and_eq_true, List.all_eq_true] at hname
    obtain ⟨hc, hrest⟩ := hname
    obtain ⟨hblank, hslash, hgt, hnul, hlower⟩ := isNameChar_iff.1 hc
    have hread : (midway (.beforeAttr tag) b last).step c =
        midway (.attrName tag (String.singleton c)) b last := by
      rw [step_midway]
      show beforeAttr _ tag c = _
      rw [beforeAttr, hblank, if_neg Bool.false_ne_true, if_neg (by simpa using hslash),
        if_neg (by simpa using hgt), hlower, visible_of_ne hnul]
      rfl
    have hmore (attr : String) : (midway (.attrName tag attr) b last).run rest =
        midway (.attrName tag (attr ++ String.ofList rest)) b last := by
      clear hlist
      induction rest generalizing attr with
      | nil =>
        rw [String.ofList_nil, String.append_empty]
        rfl
      | cons d rest ih =>
        obtain ⟨hd, hrest⟩ := List.forall_mem_cons.1 hrest
        rw [Bool.and_eq_true, bne_iff_ne] at hd
        have hpush : attr.push d ++ String.ofList rest = attr ++ String.ofList (d :: rest) := by
          simp [String.ext_iff]
        rw [run_cons, step_attrName tag attr hd.1 hd.2, ih hrest, hpush]
    have hself : String.singleton c ++ String.ofList rest = name := by
      rw [← String.toList_inj, hlist]
      simp
    rw [hlist, run_cons, hread, hmore, hself]

/-- Where a tag may end or have another attribute. -/
def AtAttr (state : State) (tag : TagDraft) : Prop :=
  (∀ b last, (midway state b last).step ' ' = midway (.beforeAttr tag) b last) ∧
    ∀ b last, (midway state b last).step '>' = (midway .data b last).emitTag tag

theorem atAttr_tagName (tag : TagDraft) : AtAttr (.tagName tag) tag :=
  ⟨fun _ _ => rfl, fun _ _ => by
    obtain ⟨isEnd, name, attrs⟩ := tag
    cases isEnd <;> rfl⟩

theorem atAttr_afterAttrValue (tag : TagDraft) : AtAttr (.afterAttrValue tag) tag :=
  ⟨fun _ _ => rfl, fun _ _ => by
    obtain ⟨isEnd, name, attrs⟩ := tag
    cases isEnd <;> rfl⟩

/-- One attribute is read as it was written. -/
theorem run_attr {tag : TagDraft} (hstate : AtAttr state tag) {attr : Attribute}
    (hname : isAttrName attr.name) (hvalue : ∀ c ∈ attr.value.toList, c ≠ '\x00')
    (rest : List Char) :
    (midway state b last).run (attr.render.toList ++ rest) =
      (midway (.afterAttrValue (tag.push attr.name attr.value)) b last).run rest := by
  have hrender : attr.render.toList ++ rest = ' ' :: (attr.name.toList ++ ('=' :: '"' ::
      (attr.value.toList.flatMap (escapeChar .attribute) ++ '"' :: rest))) := by
    simp [Attribute.render, escape]
  have hequals : (midway (.attrName tag attr.name) b last).step '=' =
      midway (.beforeAttrValue tag attr.name) b last := rfl
  have hquote : (midway (.beforeAttrValue tag attr.name) b last).step '"' =
      midway (.attrValue tag attr.name "" .double) b last := rfl
  rw [hrender, run_cons, hstate.1, run_append, run_attrName tag hname, run_cons, hequals, run_cons,
    hquote, run_escape_value tag attr.name "" hvalue, String.empty_append, String.ofList_toList]

theorem push_of_not_mem {tag : TagDraft} {name value : String}
    (h : name ∉ tag.attrs.map (·.name)) :
    tag.push name value = { tag with attrs := tag.attrs ++ [{ name, value }] } :=
  if_neg (by simpa using h)

theorem run_attrs {tag : TagDraft} (hstate : AtAttr state tag) {attrs : List Attribute}
    (hattrs : ∀ attr ∈ attrs, isAttrName attr.name ∧ ∀ c ∈ attr.value.toList, c ≠ '\x00')
    (hnames : ((tag.attrs ++ attrs).map (·.name)).Nodup) :
    (midway state b last).run ((attrs.map Attribute.render).flatMap String.toList ++ ['>']) =
      (midway .data b last).emitTag { tag with attrs := tag.attrs ++ attrs } := by
  induction attrs generalizing state tag with
  | nil =>
    rw [List.append_nil]
    exact hstate.2 b last
  | cons attr rest ih =>
    obtain ⟨⟨hname, hvalue⟩, hrest⟩ := List.forall_mem_cons.1 hattrs
    -- The name has not been read before, so the attribute is added.
    have hnew : attr.name ∉ tag.attrs.map (·.name) := by
      rw [List.map_append, List.map_cons] at hnames
      exact fun h => (List.nodup_append.1 hnames).2.2 _ h _ List.mem_cons_self rfl
    have hsplit : tag.attrs ++ [attr] ++ rest = tag.attrs ++ attr :: rest := by simp
    rw [List.map_cons, List.flatMap_cons, List.append_assoc, run_attr hstate hname hvalue,
      push_of_not_mem hnew, ih (atAttr_afterAttrValue _) hrest (by rw [hsplit]; exact hnames),
      hsplit]

/-- A start tag is read as it was written. -/
theorem run_startTag {tag : Tag} (htag : tag.isLegible) :
    (midway .data b last).run ("<" ++ tag.name ++ String.join (tag.attrs.map Attribute.render)
        ++ ">").toList =
      (midway .data b last).emitTag { isEnd := false, name := tag.name, attrs := tag.attrs } := by
  simp only [Tag.isLegible, Bool.and_eq_true, List.all_eq_true, decide_eq_true_eq] at htag
  obtain ⟨⟨hname, hattrs⟩, hnames⟩ := htag
  have hopen : (midway .data b last).step '<' = midway (nameStart false) b last := rfl
  have hkept : ∀ attr ∈ tag.attrs, isAttrName attr.name ∧ ∀ c ∈ attr.value.toList, c ≠ '\x00' := by
    intro attr hattr
    obtain ⟨hattrName, hvalue⟩ := hattrs attr hattr
    refine ⟨hattrName, fun c hc hnul => ?_⟩
    have hkept := hvalue c hc
    rw [hnul] at hkept
    cases hkept
  have htext : ("<" ++ tag.name ++ String.join (tag.attrs.map Attribute.render) ++ ">").toList =
      '<' :: (tag.name.toList ++
        ((tag.attrs.map Attribute.render).flatMap String.toList ++ ['>'])) := by
    simp
  rw [htext, run_cons, hopen, run_append, run_name hname,
    run_attrs (atAttr_tagName { isEnd := false, name := tag.name }) hkept hnames]
  rfl

/-- An end tag is read as it was written. -/
theorem run_endTag {name : String} (hname : isTagName name) :
    (midway .data b last).run ("</" ++ name ++ ">").toList =
      (midway .data b last).emitTag { isEnd := true, name } := by
  have hopen : (midway .data b last).step '<' = midway .tagOpen b last := rfl
  have hslash : (midway .tagOpen b last).step '/' = midway (nameStart true) b last := rfl
  have htext : ("</" ++ name ++ ">").toList = '<' :: '/' :: (name.toList ++ ['>']) := by simp
  rw [htext, run_cons, hopen, run_cons, hslash, run_append, run_name hname,
    run_cons, (atAttr_tagName _).2]
  rfl

end Tags

end Reader

/-! ## Comments -/

/-- Whether a comment would end here if an angle bracket came next; what was read of it stands
with its last character first. -/
def endsComment : List Char → Bool
  | [] | ['-'] => true
  | '-' :: '-' :: _ | '!' :: '-' :: '-' :: _ => true
  | _ => false

/-- Whether the rest of a comment is read as it was written. -/
def isCommentRest (read : List Char) : List Char → Bool
  | [] => true
  | c :: rest => isKept c && !(c == '>' && endsComment read) && isCommentRest (c :: read) rest

/-- Whether a comment is read as it was written. -/
def isCommentText (s : String) : Bool := isCommentRest [] s.toList

namespace Reader

/-- The state of a reader after a part of a comment, its last character first. -/
def commentState : List Char → State
  | [] => .commentStart
  | ['-'] => .commentStartDash
  | '-' :: '-' :: rest => .commentEnd (String.ofList rest.reverse)
  | '!' :: '-' :: '-' :: rest => .commentEndBang (String.ofList rest.reverse)
  | '-' :: rest => .commentEndDash (String.ofList rest.reverse)
  | read => .comment (String.ofList read.reverse)

section Comments

variable {state : State} {b : Builder} {last : String}

theorem comment_midway {s : String} {read : List Char} {c : Char} (hdash : c ≠ '-')
    (hnul : c ≠ '\x00') (hs : s.toList = read.reverse) :
    (midway state b last).comment s c =
      midway (.comment (String.ofList (c :: read).reverse)) b last := by
  have hpush : s.push c = String.ofList (c :: read).reverse := by
    rw [← String.toList_inj]
    simp [hs]
  rw [comment, if_neg (by simpa using hdash), visible_of_ne hnul, hpush]
  rfl

/-- A dash leads from one of the states to another. -/
theorem step_comment_dash (read : List Char) :
    (midway (commentState read) b last).step '-' = midway (commentState ('-' :: read)) b last := by
  fun_cases commentState read with
  | case1 => rfl
  | case2 => rfl
  | case3 rest =>
    show midway (.commentEnd (String.ofList rest.reverse ++ "-")) b last =
      midway (.commentEnd (String.ofList ('-' :: rest).reverse)) b last
    simp
  | case4 rest =>
    show midway (.commentEndDash (String.ofList rest.reverse ++ "--!")) b last =
      midway (.commentEndDash (String.ofList ('!' :: '-' :: '-' :: rest).reverse)) b last
    simp
  | case5 rest hne hdash =>
    cases rest with
    | nil => exact absurd rfl hne
    | cons d rest =>
      show midway (.commentEnd (String.ofList (d :: rest).reverse)) b last = midway _ b last
      rw [commentState]
  | case6 read hnil hone htwo hbang hdash =>
    have hnext : commentState ('-' :: read) = .commentEndDash (String.ofList read.reverse) := by
      unfold commentState
      split <;> simp_all
    rw [hnext]
    rfl

/-- Any other character goes on with the comment, unless it may be followed by its end. -/
theorem step_comment_plain (read : List Char) {c : Char} (hdash : c ≠ '-') (hnul : c ≠ '\x00')
    (hbang : c = '!' → ∀ rest, read ≠ '-' :: '-' :: rest)
    (hopen : c = '>' → endsComment read = false) :
    (midway (commentState read) b last).step c = midway (commentState (c :: read)) b last := by
  have hnext : commentState (c :: read) = .comment (String.ofList (c :: read).reverse) := by
    unfold commentState
    split <;> simp_all
  have hgt (h : endsComment read = true) : (c == '>') = false := by
    rw [beq_eq_false_iff_ne]
    intro hc
    rw [hopen hc] at h
    cases h
  have hdash' : (c == '-') = false := beq_eq_false_iff_ne.2 hdash
  rw [hnext]
  fun_cases commentState read with
  | case1 =>
    show commentStart _ c = _
    rw [commentStart, hdash', hgt rfl]
    exact comment_midway hdash hnul rfl
  | case2 =>
    show commentStartDash _ c = _
    rw [commentStartDash, hdash', hgt rfl]
    exact comment_midway hdash hnul rfl
  | case3 rest =>
    have hbang' : (c == '!') = false := beq_eq_false_iff_ne.2 fun h => hbang h rest rfl
    show commentEnd _ _ c = _
    rw [commentEnd, hdash', hgt rfl, hbang']
    exact comment_midway hdash hnul (by simp)
  | case4 rest =>
    show commentEndBang _ _ c = _
    rw [commentEndBang, hdash', hgt rfl]
    exact comment_midway hdash hnul (by simp)
  | case5 rest hne _ =>
    show commentEndDash _ _ c = _
    rw [commentEndDash, hdash']
    exact comment_midway hdash hnul (by simp)
  | case6 read _ _ _ _ _ =>
    exact comment_midway hdash hnul (by simp)

theorem step_comment_bang (rest : List Char) :
    (midway (commentState ('-' :: '-' :: rest)) b last).step '!' =
      midway (commentState ('!' :: '-' :: '-' :: rest)) b last := by
  rw [commentState, commentState]
  rfl

theorem run_comment {read cs : List Char} (hcs : isCommentRest read cs) :
    (midway (commentState read) b last).run cs =
      midway (commentState (cs.reverse ++ read)) b last := by
  induction cs generalizing read with
  | nil => rfl
  | cons c rest ih =>
    simp only [isCommentRest, Bool.and_eq_true, Bool.not_eq_true', isKept, bne_iff_ne] at hcs
    obtain ⟨⟨⟨hnul, -⟩, hopen⟩, hrest⟩ := hcs
    have hgt : c = '>' → endsComment read = false := by
      rintro rfl
      exact hopen
    have hstep : (midway (commentState read) b last).step c =
        midway (commentState (c :: read)) b last := by
      by_cases hdash : c = '-'
      · subst hdash
        exact step_comment_dash read
      · by_cases hbang : c = '!' ∧ ∃ rest, read = '-' :: '-' :: rest
        · obtain ⟨rfl, rest, rfl⟩ := hbang
          exact step_comment_bang rest
        · exact step_comment_plain read hdash hnul
            (fun hc rest hread => hbang ⟨hc, rest, hread⟩) hgt
    rw [run_cons, hstep, ih hrest, List.reverse_cons, List.append_assoc]
    rfl

theorem isCommentRest_dashes {read cs : List Char} (h : isCommentRest read cs) :
    isCommentRest read (cs ++ ['-', '-']) := by
  induction cs generalizing read with
  | nil => rfl
  | cons c rest ih =>
    rw [isCommentRest, Bool.and_eq_true] at h
    rw [List.cons_append, isCommentRest, Bool.and_eq_true]
    exact ⟨h.1, ih h.2⟩

/-- A comment is read as it was written. -/
theorem run_commentText {s : String} (hs : isCommentText s) :
    (midway .data b last).run ("<!--" ++ s ++ "-->").toList =
      midway .data (b.accept (.comment s)) last := by
  have hopen : (midway .data b last).run "<!--".toList = midway (commentState []) b last := by
    cbv
  have htext : ("<!--" ++ s ++ "-->").toList =
      "<!--".toList ++ ((s.toList ++ ['-', '-']) ++ ['>']) := by simp
  have hstate : commentState ((s.toList ++ ['-', '-']).reverse ++ []) = .commentEnd s := by
    simp [commentState]
  rw [htext, run_append, hopen, run_append, run_comment (isCommentRest_dashes hs), hstate]
  rfl

end Comments

end Reader

/-! ## Document types -/

/-- Whether a name is read as the name of a document type. -/
def isDoctypeName (name : String) : Bool :=
  name.toList.all fun c => !(isBlank c || c == '>' || c == '\x00') && c.toLower == c

namespace Reader

section Doctypes

variable {b : Builder} {last : String}

theorem run_doctypeName (d : Doctype) {cs : List Char} (name : String)
    (hcs : ∀ c ∈ cs, !(isBlank c || c == '>' || c == '\x00') && c.toLower == c) :
    (midway (.doctypeName d name) b last).run cs =
      midway (.doctypeName d (name ++ String.ofList cs)) b last := by
  induction cs generalizing name with
  | nil =>
    rw [String.ofList_nil, String.append_empty]
    rfl
  | cons c cs ih =>
    obtain ⟨hc, hcs⟩ := List.forall_mem_cons.1 hcs
    have hname : name.push c ++ String.ofList cs = name ++ String.ofList (c :: cs) := by
      simp [String.ext_iff]
    have hread : (midway (.doctypeName d name) b last).step c =
        midway (.doctypeName d (name.push c)) b last := by
      simp only [Bool.and_eq_true, Bool.not_eq_true', Bool.or_eq_false_iff, beq_iff_eq,
        beq_eq_false_iff_ne] at hc
      obtain ⟨⟨⟨hblank, hgt⟩, hnul⟩, hlower⟩ := hc
      rw [step_midway]
      show doctypeName _ d name c = _
      rw [doctypeName, hblank, if_neg Bool.false_ne_true, if_neg (by simpa using hgt), hlower,
        visible_of_ne hnul]
      rfl
    rw [run_cons, hread, ih _ hcs, hname]

/-- A document type is read with the name that was written, and nothing else. -/
theorem run_doctype {name : String} (hname : isDoctypeName name) :
    ∃ d : Doctype, d.name.getD "" = name ∧
      (midway .data b last).run ("<!DOCTYPE " ++ name ++ ">").toList =
        midway .data (b.accept (.doctype d)) last := by
  have hopen : (midway .data b last).run "<!DOCTYPE ".toList =
      midway .beforeDoctypeName b last := by
    cbv
  have htext : ("<!DOCTYPE " ++ name ++ ">").toList =
      "<!DOCTYPE ".toList ++ (name.toList ++ ['>']) := by simp
  rw [isDoctypeName, List.all_eq_true] at hname
  rw [htext, run_append, hopen]
  cases hlist : name.toList with
  | nil => exact ⟨{ malformed := true }, (String.toList_eq_nil_iff.1 hlist).symm, rfl⟩
  | cons c rest =>
    rw [hlist] at hname
    obtain ⟨hc, hrest⟩ := List.forall_mem_cons.1 hname
    have hread : (midway .beforeDoctypeName b last).step c =
        midway (.doctypeName {} (String.singleton c)) b last := by
      simp only [Bool.and_eq_true, Bool.not_eq_true', Bool.or_eq_false_iff, beq_iff_eq,
        beq_eq_false_iff_ne] at hc
      obtain ⟨⟨⟨hblank, hgt⟩, hnul⟩, hlower⟩ := hc
      rw [step_midway]
      show beforeDoctypeName _ c = _
      rw [beforeDoctypeName, hblank, if_neg Bool.false_ne_true, if_neg (by simpa using hgt), hlower,
        visible_of_ne hnul]
      rfl
    have hself : String.singleton c ++ String.ofList rest = name := by
      rw [← String.toList_inj, hlist]
      simp
    refine ⟨{ name := some name }, rfl, ?_⟩
    rw [List.cons_append, run_cons, hread, run_append, run_doctypeName {} _ hrest, hself]
    rfl

end Doctypes

end Reader

/-! ## Raw text -/

/-- Whether nothing in a text is taken for the end tag of the raw text that it is. -/
def isRawText (name : String) (script : Bool) (cs : List Char) : Bool :=
  decide (¬ "</".toList ++ name.toList <:+: cs.map Char.toLower) &&
    !(script && decide ("<!--".toList <:+: cs))

theorem isRawText_iff {name : String} {script : Bool} {cs : List Char} :
    isRawText name script cs ↔ ¬ "</".toList ++ name.toList <:+: cs.map Char.toLower ∧
      (script = true → ¬ "<!--".toList <:+: cs) := by
  cases script <;> simp [isRawText]

theorem isRawText_of_part {name : String} {script : Bool} {cs ds : List Char}
    (h : isRawText name script ds) (hcs : cs <:+: ds) : isRawText name script cs := by
  rw [isRawText_iff] at h ⊢
  exact ⟨fun hend => h.1 (hend.trans (hcs.map _)), fun hs hesc => h.2 hs (hesc.trans hcs)⟩

namespace Reader

/-- The content of an element with raw text, script or not. -/
def rawKind (script : Bool) : RawState := if script then .script else .verbatim

/-- The states in raw text: what is held back there, and what was read that still matters. -/
inductive RawPart (script : Bool) : State → List Char → List Char → Prop where
  | text : RawPart script (.raw (rawKind script)) [] []
  | less : RawPart script (.rawLess (rawKind script)) ['<'] ['<']
  | slash : RawPart script (.rawEndOpen (rawKind script)) ['<', '/'] ['<', '/']
  | name (letters : List Char) :
    RawPart script (.rawEndName (rawKind script) (String.ofList letters))
      ('<' :: '/' :: letters) ('<' :: '/' :: letters)
  | bang (h : script = true) : RawPart script .escapeStart [] ['<', '!']
  | dash (h : script = true) : RawPart script .escapeStartDash [] ['<', '!', '-']

section RawTexts

variable {state : State} {b : Builder} {last : String} {script : Bool} {held seen : List Char}

theorem emitChars_midway (cs : List Char) :
    (midway state b last).emitChars cs = midway state (b.acceptChars cs) last := by
  induction cs generalizing b with
  | nil => rfl
  | cons c cs ih => exact ih

theorem acceptChars_append (xs ys : List Char) :
    b.acceptChars (xs ++ ys) = (b.acceptChars xs).acceptChars ys :=
  List.foldl_append

/-- What one more character of raw text leads to: what was held back and the character are text or
are held back now, and what matters from now on is an end of what mattered before. -/
def RawStep (script : Bool) (b : Builder) (last : String) (held seen : List Char) (c : Char)
    (next : Reader) : Prop :=
  ∃ state' emitted held' seen', next = midway state' (b.acceptChars emitted) last ∧
    RawPart script state' held' seen' ∧ emitted ++ held' = held ++ [c] ∧ seen' <:+ seen ++ [c]

/-- Where nothing special comes next, the text goes on after what was held back. -/
theorem rawStep_flush (script : Bool) (held seen : List Char) {c : Char} (hnul : c ≠ '\x00') :
    RawStep script b last held seen c
      (((midway state b last).emitChars held).raw (rawKind script) c) := by
  rw [emitChars_midway]
  by_cases hless : c = '<'
  · subst hless
    refine ⟨_, held, ['<'], ['<'], ?_, .less, rfl, List.suffix_append _ _⟩
    cases script <;> rfl
  · refine ⟨_, held ++ [c], [], [], ?_, .text, List.append_nil _, List.nil_suffix⟩
    rw [acceptChars_append]
    have hne : (c == '<') = false := beq_eq_false_iff_ne.2 hless
    cases script with
    | true =>
      show (if c == '<' then _ else _) = _
      rw [hne, visible_of_ne hnul]
      rfl
    | false =>
      show (if c == '<' then _ else _) = _
      rw [hne, visible_of_ne hnul]
      rfl

/-- The letters of an end tag are not those of the element while its text goes on. -/
theorem not_fits {letters : List Char} {c : Char}
    (h : isRawText last script ('<' :: '/' :: letters ++ [c])) :
    ((String.ofList letters).toLower == last) = false := by
  rw [beq_eq_false_iff_ne]
  intro hfits
  refine (isRawText_iff.1 h).1 ⟨[], [c.toLower], ?_⟩
  rw [← hfits, String.toLower, String.toList_map, List.map_append, List.map_cons, List.map_cons]
  simp only [String.toList_ofList]
  rfl

/-- What comes behind a `<`. -/
theorem rawStep_less (script : Bool) {c : Char} (hnul : c ≠ '\x00') :
    RawStep script b last ['<'] ['<'] c ((midway (.rawLess (rawKind script)) b last).step c) := by
  by_cases hslash : c = '/'
  · subst hslash
    refine ⟨_, [], _, _, ?_, .slash, rfl, List.suffix_refl _⟩
    cases script <;> rfl
  have hne : (c == '/') = false := beq_eq_false_iff_ne.2 hslash
  cases script with
  | false =>
    have hread : (midway (.rawLess .verbatim) b last).step c =
        ((midway (.rawLess .verbatim) b last).emitChars ['<']).raw .verbatim c := by
      show (if c == '/' then _ else _) = _
      rw [hne]
      rfl
    exact hread ▸ rawStep_flush false ['<'] ['<'] hnul
  | true =>
    by_cases hbang : c = '!'
    · subst hbang
      exact ⟨_, ['<', '!'], [], ['<', '!'], rfl, .bang rfl, rfl, List.suffix_refl _⟩
    · have hne' : (c == '!') = false := beq_eq_false_iff_ne.2 hbang
      have hread : (midway (.rawLess .script) b last).step c =
          ((midway (.rawLess .script) b last).emitChars ['<']).raw .script c := by
        show (if c == '/' then _ else if c == '!' then _ else _) = _
        rw [hne, hne']
        rfl
      exact hread ▸ rawStep_flush true ['<'] ['<'] hnul

/-- What comes behind a `</`. -/
theorem rawStep_slash (script : Bool) {c : Char} (hnul : c ≠ '\x00') :
    RawStep script b last ['<', '/'] ['<', '/'] c
      ((midway (.rawEndOpen (rawKind script)) b last).step c) := by
  by_cases halpha : c.isAlpha
  · refine ⟨_, [], _, _, ?_, .name [c], rfl, List.suffix_refl _⟩
    show rawEndOpen _ _ c = _
    rw [rawEndOpen, if_pos halpha, ← String.singleton_eq_ofList]
    rfl
  · have hread : (midway (.rawEndOpen (rawKind script)) b last).step c =
        ((midway (.rawEndOpen (rawKind script)) b last).emitChars ['<', '/']).raw
          (rawKind script) c := by
      show rawEndOpen _ _ c = _
      rw [rawEndOpen, if_neg halpha]
    exact hread ▸ rawStep_flush script ['<', '/'] ['<', '/'] hnul

/-- What comes behind the letters of an end tag that is not the element's. -/
theorem rawStep_name (script : Bool) (letters : List Char) {c : Char} (hnul : c ≠ '\x00')
    (hfits : ((String.ofList letters).toLower == last) = false) :
    RawStep script b last ('<' :: '/' :: letters) ('<' :: '/' :: letters) c
      ((midway (.rawEndName (rawKind script) (String.ofList letters)) b last).step c) := by
  have hother : ((String.ofList letters).toLower ==
      (midway (.rawEndName (rawKind script) (String.ofList letters)) b last).lastStart) = false :=
    hfits
  by_cases halpha : c.isAlpha
  · have hpush : (String.ofList letters).push c = String.ofList (letters ++ [c]) := by
      simp
    refine ⟨_, [], _, _, ?_, .name (letters ++ [c]), rfl, List.suffix_refl _⟩
    show rawEndName _ _ _ c = _
    simp only [rawEndName, hother, Bool.false_and, Bool.false_eq_true, if_false, halpha, if_true,
      hpush]
    rfl
  · have hread : (midway (.rawEndName (rawKind script) (String.ofList letters)) b last).step c =
        ((midway (.rawEndName (rawKind script) (String.ofList letters)) b last).emitChars
          ('<' :: '/' :: letters)).raw (rawKind script) c := by
      show rawEndName _ _ _ c = _
      simp only [rawEndName, hother, Bool.false_and, Bool.false_eq_true, if_false, halpha,
        String.toList_ofList]
    exact hread ▸ rawStep_flush script ('<' :: '/' :: letters) ('<' :: '/' :: letters) hnul

/-- What comes behind a `<!` in a script. -/
theorem rawStep_bang {c : Char} (hnul : c ≠ '\x00') :
    RawStep true b last [] ['<', '!'] c ((midway .escapeStart b last).step c) := by
  by_cases hdash : c = '-'
  · subst hdash
    exact ⟨_, ['-'], [], ['<', '!', '-'], rfl, .dash rfl, rfl, List.suffix_refl _⟩
  · have hread : (midway .escapeStart b last).step c =
        ((midway .escapeStart b last).emitChars []).raw .script c := by
      show escapeStart _ c = _
      rw [escapeStart, if_neg (by simpa using hdash)]
      rfl
    exact hread ▸ rawStep_flush true [] ['<', '!'] hnul

/-- What comes behind a `<!-` in a script, where no second dash does. -/
theorem rawStep_dash {c : Char} (hnul : c ≠ '\x00') (hdash : c ≠ '-') :
    RawStep true b last [] ['<', '!', '-'] c ((midway .escapeStartDash b last).step c) := by
  have hread : (midway .escapeStartDash b last).step c =
      ((midway .escapeStartDash b last).emitChars []).raw .script c := by
    show escapeStartDash _ c = _
    rw [escapeStartDash, if_neg (by simpa using hdash)]
    rfl
  exact hread ▸ rawStep_flush true [] ['<', '!', '-'] hnul

/-- One more character of raw text. -/
theorem RawPart.step (h : RawPart script state held seen) {c : Char} (hnul : c ≠ '\x00')
    (hraw : isRawText last script (seen ++ [c])) :
    RawStep script b last held seen c ((midway state b last).step c) := by
  cases h with
  | text => cases script <;> exact rawStep_flush _ [] [] hnul
  | less => exact rawStep_less script hnul
  | slash => exact rawStep_slash script hnul
  | name letters => exact rawStep_name script letters hnul (not_fits hraw)
  | bang hscript =>
    subst hscript
    exact rawStep_bang hnul
  | dash hscript =>
    subst hscript
    refine rawStep_dash hnul ?_
    rintro rfl
    exact (isRawText_iff.1 hraw).2 rfl (List.infix_refl _)

/-- All of a raw text up to what is held back at its end. -/
theorem RawPart.run (h : RawPart script state held seen) {cs : List Char}
    (hnul : ∀ c ∈ cs, c ≠ '\x00') (hraw : isRawText last script (seen ++ cs)) :
    ∃ state' emitted held' seen', (midway state b last).run cs =
        midway state' (b.acceptChars emitted) last ∧
      RawPart script state' held' seen' ∧ emitted ++ held' = held ++ cs := by
  induction cs generalizing state b held seen with
  | nil => exact ⟨state, [], held, seen, rfl, h, (List.append_nil held).symm⟩
  | cons c rest ih =>
    obtain ⟨hc, hrest⟩ := List.forall_mem_cons.1 hnul
    have hsplit : seen ++ c :: rest = seen ++ [c] ++ rest := by simp
    rw [hsplit] at hraw
    obtain ⟨state₁, emitted₁, held₁, seen₁, hstep, hpart₁, htext₁, hsuffix⟩ :=
      @RawPart.step state b last script held seen h c hc
        (isRawText_of_part hraw (List.prefix_append _ _).isInfix)
    -- What matters after the step is the end of what mattered before.
    have hraw₁ : isRawText last script (seen₁ ++ rest) := by
      obtain ⟨before, hbefore⟩ := hsuffix
      refine isRawText_of_part hraw ⟨before, [], ?_⟩
      rw [List.append_nil, ← List.append_assoc, hbefore]
    obtain ⟨state₂, emitted₂, held₂, seen₂, hrun, hpart₂, htext₂⟩ :=
      @ih state₁ (b.acceptChars emitted₁) held₁ seen₁ hpart₁ hrest hraw₁
    refine ⟨state₂, emitted₁ ++ emitted₂, held₂, seen₂, ?_, hpart₂, ?_⟩
    · rw [run_cons, hstep, hrun, acceptChars_append]
    · rw [List.append_assoc, htext₂, ← List.append_assoc, htext₁]
      simp

/-- The start of a tag ends whatever was held back. -/
theorem RawPart.step_less (h : RawPart script state held seen) :
    (midway state b last).step '<' =
      midway (.rawLess (rawKind script)) (b.acceptChars held) last := by
  cases h with
  | text => cases script <;> rfl
  | less => cases script <;> rfl
  | slash =>
    show ((midway _ b last).emitChars ['<', '/']).raw (rawKind script) '<' = _
    rw [emitChars_midway]
    cases script <;> rfl
  | name letters =>
    have hread : (midway (.rawEndName (rawKind script) (String.ofList letters)) b last).step '<' =
        ((midway (.rawEndName (rawKind script) (String.ofList letters)) b last).emitChars
          ('<' :: '/' :: letters)).raw (rawKind script) '<' := by
      show rawEndName _ _ _ '<' = _
      have hblank : isBlank '<' = false := rfl
      have hslash : ('<' == '/') = false := rfl
      have hgt : ('<' == '>') = false := rfl
      have halpha : Char.isAlpha '<' = false := rfl
      simp only [rawEndName, hblank, hslash, hgt, halpha, Bool.and_false, Bool.false_eq_true,
        if_false, String.toList_ofList]
    rw [hread, emitChars_midway]
    cases script <;> rfl
  | bang hscript =>
    subst hscript
    rfl
  | dash hscript =>
    subst hscript
    rfl

theorem isBlank_of_isAlpha {c : Char} (h : c.isAlpha) : isBlank c = false := by
  have hne (d : Char) (hd : d.isAlpha = false) : (c == d) = false := by
    rw [beq_eq_false_iff_ne]
    rintro rfl
    rw [h] at hd
    cases hd
  rw [isBlank, hne ' ' rfl, hne '\n' rfl, hne '\t' rfl, hne '\r' rfl, hne '\x0c' rfl]
  rfl

/-- The letters of an end tag in raw text are collected, whether or not they are those of the
element. -/
theorem run_rawEndName {kind : RawState} {letters : List Char}
    (hletters : ∀ c ∈ letters, c.isAlpha) (before : String) :
    (midway (.rawEndName kind before) b last).run letters =
      midway (.rawEndName kind (before ++ String.ofList letters)) b last := by
  induction letters generalizing before with
  | nil =>
    rw [String.ofList_nil, String.append_empty]
    rfl
  | cons d rest ih =>
    obtain ⟨hd, hrest⟩ := List.forall_mem_cons.1 hletters
    have hblank := isBlank_of_isAlpha hd
    have hslash : (d == '/') = false := beq_eq_false_iff_ne.2 fun h => absurd (h ▸ hd) (by decide)
    have hgt : (d == '>') = false := beq_eq_false_iff_ne.2 fun h => absurd (h ▸ hd) (by decide)
    have hstep : (midway (.rawEndName kind before) b last).step d =
        midway (.rawEndName kind (before.push d)) b last := by
      show rawEndName _ _ _ d = _
      simp only [rawEndName, hblank, hslash, hgt, hd, Bool.and_false, Bool.false_eq_true,
        if_false, if_true]
      rfl
    have hpush : before.push d ++ String.ofList rest = before ++ String.ofList (d :: rest) := by
      simp [String.ext_iff]
    rw [run_cons, hstep, ih hrest, hpush]

/-- The end tag of an element whose content is not markup. -/
theorem run_rawEnd {kind : RawState} (hkind : kind ≠ .doubleEscaped)
    (hname : last ≠ "" ∧ ∀ c ∈ last.toList, c.isAlpha ∧ c.toLower = c) :
    (midway (.rawLess kind) b last).run ("/" ++ last ++ ">").toList =
      (midway .data b last).emitTag { isEnd := true, name := last } := by
  have hopen : (midway (.rawLess kind) b last).step '/' = midway (.rawEndOpen kind) b last := by
    cases kind with
    | doubleEscaped => exact absurd rfl hkind
    | _ => rfl
  obtain ⟨c, rest, hlist⟩ : ∃ c rest, last.toList = c :: rest :=
    List.exists_cons_of_ne_nil fun h => hname.1 (String.toList_eq_nil_iff.1 h)
  have hletters := hname.2
  rw [hlist] at hletters
  obtain ⟨⟨halpha, -⟩, hrest⟩ := List.forall_mem_cons.1 hletters
  have hfirst : (midway (.rawEndOpen kind) b last).step c =
      midway (.rawEndName kind (String.singleton c)) b last := if_pos halpha
  have hmore := @run_rawEndName b last kind rest (fun d hd => (hrest d hd).1) (String.singleton c)
  have hself : String.singleton c ++ String.ofList rest = last := by
    rw [← String.toList_inj, hlist]
    simp
  have hlower : last.toLower = last := by
    rw [← String.toList_inj, String.toLower, String.toList_map]
    exact (List.map_congr_left fun d hd => (hname.2 d hd).2).trans (List.map_id _)
  have hlast : (midway (.rawEndName kind last) b last).step '>' =
      (midway .data b last).emitTag { isEnd := true, name := last } := by
    have hfits : (last == (midway (.rawEndName kind last) b last).lastStart) = true :=
      beq_self_eq_true last
    have hblank : isBlank '>' = false := rfl
    show rawEndName _ _ _ '>' = _
    simp only [rawEndName, hlower, hfits, hblank]
    rfl
  have hall : (midway (.rawEndOpen kind) b last).run last.toList =
      midway (.rawEndName kind last) b last := by
    rw [hlist, run_cons, hfirst, hmore, hself]
  have htext : ("/" ++ last ++ ">").toList = '/' :: (last.toList ++ ['>']) := by simp
  rw [htext, run_cons, hopen, run_append, hall, run_cons, hlast]
  rfl

/-- Raw text is read as its characters, up to the end tag of its element. -/
theorem run_rawText {cs : List Char} (hnul : ∀ c ∈ cs, c ≠ '\x00')
    (hraw : isRawText last script cs)
    (hname : last ≠ "" ∧ ∀ c ∈ last.toList, c.isAlpha ∧ c.toLower = c) :
    (midway (.raw (rawKind script)) b last).run (cs ++ ("</" ++ last ++ ">").toList) =
      (midway .data (b.acceptChars cs) last).emitTag { isEnd := true, name := last } := by
  have hkind : rawKind script ≠ .doubleEscaped := by cases script <;> nofun
  have htext : ("</" ++ last ++ ">").toList = '<' :: ("/" ++ last ++ ">").toList := by simp
  obtain ⟨state, emitted, held, seen, hrun, hpart, hall⟩ :=
    @RawPart.run _ b last script [] [] .text cs hnul hraw
  rw [List.nil_append] at hall
  rw [htext, run_append, hrun, run_cons, hpart.step_less, run_rawEnd hkind hname,
    ← acceptChars_append, hall]

/-- The same for raw text with references. -/
theorem run_escapableText {cs : List Char} (hnul : ∀ c ∈ cs, c ≠ '\x00')
    (hname : last ≠ "" ∧ ∀ c ∈ last.toList, c.isAlpha ∧ c.toLower = c) :
    (midway (.raw .escapable) b last).run
        (cs.flatMap (escapeChar .content) ++ ("</" ++ last ++ ">").toList) =
      (midway .data (b.acceptChars cs) last).emitTag { isEnd := true, name := last } := by
  have htext : ("</" ++ last ++ ">").toList = '<' :: ("/" ++ last ++ ">").toList := by simp
  have hless : (midway (.raw .escapable) (b.acceptChars cs) last).step '<' =
      midway (.rawLess .escapable) (b.acceptChars cs) last := rfl
  have hrun := @run_escape_text b last true cs hnul '<' ("/" ++ last ++ ">").toList
  rw [htext]
  exact hrun.trans (by rw [run_cons]; exact (congrArg (run · _) hless).trans (run_rawEnd nofun hname))

end RawTexts

end Reader

end StaticSite.Html
