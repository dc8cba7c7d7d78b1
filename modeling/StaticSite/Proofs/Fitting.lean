/-
  Tags in the places where they fit.

  One lemma for each thing a tag can do where it stands: a start tag opens an element that
  holds nodes (`Builder.Inside.start_nodes`), nothing (`start_nothing`) or raw text
  (`start_raw`), and the end tag of the current element leads back (`end_nodes`).  Each
  says which rule of the mode deals with the tag and where the builder stands after it.
-/

import StaticSite.Proofs.Opening

namespace StaticSite.Html

/-- A builder that stands in a new element for a tag, below those of a path. -/
def Builder.Enters (next : Builder) (a : Arena) (tag : Tag) (path : List (Nat × Tag)) : Prop :=
  ∃ inner, modeOf? (tag :: path.map (·.2)) = some inner ∧
    next.Inside inner (newlineDroppingNames.contains tag.name) (a.opened (parentOf path) tag)
      ((a.next, tag) :: path)

/-- A builder that asks for the raw text of a new element for a tag, to go on in a mode. -/
def Builder.Asks (next : Builder) (kind : RawText) (m : Mode) (a : Arena) (tag : Tag)
    (path : List (Nat × Tag)) : Prop :=
  { next with rawText? := none }.Inside .text (newlineDroppingNames.contains tag.name)
      (a.opened (parentOf path) tag) ((a.next, tag) :: path) ∧
    next.rawText? = some kind ∧ next.returnMode = m

namespace Builder.Inside

variable {b : Builder} {m : Mode} {s : Bool} {a : Arena} {e : Nat × Tag} {tag : Tag}
  {path : List (Nat × Tag)}

/-! ## Parts of a table -/

theorem entries_of_part {part : Part} (h : partOf? e.2.name = some part) :
    entries e = (if part.marks then [.marker] else []) ∧ (e.2.name == "form") = false ∧
      (e.2.name == "template") = false := by
  have hall : ∀ n ∈ partNames, listedNames.contains n = false ∧
      markerNames.contains n = (partOf? n).any Part.marks ∧ (n == "form") = false ∧
      (n == "template") = false := by
    decide
  obtain ⟨hlisted, hmarker, hform, htemplate⟩ := hall e.2.name (mem_partNames h)
  refine ⟨?_, hform, htemplate⟩
  rw [entries, hlisted, hmarker, h, Option.any_some]
  rfl

theorem popTo_eq (h : b.Inside m s a (e :: path)) {names : List String}
    (hname : names.contains e.2.name) : b.popTo names = b := by
  rw [popTo, h.stack_eq, List.map_cons, List.dropWhile_cons_of_neg]
  · rw [← List.map_cons, ← h.stack_eq]
  · rw [show (openOf e).isHtmlIn names = true from hname]
    nofun

theorem rules_startPart {part : Part} (hname : tag.name ∈ part.names) :
    b.rules part.outerMode (.startTag { toTag := tag }) =
      .done { (b.popTo part.bounds).insertHtml tag with
        formatting := (if part.marks then [.marker] else []) ++ b.formatting
        mode := part.innerMode } := by
  obtain ⟨name, attrs⟩ := tag
  cases part <;>
    simp only [Part.names, rowGroupNames, cellNames, List.mem_cons, List.not_mem_nil,
      or_false] at hname
  case caption => subst hname; rfl
  case columns => subst hname; rfl
  case group => obtain rfl | rfl | rfl := hname <;> rfl
  case row => subst hname; rfl
  case cell => obtain rfl | rfl := hname <;> rfl

/-- The start tag of a part in an element that holds such parts. -/
theorem start_part (h : b.Inside m false a (e :: path)) {part : Part}
    (hpart : partOf? tag.name = some part) (hcurrent : part.holders.contains e.2.name) :
    ∃ next, b.rules part.outerMode (.startTag { toTag := tag }) = .done next ∧
      next.Inside part.innerMode false (a.opened e.1 tag) ((a.next, tag) :: e :: path) := by
  obtain ⟨hentries, hform, htemplate⟩ := entries_of_part (e := (a.next, tag)) hpart
  have hbounds : part.bounds.contains e.2.name := by
    have hall : ∀ part ∈ parts, ∀ n ∈ part.holders, part.bounds.contains n := by decide
    exact hall part (List.mem_of_find?_eq_some hpart) _ (List.contains_iff_mem.1 hcurrent)
  have hentered := (h.enter htemplate).inMode part.innerMode
  rw [hentries, hform] at hentered
  refine ⟨_, rules_startPart (mem_names hpart), ?_⟩
  rw [h.popTo_eq hbounds]
  exact hentered

theorem inTableScope_current (h : b.Inside m s a (e :: path)) {names : List String}
    (hname : names.contains e.2.name) : b.inTableScope names = true := by
  have hwanted : (openOf e).isHtmlIn names := hname
  exact h.inScope_current hwanted

/-- The end tag of a part that is current. -/
theorem end_part (h : b.Inside m false a (e :: path)) {part : Part}
    (hpart : partOf? e.2.name = some part) :
    ∃ next, b.rules part.innerMode (.endTag e.2.name) = .done next ∧
      next.Inside part.outerMode false a path := by
  obtain ⟨hentries, hform, -⟩ := entries_of_part hpart
  have hname := mem_names hpart
  have himplied : impliedEndNames.contains e.2.name = false := by
    have hall : ∀ n ∈ partNames, impliedEndNames.contains n = false := by decide
    exact hall _ (mem_partNames hpart)
  have hscope : b.inTableScope [e.2.name] = true :=
    h.inTableScope_current (List.contains_iff_mem.2 List.mem_cons_self)
  have hpopped (hmarks : part.marks = false) : b.pop.Inside m false a path :=
    h.pop (by rw [hentries, hmarks]; rfl) hform
  have hcleared (hmarks : part.marks = true) :
      ((b.closeImplied impliedEndNames).close e.2.name).clearFormattingToMarker.Inside
        m false a path := by
    rw [h.closeImplied_eq himplied]
    exact h.closeMarked (by rw [hentries, hmarks]; rfl) hform
  have hleft (holders : List String) (hmarks : part.marks = false)
      (hholds : ∀ n ∈ part.names, holders.contains n) (mode : Mode) :
      (b.leavePart holders mode).Inside mode false a path := by
    rw [leavePart, h.popTo_eq (hholds _ hname)]
    exact (hpopped hmarks).inMode mode
  cases part with
  | caption =>
    have hcaption : e.2.name = "caption" := List.mem_singleton.1 hname
    rw [hcaption] at hscope hcleared ⊢
    refine ⟨_, ?_, (hcleared rfl).inMode .inTable⟩
    show ((leaveCaption? b).map Step.done).getD _ = _
    rw [leaveCaption?, hscope]
    rfl
  | columns =>
    have hcolumns : e.2.name = "colgroup" := List.mem_singleton.1 hname
    have hcurrent : b.currentIs "colgroup" = true := by
      rw [h.currentIs_eq, hcolumns]
      rfl
    rw [hcolumns]
    refine ⟨_, ?_, (hpopped rfl).inMode .inTable⟩
    show (if b.currentIs "colgroup" then Step.done _ else _) = _
    rw [hcurrent]
    rfl
  | group =>
    refine ⟨_, ?_, hleft rowHolderNames rfl (by decide) .inTable⟩
    have hgroup : rowGroupNames.contains e.2.name = true := List.contains_iff_mem.2 hname
    show (if rowGroupNames.contains e.2.name then
      if b.inTableScope [e.2.name] then Step.done _ else _ else _) = _
    rw [hgroup, hscope]
    rfl
  | row =>
    have hrow : e.2.name = "tr" := List.mem_singleton.1 hname
    rw [hrow] at hscope ⊢
    refine ⟨_, ?_, hleft cellHolderNames rfl (by decide) .inTableBody⟩
    show (if b.inTableScope ["tr"] then Step.done _ else _) = _
    rw [hscope]
    rfl
  | cell =>
    refine ⟨_, ?_, (hcleared rfl).inMode .inRow⟩
    have hcell : cellNames.contains e.2.name = true := List.contains_iff_mem.2 hname
    show (if cellNames.contains e.2.name then
      if b.inTableScope [e.2.name] then Step.done _ else _ else _) = _
    rw [hcell, hscope]
    rfl

/-! ## Modes that are chosen anew -/

/-- The mode that is chosen anew is the one for the open elements. -/
theorem modeFor_eq (b : Builder) (hm : m.holdsBody) {path : List (Nat × Tag)}
    (hmode : modeOf? (path.map (·.2)) = some m) : b.modeFor (path.map openOf) = m := by
  induction path with
  | nil => cases hmode
  | cons e rest ih =>
    have hspace : ((openOf e).space != .html) = false := rfl
    have hname : (openOf e).name = e.2.name := rfl
    rw [List.map_cons, modeFor, hspace, hname]
    obtain ⟨-, rfl⟩ | ⟨hrest, hown⟩ | ⟨outer, -, rfl⟩ | ⟨hown, hselect, hsame, -⟩ := modeOf?_cases hmode
    · cases hm
    · have hall : ∀ entry ∈ ownModes, entry.2.holdsBody →
          entry = ("caption", .inCaption) ∨ entry = ("td", .inCell) ∨ entry = ("th", .inCell) ∨
            entry = ("body", .inBody) := by
        decide
      have hinner : (rest.map openOf).isEmpty = false := by
        rw [List.isEmpty_eq_false_iff]
        exact fun hnil => hrest (by rw [List.map_eq_nil_iff.1 hnil]; rfl)
      rw [hinner]
      obtain hentry | hentry | hentry | hentry := hall _ (mem_ownModes hown) hm <;>
        obtain ⟨hname, rfl⟩ := Prod.mk.inj hentry <;> rw [hname] <;> rfl
    · cases outer <;> cases hm
    · have hother := List.lookup_eq_none_iff.1 hown
      simp only [ownModes, parts, Part.names, rowGroupNames, cellNames, List.flatMap_cons,
        List.flatMap_nil, List.map_cons, List.map_nil, List.append_nil, List.cons_append,
        List.nil_append, List.forall_mem_cons, bne_iff_ne] at hother
      rw [← ih hsame]
      simp [rowGroupNames, cellNames, hselect, hother]

/-- The end of a table or a `select` element leads back to the mode around it. -/
theorem close_reset (h : b.Inside m s a (e :: path)) (hplain : (startRule e.2.name).isPlain)
    {outer : Mode} (houter : modeOf? (path.map (·.2)) = some outer) (hm : outer.holdsBody) :
    (b.close e.2.name).resetMode.Inside outer s a path := by
  have hclosed : b.close e.2.name = b.pop := h.popThrough_eq (isHtml_current e)
  have hpopped := h.pop (entries_of_isPlain hplain) (not_form_of_isPlain hplain)
  have hchosen : b.pop.modeFor b.pop.stack = outer := by
    rw [hpopped.stack_eq]
    exact modeFor_eq _ hm houter
  rw [hclosed, resetMode, hchosen]
  exact hpopped.inMode outer

/-! ## Content of the body -/

theorem rules_startTag (hm : m.holdsBody) {st : StartTag} (hstray : startRule st.name ≠ .stray) :
    b.rules m (.startTag st) = b.bodyStart st := by
  have hnone (names : List String) (hall : ∀ n ∈ names, startRule n = .stray) :
      names.contains st.name = false := by
    rw [List.contains_eq_mem, decide_eq_false_iff_not]
    exact fun hmem => hstray (hall _ hmem)
  cases m with
  | inBody => rfl
  | inCell | inCaption => exact if_neg (by rw [hnone _ (by decide)]; nofun)
  | _ => cases hm

theorem rules_endTag (hm : m.holdsBody) {name : String} (hstray : startRule name ≠ .stray)
    (htable : startRule name ≠ .table) : b.rules m (.endTag name) = b.bodyEnd name := by
  have hnone (names : List String)
      (hall : ∀ n ∈ names, startRule n = .stray ∨ startRule n = .table) :
      names.contains name = false := by
    rw [List.contains_eq_mem, decide_eq_false_iff_not]
    exact fun hmem => (hall _ hmem).elim hstray htable
  have hne (other : String) (hother : startRule other = .stray ∨ startRule other = .table) :
      (name == other) = false := by
    rw [beq_eq_false_iff_ne]
    rintro rfl
    exact hother.elim hstray htable
  cases m with
  | inBody => rfl
  | inCell =>
    show (if cellNames.contains name then _ else if _ then _ else if _ then _ else _) = _
    rw [hnone _ (by decide), hnone _ (by decide), hnone _ (by decide)]
    rfl
  | inCaption =>
    show (if name == "caption" then _ else if name == "table" then _ else if _ then _ else _) = _
    rw [hne _ (by decide), hne _ (by decide), hnone _ (by decide)]
    rfl
  | _ => cases hm

/-- A form that fits stands in no other form. -/
theorem formOf_of_fits (hfits : tag.fits (path.map (·.2))) (hname : tag.name = "form") :
    formOf path = none := by
  have hrule : startRule tag.name = .form := by
    rw [hname]
    rfl
  rw [Tag.fits, hrule, Bool.and_eq_true, List.all_map, List.all_eq_true] at hfits
  rw [formOf, Option.map_eq_none_iff, List.find?_eq_none]
  intro e he heq
  exact absurd heq (by simpa using hfits.2 e he)

/-! ## Content of `select` elements -/

theorem rules_startOption (hm : m.holdsOptions) {st : StartTag}
    (hname : selectEnderNames.contains st.name = false) :
    b.rules m (.startTag st) = b.selectStart st := by
  cases m with
  | inSelect => rfl
  | inSelectInTable => exact if_neg (by rw [hname]; nofun)
  | _ => cases hm

theorem rules_endOption (hm : m.holdsOptions) {name : String}
    (hname : selectEnderNames.contains name = false) :
    b.rules m (.endTag name) = b.selectEnd name := by
  cases m with
  | inSelect => rfl
  | inSelectInTable => exact if_neg (by rw [hname]; nofun)
  | _ => cases hm

theorem closeOptions_eq (h : b.Inside m s a (e :: path))
    (hcurrent : currentAmong ["option", "optgroup"] ((e :: path).map (·.2)) = false) :
    b.closeOptions = b := by
  have hnames : ["option", "optgroup"].contains e.2.name = false := hcurrent
  simp only [List.contains_cons, List.contains_nil, Bool.or_false, Bool.or_eq_false_iff] at hnames
  simp only [closeOptions, h.currentIs_eq, hnames.1, hnames.2, Bool.false_eq_true, if_false]

/-- The start tag of an option, or of a group of them. -/
theorem start_option (h : b.Inside m false a (e :: path)) (hm : m.holdsOptions)
    (hfill : tag.optionFilling? ((e :: path).map (·.2)) = some .nodes) :
    b.rules m (.startTag { toTag := tag }) = .done (b.insertHtml tag) ∧
      (tag.name = "option" ∨ tag.name = "optgroup") := by
  obtain ⟨name, attrs⟩ := tag
  obtain ⟨-, ⟨⟩⟩ | ⟨rfl, hcurrent, -⟩ | ⟨rfl, hcurrent, -⟩ | ⟨-, -, ⟨⟩⟩ := optionFilling_cases hfill
  · have hother : b.currentIs "option" = false := by
      rw [h.currentIs_eq]
      exact (Bool.or_false _).symm.trans hcurrent
    refine ⟨?_, .inl rfl⟩
    rw [rules_startOption hm rfl]
    show Step.done ((if b.currentIs "option" then b.pop else b).insertHtml _) = _
    rw [hother]
    rfl
  · refine ⟨?_, .inr rfl⟩
    rw [rules_startOption hm rfl]
    show Step.done (b.closeOptions.insertHtml _) = _
    rw [h.closeOptions_eq hcurrent]

/-! ## Start tags of elements that hold nodes -/

theorem filling_nodes {r : StartRule} (h : r.filling = .nodes) :
    r.rawText? = none ∧ r.isVoid = false := by
  cases r <;> first | exact ⟨rfl, rfl⟩ | cases h

theorem start_inBody (h : b.Inside m false a (e :: path)) (hm : m.holdsBody)
    (hmode : modeOf? ((e :: path).map (·.2)) = some m) (hfits : tag.fits ((e :: path).map (·.2)))
    (hnodes : (startRule tag.name).filling = .nodes) :
    ∃ next, b.rules m (.startTag { toTag := tag }) = .done next ∧ next.Enters a tag (e :: path) := by
  have hstray := ne_stray_of_fits hfits
  obtain ⟨hraw, hvoid⟩ := filling_nodes hnodes
  have hopened := h.apply_opens hm hfits rfl hvoid hraw
  rw [← (describes_startRule hstray).skips] at hopened
  exact ⟨_, (rules_startTag hm hstray).trans (bodyStart_eq _ _ hstray),
    _, modeOf?_body hmode hm hstray, hopened⟩

theorem start_inSelect (h : b.Inside m false a (e :: path)) (hm : m.holdsOptions)
    (hmode : modeOf? ((e :: path).map (·.2)) = some m)
    (hfill : tag.optionFilling? ((e :: path).map (·.2)) = some .nodes) :
    ∃ next, b.rules m (.startTag { toTag := tag }) = .done next ∧ next.Enters a tag (e :: path) := by
  obtain ⟨hrule, hname⟩ := h.start_option hm hfill
  have hplain : (startRule tag.name).isPlain ∧ newlineDroppingNames.contains tag.name = false := by
    obtain hname | hname := hname <;> rw [hname] <;> decide
  have hopened := h.insertHtml hplain.1
  rw [← hplain.2] at hopened
  exact ⟨_, hrule, _, modeOf?_option hmode hm hname, hopened⟩

theorem start_inTable (h : b.Inside m false a (e :: path))
    (hmode : modeOf? ((e :: path).map (·.2)) = some m)
    (hfill : tag.partFilling? ((e :: path).map (·.2)) m = some .nodes) :
    ∃ next, b.rules m (.startTag { toTag := tag }) = .done next ∧ next.Enters a tag (e :: path) := by
  obtain ⟨-, ⟨⟩⟩ | ⟨-, ⟨⟩⟩ | ⟨-, -, ⟨⟩⟩ | ⟨part, hpart, rfl, hcurrent, -⟩ := partFilling_cases hfill
  obtain ⟨next, hrule, hinside⟩ := h.start_part hpart hcurrent
  have hdrops : newlineDroppingNames.contains tag.name = false := by
    have hall : ∀ n ∈ partNames, newlineDroppingNames.contains n = false := by decide
    exact hall _ (mem_partNames hpart)
  rw [← hdrops] at hinside
  exact ⟨next, hrule, _, modeOf?_part hmode hpart, hinside⟩

theorem fillingIn_of_filling {above : List Tag} {f : Filling} (hmode : modeOf? above = some m)
    (hfill : tag.filling? above = some f) : tag.fillingIn? above m = some f := by
  rw [Tag.filling?, hmode] at hfill
  exact hfill

/-- A start tag that fits opens its element, to hold nodes. -/
theorem start_nodes (h : b.Inside m false a (e :: path))
    (hmode : modeOf? ((e :: path).map (·.2)) = some m)
    (hfill : tag.filling? ((e :: path).map (·.2)) = some .nodes) :
    ∃ next, b.rules m (.startTag { toTag := tag }) = .done next ∧ next.Enters a tag (e :: path) := by
  have hin := fillingIn_of_filling hmode hfill
  cases m with
  | inBody | inCell | inCaption =>
    obtain ⟨hfits, hnodes⟩ := Option.ite_none_right_eq_some.1 hin
    exact h.start_inBody rfl hmode hfits (Option.some.inj hnodes)
  | inHead =>
    obtain ⟨hname, hnodes⟩ := Option.ite_none_right_eq_some.1 hin
    exact absurd (Option.some.inj hnodes)
      (fits_of_mem_headNames (List.contains_iff_mem.1 hname) []).2
  | inColumnGroup => cases (Option.ite_none_right_eq_some.1 hin).2
  | inSelect | inSelectInTable => exact h.start_inSelect rfl hmode hin
  | inTable | inTableBody | inRow => exact h.start_inTable hmode hin
  | _ => cases hin

/-! ## Start tags of other elements -/

theorem rules_inHead {st : StartTag} (hname : st.name ∈ headNames) :
    b.rules .inHead (.startTag st) = .done ((startRule st.name).apply b st.toTag) := by
  obtain ⟨⟨name, attrs⟩, selfClosing⟩ := st
  simp only [headNames, headVoidNames, List.cons_append, List.nil_append, List.mem_cons,
    List.not_mem_nil, or_false] at hname
  obtain rfl | rfl | rfl | rfl | rfl | rfl | rfl | rfl | rfl | rfl := hname <;> rfl

theorem filling_nothing {r : StartRule} (h : r.filling = .nothing) : r.isVoid := by
  cases r <;> first | rfl | cases h

theorem filling_raw {r : StartRule} {kind : RawText} (h : r.filling = .raw kind) :
    r.rawText? = some kind := by
  cases r <;> cases h <;> rfl

/-- A line between the options of a `select` element. -/
theorem start_line (h : b.Inside m false a (e :: path)) (hm : m.holdsOptions)
    (hfill : tag.optionFilling? ((e :: path).map (·.2)) = some .nothing) :
    b.rules m (.startTag { toTag := tag }) = .done (b.insertVoid tag) ∧ tag.name = "hr" := by
  obtain ⟨name, attrs⟩ := tag
  obtain ⟨-, ⟨⟩⟩ | ⟨-, -, ⟨⟩⟩ | ⟨-, -, ⟨⟩⟩ | ⟨rfl, hcurrent, -⟩ := optionFilling_cases hfill
  refine ⟨?_, rfl⟩
  rw [rules_startOption hm rfl]
  show Step.done (b.closeOptions.insertVoid _) = _
  rw [h.closeOptions_eq hcurrent]

/-- A hidden input control between the parts of a table. -/
theorem start_hidden {above : List Tag} (hm : m.holdsParts)
    (hfill : tag.partFilling? above m = some .nothing) :
    b.rules m (.startTag { toTag := tag }) = .done (b.insertVoid tag) ∧ tag.name = "input" := by
  obtain ⟨name, attrs⟩ := tag
  obtain ⟨-, ⟨⟩⟩ | ⟨-, ⟨⟩⟩ | ⟨rfl, hhidden, -⟩ | ⟨-, -, -, -, ⟨⟩⟩ := partFilling_cases hfill
  have htable : b.tableStart { name := "input", attrs } = .done (b.insertVoid ⟨"input", attrs⟩) := by
    show (if isHidden ⟨"input", attrs⟩ then Step.done _ else _) = _
    rw [if_pos hhidden]
  refine ⟨?_, rfl⟩
  cases m <;> first | exact htable | cases hm

/-- A start tag that fits leaves an element behind that holds nothing. -/
theorem start_nothing (h : b.Inside m false a (e :: path))
    (hmode : modeOf? ((e :: path).map (·.2)) = some m)
    (hfill : tag.filling? ((e :: path).map (·.2)) = some .nothing) :
    ∃ next, b.rules m (.startTag { toTag := tag }) = .done next ∧
      next.Inside m false (a.opened e.1 tag) (e :: path) := by
  have hin := fillingIn_of_filling hmode hfill
  cases m with
  | inBody | inCell | inCaption =>
    obtain ⟨hfits, hnothing⟩ := Option.ite_none_right_eq_some.1 hin
    have hstray := ne_stray_of_fits hfits
    exact ⟨_, (rules_startTag rfl hstray).trans (bodyStart_eq _ _ hstray),
      h.apply_void hfits rfl (filling_nothing (Option.some.inj hnothing))⟩
  | inHead =>
    obtain ⟨hname, hnothing⟩ := Option.ite_none_right_eq_some.1 hin
    rw [List.contains_iff_mem] at hname
    exact ⟨_, rules_inHead hname, h.apply_void (fits_of_mem_headNames hname _).1 rfl
      (filling_nothing (Option.some.inj hnothing))⟩
  | inColumnGroup =>
    obtain ⟨hname, -⟩ := Option.ite_none_right_eq_some.1 hin
    obtain ⟨name, attrs⟩ := tag
    obtain rfl := beq_iff_eq.1 hname
    exact ⟨_, rfl, h.insertVoid rfl⟩
  | inSelect | inSelectInTable =>
    obtain ⟨hrule, hname⟩ := h.start_line rfl hin
    exact ⟨_, hrule, h.insertVoid (by rw [hname]; rfl)⟩
  | inTable | inTableBody | inRow =>
    obtain ⟨hrule, hname⟩ := start_hidden rfl hin
    exact ⟨_, hrule, h.insertVoid (by rw [hname]; rfl)⟩
  | _ => cases hin

/-- A script, or a style sheet, where it is handled as in the head. -/
theorem start_rawHead (h : b.Inside m false a (e :: path)) {kind : RawText}
    (hname : tag.name = "script" ∨ tag.name = "style") :
    (b.insertRaw tag kind).Asks kind m a tag (e :: path) := by
  have hplain : (startRule tag.name).isPlain ∧ newlineDroppingNames.contains tag.name = false := by
    obtain hname | hname := hname <;> rw [hname] <;> decide
  have hopened := h.insertRaw hplain.1 kind
  rw [← hplain.2] at hopened
  exact ⟨hopened, rfl, h.mode_eq⟩

/-- A start tag that fits opens its element and asks for raw text. -/
theorem start_raw (h : b.Inside m false a (e :: path))
    (hmode : modeOf? ((e :: path).map (·.2)) = some m) {kind : RawText}
    (hfill : tag.filling? ((e :: path).map (·.2)) = some (.raw kind)) :
    ∃ next, b.rules m (.startTag { toTag := tag }) = .done next ∧
      next.Asks kind m a tag (e :: path) := by
  have hin := fillingIn_of_filling hmode hfill
  have happly (hfits : tag.fits ((e :: path).map (·.2)))
      (hraw : (startRule tag.name).filling = .raw kind) :
      ((startRule tag.name).apply b tag).Asks kind m a tag (e :: path) := by
    have hasks := h.apply_raw hfits rfl (filling_raw hraw)
    rw [← (describes_startRule (ne_stray_of_fits hfits)).skips] at hasks
    exact hasks
  cases m with
  | inBody | inCell | inCaption =>
    obtain ⟨hfits, hraw⟩ := Option.ite_none_right_eq_some.1 hin
    have hstray := ne_stray_of_fits hfits
    exact ⟨_, (rules_startTag rfl hstray).trans (bodyStart_eq _ _ hstray),
      happly hfits (Option.some.inj hraw)⟩
  | inHead =>
    obtain ⟨hname, hraw⟩ := Option.ite_none_right_eq_some.1 hin
    rw [List.contains_iff_mem] at hname
    exact ⟨_, rules_inHead hname, happly (fits_of_mem_headNames hname _).1 (Option.some.inj hraw)⟩
  | inColumnGroup => cases (Option.ite_none_right_eq_some.1 hin).2
  | inSelect | inSelectInTable =>
    obtain ⟨name, attrs⟩ := tag
    obtain ⟨rfl, ⟨⟩⟩ | ⟨-, -, ⟨⟩⟩ | ⟨-, -, ⟨⟩⟩ | ⟨-, -, ⟨⟩⟩ := optionFilling_cases hin
    exact ⟨_, rules_startOption rfl rfl, h.start_rawHead (.inl rfl)⟩
  | inTable | inTableBody | inRow =>
    obtain ⟨name, attrs⟩ := tag
    obtain ⟨rfl, ⟨⟩⟩ | ⟨rfl, ⟨⟩⟩ | ⟨-, -, ⟨⟩⟩ | ⟨-, -, -, -, ⟨⟩⟩ := partFilling_cases hin
    · exact ⟨_, rfl, h.start_rawHead (.inl rfl)⟩
    · exact ⟨_, rfl, h.start_rawHead (.inr rfl)⟩
  | _ => cases hin

/-! ## End tags -/

/-- The end tag of an option, or of a group of them. -/
theorem end_option (h : b.Inside m false a (e :: path)) (hm : m.holdsOptions)
    (hname : e.2.name = "option" ∨ e.2.name = "optgroup") :
    b.rules m (.endTag e.2.name) = .done b.pop ∧ b.pop.Inside m false a path := by
  have hplain : (startRule e.2.name).isPlain := by
    obtain hname | hname := hname <;> rw [hname] <;> decide
  have hpopped := h.pop (entries_of_isPlain hplain) (not_form_of_isPlain hplain)
  refine ⟨?_, hpopped⟩
  obtain hname | hname := hname <;> rw [hname, rules_endOption hm rfl]
  · have hcurrent : b.currentIs "option" = true := by
      rw [h.currentIs_eq, hname]
      rfl
    show Step.done (if b.currentIs "option" then b.pop else b) = _
    rw [hcurrent]
    rfl
  · have hcurrent : b.currentIs "option" = false ∧ b.currentIs "optgroup" = true := by
      rw [h.currentIs_eq, h.currentIs_eq, hname]
      decide
    simp only [selectEnd, hcurrent.1, hcurrent.2, Bool.false_and, Bool.false_eq_true, if_false,
      if_true]
    rfl

/-- The end tag of a table. -/
theorem end_table (h : b.Inside m false a (e :: path)) (hname : e.2.name = "table")
    {outer : Mode} (houter : modeOf? (path.map (·.2)) = some outer) (hm : outer.holdsBody) :
    ∃ next, b.rules .inTable (.endTag e.2.name) = .done next ∧ next.Inside outer false a path := by
  have hplain : (startRule e.2.name).isPlain := by
    rw [hname]
    rfl
  have hscope : b.inTableScope ["table"] = true :=
    h.inTableScope_current (by rw [hname]; rfl)
  have hclosed := h.close_reset hplain houter hm
  rw [hname] at hclosed ⊢
  refine ⟨_, ?_, hclosed⟩
  show (if b.inTableScope ["table"] then Step.done _ else _) = _
  rw [hscope]
  rfl

/-- The end tag of a `select` element. -/
theorem end_select (h : b.Inside m false a (e :: path)) (hname : e.2.name = "select")
    {outer : Mode} (houter : modeOf? (path.map (·.2)) = some outer) (hm : outer.holdsBody) :
    ∃ next, b.rules outer.forOptions (.endTag e.2.name) = .done next ∧
      next.Inside outer false a path := by
  have hplain : (startRule e.2.name).isPlain := by
    rw [hname]
    rfl
  have hwanted : (openOf e).isHtml "select" := by
    rw [← hname]
    exact isHtml_current e
  have hscope : b.inSelectScope "select" = true := h.inScope_current hwanted
  have hclosed := h.close_reset hplain houter hm
  rw [hname] at hclosed ⊢
  refine ⟨_, ?_, hclosed⟩
  rw [rules_endOption (holdsOptions_forOptions outer) rfl]
  show (if b.inSelectScope "select" then Step.done _ else _) = _
  rw [hscope]
  rfl

/-- The end tag of the current element of the body. -/
theorem end_inBody (h : b.Inside m false a (e :: path)) 
    (hmode : modeOf? ((e :: path).map (·.2)) = some m)
    {outer : Mode} (houter : modeOf? (path.map (·.2)) = some outer) (hm : outer.holdsBody)
    (hfits : e.2.fits (path.map (·.2))) (hnodes : (startRule e.2.name).filling = .nodes) :
    ∃ next, b.rules m (.endTag e.2.name) = .done next ∧ next.Inside outer false a path := by
  have hstray := ne_stray_of_fits hfits
  have hdescribes := describes_startRule hstray
  rw [List.map_cons, modeOf?_body houter hm hstray, Option.some_inj] at hmode
  by_cases htable : startRule e.2.name = .table
  · rw [htable] at hmode hdescribes
    subst hmode
    exact h.end_table (beq_iff_eq.1 hdescribes.table) houter hm
  by_cases hselect : startRule e.2.name = .select
  · rw [hselect] at hmode hdescribes
    subst hmode
    exact h.end_select (beq_iff_eq.1 hdescribes.select) houter hm
  have hsame : (startRule e.2.name).innerMode outer = outer := by
    cases hrule : startRule e.2.name <;>
      first | rfl | exact absurd hrule htable | exact absurd hrule hselect
  obtain rfl : outer = m := hsame.symm.trans hmode
  obtain ⟨next, hend, hinside⟩ := h.bodyEnd_closes hstray (filling_nodes hnodes).2
    (formOf_of_fits hfits)
  exact ⟨next, (rules_endTag hm hstray htable).trans hend, hinside⟩

/-- The end tag of the current element of a `select` element. -/
theorem end_inSelect (h : b.Inside m false a (e :: path))
    (hmode : modeOf? ((e :: path).map (·.2)) = some m)
    {outer : Mode} (houter : modeOf? (path.map (·.2)) = some outer) (hm : outer.holdsOptions)
    (hfill : e.2.optionFilling? (path.map (·.2)) = some .nodes) :
    ∃ next, b.rules m (.endTag e.2.name) = .done next ∧ next.Inside outer false a path := by
  have hname : e.2.name = "option" ∨ e.2.name = "optgroup" := by
    obtain ⟨-, ⟨⟩⟩ | ⟨hname, -, -⟩ | ⟨hname, -, -⟩ | ⟨-, -, ⟨⟩⟩ := optionFilling_cases hfill
    · exact .inl hname
    · exact .inr hname
  rw [List.map_cons, modeOf?_option houter hm hname, Option.some_inj] at hmode
  subst hmode
  exact ⟨_, h.end_option hm hname⟩

/-- The end tag of the current element leads back to where its start tag was. -/
theorem end_nodes (h : b.Inside m false a (e :: path))
    (hmode : modeOf? ((e :: path).map (·.2)) = some m)
    (hfill : e.2.filling? (path.map (·.2)) = some .nodes) :
    ∃ next outer, b.rules m (.endTag e.2.name) = .done next ∧
      modeOf? (path.map (·.2)) = some outer ∧ next.Inside outer false a path := by
  obtain ⟨outer, houter, hin⟩ := Option.bind_eq_some_iff.1 hfill
  suffices hend : ∃ next, b.rules m (.endTag e.2.name) = .done next ∧
      next.Inside outer false a path by
    obtain ⟨next, hrule, hinside⟩ := hend
    exact ⟨next, outer, hrule, houter, hinside⟩
  cases outer with
  | inBody | inCell | inCaption =>
    obtain ⟨hfits, hnodes⟩ := Option.ite_none_right_eq_some.1 hin
    exact h.end_inBody hmode houter rfl hfits (Option.some.inj hnodes)
  | inHead =>
    obtain ⟨hname, hnodes⟩ := Option.ite_none_right_eq_some.1 hin
    exact absurd (Option.some.inj hnodes)
      (fits_of_mem_headNames (List.contains_iff_mem.1 hname) []).2
  | inColumnGroup => cases (Option.ite_none_right_eq_some.1 hin).2
  | inSelect | inSelectInTable => exact h.end_inSelect hmode houter rfl hin
  | inTable | inTableBody | inRow =>
    obtain ⟨-, ⟨⟩⟩ | ⟨-, ⟨⟩⟩ | ⟨-, -, ⟨⟩⟩ | ⟨part, hpart, hpartMode, -, -⟩ := partFilling_cases hin
    rw [List.map_cons, modeOf?_part houter hpart, Option.some_inj] at hmode
    rw [← hmode, ← hpartMode]
    exact h.end_part hpart
  | _ => cases hin

end Builder.Inside

end StaticSite.Html
