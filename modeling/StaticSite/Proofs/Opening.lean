/-
  Elements that open and close where they stand.

  A builder that stands on a path of open elements has these on its stack, those among
  them that are formatting in its list, and nothing that is pending (`Builder.Inside`).  By
  the rules for the body a start tag that fits puts its element below the current one, and
  the end tag of the current element leads back to where its start tag was.
-/

import StaticSite.Proofs.Graft
import StaticSite.Proofs.LoneTag
import StaticSite.Proofs.Places

namespace StaticSite.Html

/-! ## Paths of open elements -/

/-- What an open element adds to the list of formatting elements. -/
def entries (e : Nat × Tag) : List Formatting :=
  if markerNames.contains e.2.name then [.marker]
  else if listedNames.contains e.2.name then [.element (openOf e) e.2]
  else []

theorem not_template {name : String} (h : startRule name ≠ .stray) : (name == "template") = false := by
  rw [beq_eq_false_iff_ne]
  rintro rfl
  exact h rfl

theorem StartRule.ne_stray_of_isPlain {r : StartRule} (h : r.isPlain) : r ≠ .stray := by
  rintro rfl
  cases h

theorem entries_of_rule {e : Nat × Tag} {r : StartRule} (hrule : startRule e.2.name = r)
    (hstray : r ≠ .stray) : entries e =
      if r == .shield then [.marker] else if r.isListed then [.element (openOf e) e.2] else [] := by
  subst hrule
  have hdescribes := describes_startRule hstray
  rw [entries, hdescribes.marker, hdescribes.listed]

theorem entries_of_isPlain {e : Nat × Tag} (h : (startRule e.2.name).isPlain) : entries e = [] := by
  rw [entries_of_rule rfl (StartRule.ne_stray_of_isPlain h)]
  cases hrule : startRule e.2.name <;> rw [hrule] at h <;> first | rfl | cases h

theorem not_form_of_isPlain {name : String} (h : (startRule name).isPlain) :
    (name == "form") = false := by
  rw [(describes_startRule (StartRule.ne_stray_of_isPlain h)).form, beq_eq_false_iff_ne]
  intro hrule
  rw [hrule] at h
  cases h

/-- The innermost form of a path. -/
def formOf (path : List (Nat × Tag)) : Option NodeId :=
  (path.find? fun e => e.2.name == "form").map (·.1)

/-- The node that comes next goes below: the current element or else the document. -/
def parentOf : List (Nat × Tag) → Nat
  | [] => Arena.root
  | e :: _ => e.1

/-- A builder inside the elements of a path, the innermost of them first. -/
structure Builder.Inside (b : Builder) (mode : Mode) (skips : Bool) (a : Arena)
    (path : List (Nat × Tag)) : Prop where
  mode_eq : b.mode = mode
  skips_eq : b.skipNewline = skips
  arena_eq : b.arena = a
  stack_eq : b.stack = path.map openOf
  formatting_eq : b.formatting = path.flatMap entries
  form_eq : b.form? = formOf path
  fostering_eq : b.fostering = false
  rawText_eq : b.rawText? = none
  noTemplate : ∀ e ∈ path, (e.2.name == "template") = false
  rooted : (Arena.root : Nat) < a.next
  /-- Elements that were opened later have larger identities. -/
  ids : (a.next :: path.map (·.1)).Pairwise (· > ·)

namespace Builder.Inside

variable {b : Builder} {m : Mode} {s : Bool} {a : Arena} {e : Nat × Tag} {tag : Tag}
  {path : List (Nat × Tag)}

theorem lt (h : b.Inside m s a path) : parentOf path < a.next := by
  cases path with
  | nil => exact h.rooted
  | cons e rest => exact (List.pairwise_cons.1 h.ids).1 e.1 List.mem_cons_self

theorem current_eq (h : b.Inside m s a (e :: path)) : b.current? = some (openOf e) := by
  rw [current?, h.stack_eq]
  rfl

theorem spot_eq (h : b.Inside m s a path) : b.spot = .inside (parentOf path) := by
  rw [spot, current?, h.stack_eq]
  cases path with
  | nil => rfl
  | cons e rest =>
    show b.spotFor (openOf e) = _
    rw [spotFor, h.fostering_eq]
    rfl

/-- A line feed that comes later is not dropped. -/
theorem noSkip (h : b.Inside m s a path) : { b with skipNewline := false }.Inside m false a path :=
  ⟨h.mode_eq, rfl, h.arena_eq, h.stack_eq, h.formatting_eq, h.form_eq, h.fostering_eq,
    h.rawText_eq, h.noTemplate, h.rooted, h.ids⟩

theorem skip (h : b.Inside m s a path) : { b with skipNewline := true }.Inside m true a path :=
  ⟨h.mode_eq, rfl, h.arena_eq, h.stack_eq, h.formatting_eq, h.form_eq, h.fostering_eq,
    h.rawText_eq, h.noTemplate, h.rooted, h.ids⟩

theorem inMode (h : b.Inside m s a path) (mode : Mode) :
    { b with mode }.Inside mode s a path :=
  ⟨rfl, h.skips_eq, h.arena_eq, h.stack_eq, h.formatting_eq, h.form_eq, h.fostering_eq,
    h.rawText_eq, h.noTemplate, h.rooted, h.ids⟩

theorem forbidFrameset (h : b.Inside m s a path) : b.forbidFrameset.Inside m s a path :=
  ⟨h.mode_eq, h.skips_eq, h.arena_eq, h.stack_eq, h.formatting_eq, h.form_eq, h.fostering_eq,
    h.rawText_eq, h.noTemplate, h.rooted, h.ids⟩

theorem withTables (h : b.Inside m s a path) (tableClosesParagraph : Bool) :
    { b with tableClosesParagraph }.Inside m s a path :=
  ⟨h.mode_eq, h.skips_eq, h.arena_eq, h.stack_eq, h.formatting_eq, h.form_eq, h.fostering_eq,
    h.rawText_eq, h.noTemplate, h.rooted, h.ids⟩

/-- An element that is opened joins the path, with its entries and, if it is one, as the form. -/
theorem enter (h : b.Inside m s a path) (htag : (tag.name == "template") = false) :
    { b.insertHtml tag with
      formatting := entries (a.next, tag) ++ b.formatting
      form? := if tag.name == "form" then some a.next else b.form? }.Inside
        m s (a.opened (parentOf path) tag) ((a.next, tag) :: path) where
  mode_eq := h.mode_eq
  skips_eq := h.skips_eq
  arena_eq := by
    show placeNode (b.arena.add (.element tag)) b.spot b.arena.next = _
    rw [h.spot_eq, h.arena_eq]
    rfl
  stack_eq := by
    show b.nextElement .html tag :: b.stack = _
    rw [nextElement_html, h.stack_eq, h.arena_eq]
    rfl
  formatting_eq := by
    show entries (a.next, tag) ++ b.formatting = _
    rw [h.formatting_eq]
    rfl
  form_eq := by
    show (if tag.name == "form" then some a.next else b.form?) = _
    rw [formOf, List.find?_cons]
    cases tag.name == "form" with
    | true => rfl
    | false => exact h.form_eq
  fostering_eq := h.fostering_eq
  rawText_eq := h.rawText_eq
  noTemplate := List.forall_mem_cons.2 ⟨htag, h.noTemplate⟩
  rooted := by
    rw [Arena.next_opened h.lt]
    exact Nat.lt_succ_of_lt h.rooted
  ids := by
    rw [Arena.next_opened h.lt]
    refine List.pairwise_cons.2 ⟨fun id hid => ?_, h.ids⟩
    obtain rfl | hid := List.mem_cons.1 hid
    · exact Nat.lt_succ_self _
    · exact Nat.lt_succ_of_lt ((List.pairwise_cons.1 h.ids).1 id hid)

theorem insertHtml (h : b.Inside m s a (e :: path)) (hplain : (startRule tag.name).isPlain) :
    (b.insertHtml tag).Inside m s (a.opened e.1 tag) ((a.next, tag) :: e :: path) := by
  have hentries : entries (a.next, tag) = [] := entries_of_isPlain hplain
  have hentered := h.enter (not_template (StartRule.ne_stray_of_isPlain hplain))
  rw [hentries, not_form_of_isPlain hplain] at hentered
  exact hentered

/-- The current element leaves the path with its entries. -/
theorem leave (h : b.Inside m s a (e :: path)) :
    { b with
      stack := b.stack.tail
      formatting := path.flatMap entries
      form? := formOf path }.Inside m s a path where
  mode_eq := h.mode_eq
  skips_eq := h.skips_eq
  arena_eq := h.arena_eq
  stack_eq := by
    show b.stack.tail = _
    rw [h.stack_eq]
    rfl
  formatting_eq := rfl
  form_eq := rfl
  fostering_eq := h.fostering_eq
  rawText_eq := h.rawText_eq
  noTemplate := (List.forall_mem_cons.1 h.noTemplate).2
  rooted := h.rooted
  ids := by
    have hids := h.ids
    rw [List.map_cons] at hids
    exact hids.sublist ((List.sublist_cons_self _ _).cons_cons _)

theorem pop (h : b.Inside m s a (e :: path)) (hentries : entries e = [])
    (hform : (e.2.name == "form") = false) : b.pop.Inside m s a path := by
  have hleft := h.leave
  have hformatting : path.flatMap entries = b.formatting := by
    rw [h.formatting_eq, List.flatMap_cons, hentries, List.nil_append]
  have hfind : formOf path = b.form? := by
    rw [h.form_eq, formOf, formOf, List.find?_cons, hform]
  rw [hformatting, hfind] at hleft
  exact hleft

/-- An element that is closed at once leaves nothing but its node. -/
theorem insertVoid (h : b.Inside m s a (e :: path)) (htag : (tag.name == "template") = false) :
    (b.insertVoid tag).Inside m s (a.opened e.1 tag) (e :: path) := by
  have hleft := (h.enter htag).leave
  have hformatting : (e :: path).flatMap entries = b.formatting := h.formatting_eq.symm
  have hfind : formOf (e :: path) = b.form? := h.form_eq.symm
  rw [hformatting, hfind] at hleft
  exact hleft

/-! ### Raw text -/

theorem insertRaw (h : b.Inside m s a (e :: path)) (hplain : (startRule tag.name).isPlain)
    (kind : RawText) :
    { b.insertRaw tag kind with rawText? := none }.Inside .text s (a.opened e.1 tag)
      ((a.next, tag) :: e :: path) := by
  have hentered := h.insertHtml hplain
  exact { hentered with mode_eq := rfl, rawText_eq := rfl }

/-! ### Formatting -/

/-- The formatting elements of a path are all open. -/
theorem isSettled (h : b.Inside m s a path) {f : Formatting} (hf : f ∈ b.formatting) :
    b.isSettled f := by
  rw [h.formatting_eq, List.mem_flatMap] at hf
  obtain ⟨e, he, hf⟩ := hf
  unfold entries at hf
  split_ifs at hf with hmarker hlisted
  · rw [List.mem_singleton.1 hf]
    rfl
  · rw [List.mem_singleton.1 hf]
    show b.isOpen e.1 = true
    rw [isOpen, h.stack_eq, List.any_eq_true]
    exact ⟨openOf e, List.mem_map_of_mem he, beq_self_eq_true e.1⟩
  · cases hf

theorem reopenFormatting_eq (h : b.Inside m s a path) : b.reopenFormatting = b := by
  have hnone : b.formatting.takeWhile (!b.isSettled ·) = [] := by
    cases hlist : b.formatting with
    | nil => rfl
    | cons f rest =>
      have hf : b.isSettled f = true := h.isSettled (hlist ▸ List.mem_cons_self)
      rw [List.takeWhile_cons, hf]
      rfl
  rw [reopenFormatting, hnone]

/-! ### Scopes -/

theorem inScope_eq (h : b.Inside m s a path) (bounds : List String) (name : String) :
    inScope (·.boundsScope bounds) (·.isHtml name) b.stack =
      scopeHas bounds name (path.map (·.2)) := by
  rw [h.stack_eq, scopeHas]
  clear h
  induction path with
  | nil => rfl
  | cons e rest ih =>
    rw [List.map_cons, List.map_cons, List.map_cons, inScope, inScope, ih]
    rfl

theorem openItem_eq (h : b.Inside m s a path) (items : List String) :
    openItem? items b.stack =
      openItem? items ((path.map (·.2)).map fun tag => openOf (0, tag)) := by
  rw [h.stack_eq]
  clear h
  induction path with
  | nil => rfl
  | cons e rest ih =>
    rw [List.map_cons, List.map_cons, List.map_cons, openItem?, openItem?, ih]
    rfl

theorem closeParagraphInScope_eq (h : b.Inside m s a path)
    (hscope : paragraphAbove (path.map (·.2)) = false) : b.closeParagraphInScope = b := by
  have hnone : b.inButtonScope "p" = false := (h.inScope_eq buttonScopeNames "p").trans hscope
  rw [closeParagraphInScope, hnone]
  rfl

theorem currentIn_eq (h : b.Inside m s a (e :: path)) (names : List String) :
    b.currentIn names = names.contains e.2.name := by
  rw [currentIn, h.current_eq]
  rfl

theorem currentIs_eq (h : b.Inside m s a (e :: path)) (name : String) :
    b.currentIs name = (e.2.name == name) := by
  rw [currentIs, h.current_eq]
  rfl

theorem hasOpen_template (h : b.Inside m s a path) : b.hasOpen "template" = false := by
  rw [hasOpen, h.stack_eq, List.any_map, List.any_eq_false]
  intro e he
  rw [Bool.not_eq_true]
  exact h.noTemplate e he

/-! ### The list of formatting elements -/

theorem formattingToMarker_eq (h : b.Inside m s a path) : b.formattingToMarker =
    ((path.takeWhile fun e => !markerNames.contains e.2.name).filter
      fun e => listedNames.contains e.2.name).map fun e => .element (openOf e) e.2 := by
  rw [formattingToMarker, h.formatting_eq]
  clear h
  induction path with
  | nil => rfl
  | cons e rest ih =>
    rw [List.flatMap_cons, entries, List.takeWhile_cons]
    cases hmarker : markerNames.contains e.2.name with
    | true => rfl
    | false =>
      cases hlisted : listedNames.contains e.2.name with
      | true =>
        simp only [Bool.not_false, Bool.false_eq_true, if_true, if_false, List.filter_cons, hlisted,
          List.map_cons, ← ih]
        rfl
      | false =>
        simp only [Bool.not_false, Bool.false_eq_true, if_true, if_false, List.filter_cons, hlisted,
          ← ih]
        rfl

theorem listedAbove_eq (path : List (Nat × Tag)) : listedAbove (path.map (·.2)) =
    ((path.takeWhile fun e => !markerNames.contains e.2.name).filter
      fun e => listedNames.contains e.2.name).map (·.2) := by
  rw [listedAbove, List.takeWhile_map, List.filter_map]
  rfl

theorem surplusFormatting_eq (h : b.Inside m s a path) (hfew : fewAlike (path.map (·.2)) tag) :
    b.surplusFormatting? tag = none := by
  rw [fewAlike, decide_eq_true_eq, listedAbove_eq, List.filter_map, List.length_map] at hfew
  have hlength : (b.formattingToMarker.filter (·.isLike tag)).length < 3 := by
    rw [h.formattingToMarker_eq, List.filter_map, List.length_map]
    exact hfew
  rw [surplusFormatting?]
  exact if_pos hlength

theorem openFormatting (h : b.Inside m s a (e :: path))
    (hlisted : (startRule tag.name).isListed) (hfew : fewAlike ((e :: path).map (·.2)) tag) :
    (b.openFormatting tag).Inside m s (a.opened e.1 tag) ((a.next, tag) :: e :: path) := by
  have hstray : startRule tag.name ≠ .stray := fun hrule => by
    rw [hrule] at hlisted
    cases hlisted
  have hdescribes := describes_startRule hstray
  have hmarker : markerNames.contains tag.name = false := by
    rw [hdescribes.marker, beq_eq_false_iff_ne]
    intro hrule
    rw [hrule] at hlisted
    cases hlisted
  have hform : (tag.name == "form") = false := by
    rw [hdescribes.form, beq_eq_false_iff_ne]
    intro hrule
    rw [hrule] at hlisted
    cases hlisted
  have hentries : entries (a.next, tag) = [.element (b.nextElement .html tag) tag] := by
    rw [entries, hmarker, hdescribes.listed, hlisted, nextElement_html, h.arena_eq]
    rfl
  have hentered := h.enter (not_template hstray)
  rw [hentries, hform] at hentered
  rw [Builder.openFormatting, h.surplusFormatting_eq hfew]
  exact hentered

theorem closeOpenAnchor_eq (h : b.Inside m s a path)
    (hnone : (listedAbove (path.map (·.2))).all (·.name != "a")) : b.closeOpenAnchor = b := by
  simp only [closeOpenAnchor]
  split
  · rfl
  · next id hid =>
    -- An entry for an open anchor would be an anchor above.
    obtain ⟨f, hf, hfound⟩ := List.exists_of_findSome?_eq_some hid
    rw [h.formattingToMarker_eq] at hf
    obtain ⟨e, he, rfl⟩ := List.mem_map.1 hf
    rw [listedAbove_eq, List.all_map, List.all_eq_true] at hnone
    have hne : (e.2.name == "a") = false := by
      simpa using hnone e he
    have hother : (openOf e).isHtml "a" = false := hne
    simp only [hother, Bool.false_eq_true, if_false] at hfound
    cases hfound

/-! ### Start tags -/

theorem openItem (h : b.Inside m s a (e :: path)) (hplain : (startRule tag.name).isPlain)
    (hitems : (openItem? (itemNames tag.name)
      (((e :: path).map (·.2)).map fun tag => openOf (0, tag))).isNone)
    (hparagraph : paragraphAbove ((e :: path).map (·.2)) = false) :
    (b.openListItem tag).Inside m s (a.opened e.1 tag) ((a.next, tag) :: e :: path) := by
  have hnone : openItem? (itemNames tag.name) b.forbidFrameset.stack = none :=
    (h.openItem_eq _).trans (Option.isNone_iff_eq_none.1 hitems)
  have hopened : b.openListItem tag =
      (b.forbidFrameset.closeParagraphInScope).insertHtml tag := by
    rw [itemNames] at hnone
    simp only [openListItem, hnone]
  rw [hopened, h.forbidFrameset.closeParagraphInScope_eq hparagraph]
  exact h.forbidFrameset.insertHtml hplain

theorem openForm (h : b.Inside m s a (e :: path)) (hrule : startRule tag.name = .form)
    (hform : ((e :: path).map (·.2)).all (·.name != "form"))
    (hparagraph : paragraphAbove ((e :: path).map (·.2)) = false) :
    (b.openForm tag).Inside m s (a.opened e.1 tag) ((a.next, tag) :: e :: path) := by
  have hstray : startRule tag.name ≠ .stray := by
    rw [hrule]
    nofun
  have hdescribes := describes_startRule hstray
  rw [hrule] at hdescribes
  have hnone : b.form? = none := by
    rw [h.form_eq, formOf, Option.map_eq_none_iff, List.find?_eq_none]
    rw [List.all_map, List.all_eq_true] at hform
    intro e he heq
    exact absurd heq (by simpa using hform e he)
  have hentries : entries (a.next, tag) = [] := entries_of_rule (r := .form) hrule nofun
  have hentered := h.enter (not_template hstray)
  rw [hentries, hdescribes.form, ← h.arena_eq] at hentered
  have hopened : b.openForm tag =
      { b.insertHtml tag with form? := some b.arena.next } := by
    simp only [Builder.openForm, hnone, h.hasOpen_template, h.closeParagraphInScope_eq hparagraph]
    rfl
  rw [hopened, ← h.arena_eq]
  exact hentered

theorem openShield (h : b.Inside m s a (e :: path)) (hrule : startRule tag.name = .shield) :
    (b.insertHtml tag).pushMarker.Inside m s (a.opened e.1 tag) ((a.next, tag) :: e :: path) := by
  have hstray : startRule tag.name ≠ .stray := by
    rw [hrule]
    nofun
  have hdescribes := describes_startRule hstray
  rw [hrule] at hdescribes
  have hentries : entries (a.next, tag) = [.marker] :=
    entries_of_rule (r := .shield) hrule nofun
  have hentered := h.enter (not_template hstray)
  rw [hentries, hdescribes.form] at hentered
  exact hentered

theorem openRuby (h : b.Inside m s a (e :: path)) (hplain : (startRule tag.name).isPlain)
    (hruby : !scopeHas scopeNames "ruby" ((e :: path).map (·.2)) ||
      !(rubyEndNames tag.name).contains e.2.name) :
    (b.openRuby tag).Inside m s (a.opened e.1 tag) ((a.next, tag) :: e :: path) := by
  have hscope : b.inDefaultScope "ruby" = scopeHas scopeNames "ruby" ((e :: path).map (·.2)) :=
    h.inScope_eq scopeNames "ruby"
  -- If the names are closed at all, the current element is none of them.
  have hsame : (if b.inDefaultScope "ruby" then b.closeImplied (rubyEndNames tag.name) else b) =
      b := by
    rw [hscope]
    cases hopen : scopeHas scopeNames "ruby" ((e :: path).map (·.2)) with
    | false => rfl
    | true =>
      rw [hopen, Bool.not_true, Bool.false_or, Bool.not_eq_true'] at hruby
      rw [if_pos rfl, closeImplied, h.stack_eq, List.map_cons, List.dropWhile_cons_of_neg]
      · rw [← List.map_cons, ← h.stack_eq]
      · rw [Bool.not_eq_true]
        exact hruby
  have hopened : b.openRuby tag =
      (if b.inDefaultScope "ruby" then b.closeImplied (rubyEndNames tag.name) else b).insertHtml
        tag := rfl
  rw [hopened, hsame]
  exact h.insertHtml hplain

/-- A tag that fits opens its element below the current one. -/
theorem apply_opens (h : b.Inside m false a (e :: path)) (hm : m.holdsBody)
    (hfits : tag.fits ((e :: path).map (·.2))) {r : StartRule} (hrule : startRule tag.name = r)
    (hvoid : r.isVoid = false) (hraw : r.rawText? = none) :
    (r.apply b tag).Inside (r.innerMode m) r.skips (a.opened e.1 tag)
      ((a.next, tag) :: e :: path) := by
  have hplain (hr : r.isPlain) : (startRule tag.name).isPlain := hrule ▸ hr
  have hlisted (hr : r.isListed) : (startRule tag.name).isListed := hrule ▸ hr
  rw [Tag.fits, hrule] at hfits
  cases r with
  | block =>
    rw [Bool.not_eq_true'] at hfits
    rw [StartRule.apply, h.closeParagraphInScope_eq hfits]
    exact h.insertHtml (hplain rfl)
  | heading =>
    rw [Bool.and_eq_true, Bool.not_eq_true', Bool.not_eq_true'] at hfits
    obtain ⟨hparagraph, hheading⟩ := hfits
    simp only [StartRule.apply, h.closeParagraphInScope_eq hparagraph]
    rw [h.currentIn_eq, show headingNames.contains e.2.name = false from hheading]
    exact h.insertHtml (hplain rfl)
  | preformatted =>
    rw [Bool.not_eq_true'] at hfits
    rw [StartRule.apply, h.closeParagraphInScope_eq hfits]
    exact (h.insertHtml (hplain rfl)).forbidFrameset.skip
  | form =>
    rw [Bool.and_eq_true, Bool.not_eq_true'] at hfits
    exact h.openForm hrule hfits.2 hfits.1
  | item =>
    rw [Bool.and_eq_true, Bool.not_eq_true'] at hfits
    exact h.openItem (hplain rfl) hfits.1 hfits.2
  | button =>
    rw [Bool.not_eq_true'] at hfits
    have hscope : b.inDefaultScope "button" = false :=
      (h.inScope_eq scopeNames "button").trans hfits
    simp only [StartRule.apply, openButton, hscope, Bool.false_eq_true, if_false,
      h.reopenFormatting_eq]
    exact (h.insertHtml (hplain rfl)).forbidFrameset
  | anchor =>
    rw [Bool.and_eq_true] at hfits
    rw [StartRule.apply, h.closeOpenAnchor_eq hfits.1, h.reopenFormatting_eq]
    exact h.openFormatting (hlisted rfl) hfits.2
  | formatting =>
    rw [StartRule.apply, h.reopenFormatting_eq]
    exact h.openFormatting (hlisted rfl) hfits
  | nobr =>
    rw [Bool.and_eq_true, Bool.not_eq_true'] at hfits
    have hscope : b.inDefaultScope "nobr" = false := (h.inScope_eq scopeNames "nobr").trans hfits.1
    simp only [StartRule.apply, openNobr, h.reopenFormatting_eq, hscope, Bool.false_eq_true,
      if_false]
    exact h.openFormatting (hlisted rfl) hfits.2
  | shield =>
    rw [StartRule.apply, h.reopenFormatting_eq]
    exact (h.openShield hrule).forbidFrameset
  | option =>
    rw [Bool.not_eq_true'] at hfits
    rw [StartRule.apply, h.currentIs_eq, show (e.2.name == "option") = false from hfits,
      if_neg Bool.false_ne_true, h.reopenFormatting_eq]
    exact h.insertHtml (hplain rfl)
  | ruby => exact h.openRuby (hplain rfl) hfits
  | ordinary =>
    rw [StartRule.apply, h.reopenFormatting_eq]
    exact h.insertHtml (hplain rfl)
  | table =>
    rw [Bool.not_eq_true'] at hfits
    have hsame : (if b.tableClosesParagraph then b.closeParagraphInScope else b) = b := by
      rw [h.closeParagraphInScope_eq hfits, ite_self]
    simp only [StartRule.apply, openTable, hsame]
    exact (h.insertHtml (hplain rfl)).forbidFrameset.inMode .inTable
  | select =>
    have hmode : (if [Mode.inTable, .inCaption, .inTableBody, .inRow, .inCell].contains b.mode
        then Mode.inSelectInTable else .inSelect) = m.forOptions := by
      rw [h.mode_eq]
      cases m <;> first | rfl | cases hm
    simp only [StartRule.apply, openSelect, h.reopenFormatting_eq, hmode]
    exact (h.insertHtml (hplain rfl)).forbidFrameset.inMode m.forOptions
  | void | inlineVoid | line => cases hvoid
  | raw | frame | textarea | xmp => cases hraw
  | stray => cases hfits

/-- A tag of a void element that fits leaves its element behind. -/
theorem apply_void (h : b.Inside m false a (e :: path)) (hfits : tag.fits ((e :: path).map (·.2)))
    {r : StartRule} (hrule : startRule tag.name = r) (hvoid : r.isVoid) :
    (r.apply b tag).Inside m false (a.opened e.1 tag) (e :: path) := by
  have htag : (tag.name == "template") = false := by
    refine not_template ?_
    rw [hrule]
    rintro rfl
    cases hvoid
  rw [Tag.fits, hrule] at hfits
  cases r with
  | void => exact h.insertVoid htag
  | inlineVoid =>
    simp only [StartRule.apply, bodyVoid, h.reopenFormatting_eq]
    split
    · exact h.insertVoid htag
    · exact (h.insertVoid htag).forbidFrameset
  | line =>
    rw [Bool.not_eq_true'] at hfits
    rw [StartRule.apply, h.closeParagraphInScope_eq hfits]
    exact (h.insertVoid htag).forbidFrameset
  | _ => cases hvoid

/-- A tag of an element with raw text that fits opens it, and asks for the text. -/
theorem apply_raw (h : b.Inside m false a (e :: path)) (hfits : tag.fits ((e :: path).map (·.2)))
    {r : StartRule} (hrule : startRule tag.name = r) {kind : RawText}
    (hraw : r.rawText? = some kind) :
    { r.apply b tag with rawText? := none }.Inside .text r.skips (a.opened e.1 tag)
      ((a.next, tag) :: e :: path) ∧
    (r.apply b tag).rawText? = some kind ∧ (r.apply b tag).returnMode = m := by
  have hplain (hr : r.isPlain) : (startRule tag.name).isPlain := hrule ▸ hr
  rw [Tag.fits, hrule] at hfits
  cases r with
  | raw kind => exact ⟨h.insertRaw (hplain rfl) kind, hraw, h.mode_eq⟩
  | frame => exact ⟨h.forbidFrameset.insertRaw (hplain rfl) .verbatim, hraw, h.mode_eq⟩
  | textarea => exact ⟨(h.insertRaw (hplain rfl) .escapable).forbidFrameset.skip, hraw, h.mode_eq⟩
  | xmp =>
    rw [Bool.not_eq_true'] at hfits
    rw [StartRule.apply, h.closeParagraphInScope_eq hfits, h.reopenFormatting_eq]
    exact ⟨h.forbidFrameset.insertRaw (hplain rfl) .verbatim, hraw, h.mode_eq⟩
  | _ => cases hraw

/-! ### End tags -/

theorem closeImplied_eq (h : b.Inside m s a (e :: path)) {names : List String}
    (hname : names.contains e.2.name = false) : b.closeImplied names = b := by
  rw [closeImplied, h.stack_eq, List.map_cons, List.dropWhile_cons_of_neg]
  · rw [← List.map_cons, ← h.stack_eq]
  · rw [Bool.not_eq_true]
    exact hname

theorem popThrough_eq (h : b.Inside m s a (e :: path)) {p : OpenElement → Bool}
    (hp : p (openOf e)) : b.popThrough p = b.pop := by
  rw [popThrough, Builder.pop, h.stack_eq, List.map_cons, List.dropWhile_cons_of_neg]
  rw [hp]
  exact Bool.false_ne_true

theorem inScope_current (h : b.Inside m s a (e :: path)) {bounds wanted : OpenElement → Bool}
    (hwanted : wanted (openOf e)) : inScope bounds wanted b.stack = true := by
  rw [h.stack_eq, List.map_cons, inScope, hwanted, Bool.true_or]

theorem isHtml_current (e : Nat × Tag) : (openOf e).isHtml e.2.name :=
  beq_self_eq_true e.2.name

/-- The identity of the current element is that of no other on the path. -/
theorem ne_current (h : b.Inside m s a (e :: path)) {other : Nat × Tag} (hother : other ∈ path) :
    (other.1 == e.1) = false := by
  have hids := (List.pairwise_cons.1 (List.pairwise_cons.1 h.ids).2).1
  rw [beq_eq_false_iff_ne]
  exact Nat.ne_of_lt (hids other.1 (List.mem_map_of_mem hother))

theorem removeOpen_eq (h : b.Inside m s a (e :: path)) : b.removeOpen e.1 = b.pop := by
  have hrest : (path.map openOf).filter (·.id != e.1) = path.map openOf := by
    rw [List.filter_eq_self]
    intro o ho
    obtain ⟨other, hother, rfl⟩ := List.mem_map.1 ho
    show (!(other.1 == e.1)) = true
    rw [h.ne_current hother]
    rfl
  have hself : ((openOf e).id != e.1) = false := by
    show (!(e.1 == e.1)) = false
    rw [beq_self_eq_true]
    rfl
  rw [removeOpen, Builder.pop, h.stack_eq, List.map_cons, List.filter_cons, hself,
    if_neg Bool.false_ne_true, hrest]
  rfl

/-- The end tag of a form closes it. -/
theorem closeForm (h : b.Inside m s a (e :: path)) (hrule : startRule e.2.name = .form)
    (honly : formOf path = none) : b.closeForm.Inside m s a path := by
  have hname : e.2.name = "form" := by
    have hstray : startRule e.2.name ≠ .stray := by
      rw [hrule]
      nofun
    have hdescribes := describes_startRule hstray
    rw [hrule] at hdescribes
    exact beq_iff_eq.1 hdescribes.form
  have hform : b.form? = some e.1 := by
    rw [h.form_eq, formOf, List.find?_cons, hname]
    rfl
  have himplied : impliedEndNames.contains e.2.name = false := by
    rw [hname]
    decide
  have hscope : inScope (·.boundsScope scopeNames) (·.id == e.1) b.stack = true :=
    h.inScope_current (beq_self_eq_true e.1)
  have hentries : entries e = [] := entries_of_rule (r := .form) hrule nofun
  have hclosed : b.closeForm = { (b.closeImplied impliedEndNames).removeOpen e.1 with
      form? := none } := by
    simp only [Builder.closeForm, h.hasOpen_template, hform, hscope, Bool.false_eq_true, if_false,
      if_true]
    rfl
  rw [hclosed, h.closeImplied_eq himplied, h.removeOpen_eq]
  have hleft := h.leave
  have hformatting : path.flatMap entries = b.formatting := by
    rw [h.formatting_eq, List.flatMap_cons, hentries, List.nil_append]
  rw [hformatting, honly] at hleft
  exact hleft

/-- The entry of the current element is the only one for it. -/
theorem dropListed_current (h : b.Inside m s a (e :: path))
    (hentries : entries e = [.element (openOf e) e.2]) :
    b.formatting.filter (!·.isFor e.1) = path.flatMap entries := by
  have hfirst : [Formatting.element (openOf e) e.2].filter (!·.isFor e.1) = [] := by
    rw [List.filter_eq_nil_iff]
    intro f hf
    rw [List.mem_singleton.1 hf]
    show ¬ (!(e.1 == e.1)) = true
    rw [beq_self_eq_true]
    nofun
  have hrest : (path.flatMap entries).filter (!·.isFor e.1) = path.flatMap entries := by
    rw [List.filter_eq_self]
    intro f hf
    obtain ⟨other, hother, hf⟩ := List.mem_flatMap.1 hf
    unfold entries at hf
    split_ifs at hf
    · rw [List.mem_singleton.1 hf]
      rfl
    · rw [List.mem_singleton.1 hf]
      show (!(other.1 == e.1)) = true
      rw [h.ne_current hother]
      rfl
    · cases hf
  rw [h.formatting_eq, List.flatMap_cons, hentries, List.filter_append, hfirst, hrest,
    List.nil_append]

/-- The end tag of a formatting element that is current closes it. -/
theorem closeFormatting (h : b.Inside m s a (e :: path)) {r : StartRule}
    (hrule : startRule e.2.name = r) (hlisted : r.isListed) :
    (b.closeFormatting e.2.name).Inside m s a path := by
  have hentries : entries e = [.element (openOf e) e.2] := by
    rw [entries_of_rule hrule (by rintro rfl; cases hlisted)]
    cases r <;> first | rfl | cases hlisted
  have hself : (openOf e).id = e.1 := rfl
  have hmem : b.isListed e.1 = true := by
    rw [isListed, h.formatting_eq, List.flatMap_cons, hentries, List.any_append]
    show ((e.1 == e.1 || _) || _) = true
    rw [beq_self_eq_true]
    rfl
  have hopen : b.isOpen e.1 = true := by
    rw [isOpen, h.stack_eq, List.map_cons, List.any_cons, hself, beq_self_eq_true, Bool.true_or]
  have hscope : inScope (·.boundsScope scopeNames) (·.id == e.1) b.stack = true :=
    h.inScope_current (beq_self_eq_true e.1)
  have hinside : b.stack.takeWhile (·.id != e.1) = [] := by
    rw [h.stack_eq, List.map_cons, List.takeWhile_cons_of_neg]
    show ¬ (!(e.1 == e.1)) = true
    rw [beq_self_eq_true]
    nofun
  have houter : b.stack.dropWhile (·.id != e.1) = b.stack := by
    rw [h.stack_eq, List.map_cons, List.dropWhile_cons_of_neg]
    show ¬ (!(e.1 == e.1)) = true
    rw [beq_self_eq_true]
    nofun
  -- The first entry with the name is the one of the current element.
  have hfirst : b.formattingToMarker =
      .element (openOf e) e.2 :: (path.flatMap entries).takeWhile (!·.isMarker) := by
    rw [formattingToMarker, h.formatting_eq, List.flatMap_cons, hentries]
    rfl
  have hclosed : b.closeFormatting e.2.name =
      { b.dropListed e.1 with stack := b.stack.tail } := by
    simp only [Builder.closeFormatting, h.current_eq, Option.any_some, hself, hmem, Bool.not_true,
      Bool.and_false, Bool.false_eq_true, if_false, closeFormattingWithin, hfirst,
      List.findSome?_cons, beq_self_eq_true, if_true, hopen, hscope, hinside, houter,
      List.reverse_nil, List.dropWhile_nil]
  have hplain : formOf path = b.form? := by
    have hstray : startRule e.2.name ≠ .stray := by
      rw [hrule]
      rintro rfl
      cases hlisted
    have hdescribes := describes_startRule hstray
    rw [hrule] at hdescribes
    rw [h.form_eq, formOf, formOf, List.find?_cons, hdescribes.form]
    cases r <;> first | rfl | cases hlisted
  have hleft := h.leave
  rw [hplain, ← h.dropListed_current hentries] at hleft
  rw [hclosed]
  exact hleft

/-- The end tag of an element with a marker closes it, and with it what it shields from. -/
theorem closeMarked (h : b.Inside m s a (e :: path)) (hentries : entries e = [.marker])
    (hform : (e.2.name == "form") = false) :
    (b.close e.2.name).clearFormattingToMarker.Inside m s a path := by
  have hcleared : (b.formatting.dropWhile (!·.isMarker)).tail = path.flatMap entries := by
    rw [h.formatting_eq, List.flatMap_cons, hentries]
    rfl
  have hplain : formOf path = b.form? := by
    rw [h.form_eq, formOf, formOf, List.find?_cons, hform]
  have hleft := h.leave
  rw [hplain, ← hcleared] at hleft
  rw [close, h.popThrough_eq (isHtml_current e)]
  exact hleft

/-- The end tag of the current element closes it and nothing else. -/
theorem bodyEnd_closes (h : b.Inside m s a (e :: path)) (hstray : startRule e.2.name ≠ .stray)
    (hvoid : (startRule e.2.name).isVoid = false)
    (hform : e.2.name = "form" → formOf path = none) :
    ∃ next, b.bodyEnd e.2.name = .done next ∧ next.Inside m s a path := by
  have hsuits := suits_endRule hstray hvoid
  have hwanted : (openOf e).isHtml e.2.name := isHtml_current e
  have hpop (hplain : (startRule e.2.name).isPlain) : b.pop.Inside m s a path :=
    h.pop (entries_of_isPlain hplain) (not_form_of_isPlain hplain)
  have hclose : b.close e.2.name = b.pop := h.popThrough_eq hwanted
  have hexcept : b.closeImpliedExcept e.2.name = b := by
    refine h.closeImplied_eq ?_
    rw [List.contains_eq_mem, decide_eq_false_iff_not, List.mem_filter, bne_self_eq_false]
    exact fun hmem => Bool.false_ne_true hmem.2
  have hscope (bounds : List String) :
      inScope (·.boundsScope bounds) (·.isHtml e.2.name) b.stack = true :=
    h.inScope_current hwanted
  have hrule : endRule e.2.name ≠ .stray := fun hr => by
    rw [hr] at hsuits
    cases hsuits
  refine ⟨_, b.bodyEnd_eq e.2.name hrule, ?_⟩
  cases hr : endRule e.2.name with
  | block =>
    rw [hr, EndRule.suits, Bool.and_eq_true, Bool.not_eq_true'] at hsuits
    rw [EndRule.apply, inDefaultScope, hscope, if_pos rfl, h.closeImplied_eq hsuits.2, hclose]
    exact hpop hsuits.1
  | form =>
    rw [hr, EndRule.suits, beq_iff_eq] at hsuits
    have hdescribes := describes_startRule hstray
    rw [hsuits] at hdescribes
    exact h.closeForm hsuits (hform (beq_iff_eq.1 hdescribes.form))
  | paragraph =>
    rw [hr, EndRule.suits, beq_iff_eq] at hsuits
    rw [hsuits] at hscope hclose hexcept hpop
    rw [EndRule.apply, inButtonScope, hscope, if_pos rfl, closeParagraph, hexcept, hclose]
    exact hpop rfl
  | listItem =>
    rw [hr, EndRule.suits, beq_iff_eq] at hsuits
    rw [hsuits] at hscope hclose hexcept hpop
    rw [EndRule.apply, inListItemScope, hscope, if_pos rfl, hexcept, hclose]
    exact hpop rfl
  | item =>
    rw [hr, EndRule.suits] at hsuits
    rw [EndRule.apply, inDefaultScope, hscope, if_pos rfl, hexcept, hclose]
    exact hpop hsuits
  | heading =>
    rw [hr, EndRule.suits, Bool.and_eq_true, Bool.and_eq_true, Bool.not_eq_true'] at hsuits
    have hheading : (openOf e).isHtmlIn headingNames := hsuits.2
    rw [EndRule.apply, h.inScope_current hheading, if_pos rfl, h.closeImplied_eq hsuits.1.2,
      h.popThrough_eq hheading]
    exact hpop hsuits.1.1
  | formatting =>
    rw [hr] at hsuits
    exact h.closeFormatting rfl hsuits
  | shield =>
    rw [hr, EndRule.suits, Bool.and_eq_true, beq_iff_eq, Bool.not_eq_true'] at hsuits
    have hdescribes := describes_startRule hstray
    rw [hsuits.1] at hdescribes
    rw [EndRule.apply, inDefaultScope, hscope, if_pos rfl, h.closeImplied_eq hsuits.2]
    exact h.closeMarked (entries_of_rule hsuits.1 nofun) hdescribes.form
  | ordinary =>
    rw [hr] at hsuits
    have hfound : findOpen? e.2.name b.stack = some (openOf e) := by
      rw [h.stack_eq, List.map_cons, findOpen?, if_pos hwanted]
    simp only [EndRule.apply, closeGeneric, hfound, hexcept]
    rw [h.popThrough_eq (beq_self_eq_true e.1)]
    exact hpop hsuits
  | stray => exact absurd hr hrule

end Builder.Inside

end StaticSite.Html
