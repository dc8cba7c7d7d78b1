/-
  Reading directives.

  A directive is read entry by entry, so what is read of two directives with a comma between
  them is what is read of each (`parse_append`).  Blanks around a key, a value or an entry do
  not count (`Text.trimChars_between`), and an entry of blanks is none; so however a list of
  pairs is spelled, it is read back (`parse_of_spells`).  What is read is always such a list
  (`isPlain_of_mem_parse`), so writing it again and reading that changes nothing.
-/

import Mathlib
import StaticSite.Template.Replacement

namespace StaticSite

namespace Text

/-! ## Trimming -/

/-- Whether a text is white space only. -/
def AreBlank (cs : List Char) : Prop := ∀ c ∈ cs, isWhiteSpace c

instance (cs : List Char) : Decidable (AreBlank cs) :=
  decidable_of_iff (cs.all isWhiteSpace) List.all_eq_true

theorem dropWhile_of_areBlank {blanks : List Char} (h : AreBlank blanks) (cs : List Char) :
    (blanks ++ cs).dropWhile isWhiteSpace = cs.dropWhile isWhiteSpace :=
  List.dropWhile_append_of_pos h

theorem AreBlank.not_mem {blanks : List Char} (h : AreBlank blanks) {c : Char}
    (hc : isWhiteSpace c = false) : c ∉ blanks := by
  intro hmem
  rw [h c hmem] at hc
  cases hc

theorem AreBlank.reverse {blanks : List Char} (h : AreBlank blanks) : AreBlank blanks.reverse :=
  fun c hc => h c (List.mem_reverse.1 hc)

/-- Blanks around a text do not count. -/
theorem trimChars_between {before after : List Char} (hbefore : AreBlank before)
    (hafter : AreBlank after) (cs : List Char) :
    trimChars (before ++ (cs ++ after)) = trimChars cs := by
  rw [trimChars, trimChars, dropWhile_of_areBlank hbefore, List.dropWhile_append]
  split
  · next hempty =>
    -- The text is blank itself, and nothing is left of either.
    rw [List.isEmpty_iff] at hempty
    have hnone : after.dropWhile isWhiteSpace = [] := List.dropWhile_eq_nil_iff.2 hafter
    rw [hempty, hnone]
  · rw [List.reverse_append, dropWhile_of_areBlank hafter.reverse]

/-- What trimming takes away are blanks at both ends. -/
theorem exists_trimChars (cs : List Char) :
    ∃ before after, AreBlank before ∧ AreBlank after ∧
      cs = before ++ (trimChars cs ++ after) := by
  refine ⟨cs.takeWhile isWhiteSpace,
    ((cs.dropWhile isWhiteSpace).reverse.takeWhile isWhiteSpace).reverse,
    fun c hc => List.mem_takeWhile_imp hc, ?_, ?_⟩
  · exact AreBlank.reverse fun c hc => List.mem_takeWhile_imp hc
  · rw [trimChars, ← List.reverse_append, List.takeWhile_append_dropWhile, List.reverse_reverse,
      List.takeWhile_append_dropWhile]

theorem trimChars_trimChars (cs : List Char) : trimChars (trimChars cs) = trimChars cs := by
  obtain ⟨before, after, hbefore, hafter, heq⟩ := exists_trimChars cs
  have hbetween := trimChars_between hbefore hafter (trimChars cs)
  rw [← heq] at hbetween
  exact hbetween.symm

theorem mem_of_mem_trimChars {c : Char} {cs : List Char} (h : c ∈ trimChars cs) : c ∈ cs := by
  obtain ⟨before, after, -, -, heq⟩ := exists_trimChars cs
  rw [heq]
  exact List.mem_append_right _ (List.mem_append_left _ h)

theorem trimChars_eq_nil {cs : List Char} : trimChars cs = [] ↔ AreBlank cs := by
  constructor
  · intro h
    obtain ⟨before, after, hbefore, hafter, heq⟩ := exists_trimChars cs
    rw [h, List.nil_append] at heq
    rw [heq]
    exact List.forall_mem_append.2 ⟨hbefore, hafter⟩
  · intro h
    have hbetween := trimChars_between h (fun c hc => absurd hc List.not_mem_nil) []
    rw [List.nil_append, List.append_nil] at hbetween
    exact hbetween

theorem trimChars_of_forall {cs : List Char} (h : ∀ c ∈ cs, isWhiteSpace c = false) :
    trimChars cs = cs := by
  obtain ⟨before, after, hbefore, hafter, heq⟩ := exists_trimChars cs
  have hnone {blanks : List Char} (hblanks : AreBlank blanks) (hsub : ∀ c ∈ blanks, c ∈ cs) :
      blanks = [] :=
    List.eq_nil_iff_forall_not_mem.2 fun c hc => hblanks.not_mem (h c (hsub c hc)) hc
  have hstart : before = [] := hnone hbefore fun c hc => heq ▸ List.mem_append_left _ hc
  have hend : after = [] := hnone hafter fun c hc =>
    heq ▸ List.mem_append_right _ (List.mem_append_right _ hc)
  rw [hstart, hend, List.nil_append, List.append_nil] at heq
  exact heq.symm

/-! ## Cutting -/

/-- A text is cut at the first separator. -/
theorem cutAt_eq_some {sep : Char} {cs before after : List Char} :
    cutAt sep cs = some (before, after) ↔ cs = before ++ sep :: after ∧ sep ∉ before := by
  induction cs generalizing before with
  | nil => simp [cutAt]
  | cons c rest ih =>
    rw [cutAt]
    by_cases hc : c = sep
    · subst hc
      cases before with
      | nil => simp
      | cons d before =>
        constructor
        · intro h
          simp at h
        · rintro ⟨heq, hnot⟩
          rw [List.cons_append] at heq
          exact absurd (List.mem_cons.2 (.inl (List.cons.inj heq).1)) hnot
    · have hne : (c == sep) = false := beq_false_of_ne hc
      rw [hne, if_neg Bool.false_ne_true]
      cases before with
      | nil => simp [hc]
      | cons d before =>
        simp only [Option.map_eq_some_iff, Prod.exists, Prod.mk.injEq, List.cons.injEq,
          List.cons_append, List.mem_cons, not_or]
        constructor
        · rintro ⟨before', after', hcut, ⟨rfl, rfl⟩, rfl⟩
          obtain ⟨rfl, hnot⟩ := ih.1 hcut
          exact ⟨⟨rfl, rfl⟩, Ne.symm hc, hnot⟩
        · rintro ⟨⟨rfl, hrest⟩, -, hnot⟩
          exact ⟨before, after, ih.2 ⟨hrest, hnot⟩, ⟨rfl, rfl⟩, rfl⟩

end Text

namespace Template.Replacement

open Text (AreBlank)

/-! ## Directives in parts -/

/-- A directive is read entry by entry. -/
theorem parse_append (a b : String) : parse (a ++ "," ++ b) = parse a ++ parse b := by
  have htext : (a ++ "," ++ b).toList = a.toList ++ ',' :: b.toList := by simp
  rw [parse, parse, parse, entries, entries, entries, htext, Text.splitAt_append, List.map_append,
    List.filterMap_append]

/-- A directive without a comma is one entry. -/
theorem parse_entry {entry : String} (h : ',' ∉ entry.toList) :
    parse entry = (readEntry entry.toList).pair?.toList := by
  rw [parse, entries, Text.splitAt_of_not_mem h, List.map_singleton]
  cases hpair : (readEntry entry.toList).pair? <;> simp [hpair]

/-! ## Spelling pairs -/

/-- A pair that can stand in a directive as it is. -/
structure IsPlain (p : Replacement) : Prop where
  key_ne : p.key ≠ ""
  key_trim : Text.trim p.key = p.key
  key_comma : ',' ∉ p.key.toList
  key_colon : ':' ∉ p.key.toList
  value_trim : Text.trim p.value = p.value
  value_comma : ',' ∉ p.value.toList

/-- A pair as it stands in a directive, with blanks around its key and its value. -/
def spelled (b₁ b₂ b₃ b₄ : String) (p : Replacement) : String :=
  b₁ ++ p.key ++ b₂ ++ ":" ++ b₃ ++ p.value ++ b₄

/-- The entries of a directive for some pairs: each pair is one, and there may be blank ones. -/
inductive Spells : (entries : List String) → List Replacement → Prop
  | done : Spells [] []
  | blank {text : String} {entries : List String} {pairs : List Replacement}
      (blanks : AreBlank text.toList) (rest : Spells entries pairs) : Spells (text :: entries) pairs
  | pair {b₁ b₂ b₃ b₄ : String} {p : Replacement} {entries : List String} {pairs : List Replacement}
      (blanks : ∀ b ∈ [b₁, b₂, b₃, b₄], AreBlank b.toList) (rest : Spells entries pairs) :
      Spells (spelled b₁ b₂ b₃ b₄ p :: entries) (p :: pairs)

/-- The shortest directive for some pairs. -/
def write (pairs : List Replacement) : String :=
  ",".intercalate (pairs.map fun p => p.key ++ ":" ++ p.value)

theorem parse_blank {text : String} (h : AreBlank text.toList) : parse text = [] := by
  have hempty : readEntry text.toList = .empty := by
    rw [readEntry, Text.trimChars_eq_nil.2 h]
    rfl
  rw [parse_entry (h.not_mem (by decide)), hempty]
  rfl

theorem trimmed_between {before after text : String} (hbefore : AreBlank before.toList)
    (hafter : AreBlank after.toList) (htrim : Text.trim text = text) :
    trimmed (before.toList ++ (text.toList ++ after.toList)) = text := by
  rw [trimmed, Text.trimChars_between hbefore hafter]
  exact htrim

/-- However it is spelled, a pair is read back. -/
theorem parse_spelled {b₁ b₂ b₃ b₄ : String} {p : Replacement} (hp : p.IsPlain)
    (hblanks : ∀ b ∈ [b₁, b₂, b₃, b₄], AreBlank b.toList) :
    parse (spelled b₁ b₂ b₃ b₄ p) = [p] := by
  simp only [List.forall_mem_cons] at hblanks
  obtain ⟨h₁, h₂, h₃, h₄, -⟩ := hblanks
  have hchars : (spelled b₁ b₂ b₃ b₄ p).toList = (b₁.toList ++ (p.key.toList ++ b₂.toList)) ++
      ':' :: (b₃.toList ++ (p.value.toList ++ b₄.toList)) := by
    simp [spelled]
  have hcomma : ',' ∉ (spelled b₁ b₂ b₃ b₄ p).toList := by
    have hblank : Text.isWhiteSpace ',' = false := by decide
    simp [hchars, h₁.not_mem hblank, h₂.not_mem hblank, h₃.not_mem hblank, h₄.not_mem hblank,
      hp.key_comma, hp.value_comma]
  -- The first colon is the one behind the key.
  have hcut : Text.cutAt ':' (spelled b₁ b₂ b₃ b₄ p).toList =
      some (b₁.toList ++ (p.key.toList ++ b₂.toList),
        b₃.toList ++ (p.value.toList ++ b₄.toList)) := by
    have hblank : Text.isWhiteSpace ':' = false := by decide
    refine Text.cutAt_eq_some.2 ⟨hchars, ?_⟩
    simp [h₁.not_mem hblank, h₂.not_mem hblank, hp.key_colon]
  have hnonblank : (Text.trimChars (spelled b₁ b₂ b₃ b₄ p).toList).isEmpty = false := by
    rw [List.isEmpty_eq_false_iff, Ne, Text.trimChars_eq_nil]
    intro hall
    exact absurd (by simp [hchars]) (hall.not_mem (c := ':') (by decide))
  have hkey : trimmed (b₁.toList ++ (p.key.toList ++ b₂.toList)) = p.key :=
    trimmed_between h₁ h₂ hp.key_trim
  have hkeyed : (Text.trimChars (b₁.toList ++ (p.key.toList ++ b₂.toList))).isEmpty = false := by
    rw [List.isEmpty_eq_false_iff]
    intro hnil
    rw [trimmed, hnil] at hkey
    exact hp.key_ne hkey.symm
  have hentry : readEntry (spelled b₁ b₂ b₃ b₄ p).toList = .pair p := by
    rw [readEntry, hnonblank, hcut]
    simp only [hkeyed, hkey, trimmed_between h₃ h₄ hp.value_trim, Bool.false_eq_true, if_false]
  rw [parse_entry hcomma, hentry]
  rfl

/-- A directive without blanks and commas is the pair that its colon divides. -/
theorem parse_pair {key value : List Char} (hne : key ≠ [])
    (hkey : ∀ c ∈ key, Text.isWhiteSpace c = false ∧ c ≠ ',' ∧ c ≠ ':')
    (hvalue : ∀ c ∈ value, Text.isWhiteSpace c = false ∧ c ≠ ',') :
    parse (String.ofList (key ++ ':' :: value)) =
      [{ key := String.ofList key, value := String.ofList value }] := by
  have htrim {cs : List Char} (h : ∀ c ∈ cs, Text.isWhiteSpace c = false) :
      Text.trim (String.ofList cs) = String.ofList cs := by
    rw [Text.trim, String.toList_ofList, Text.trimChars_of_forall h]
  have hplain : IsPlain { key := String.ofList key, value := String.ofList value } := {
    key_ne := by simpa using hne
    key_trim := htrim fun c hc => (hkey c hc).1
    key_comma := by simpa using fun hmem => (hkey _ hmem).2.1 rfl
    key_colon := by simpa using fun hmem => (hkey _ hmem).2.2 rfl
    value_trim := htrim fun c hc => (hvalue c hc).1
    value_comma := by simpa using fun hmem => (hvalue _ hmem).2 rfl }
  have hspelled : String.ofList (key ++ ':' :: value) =
      spelled "" "" "" "" { key := String.ofList key, value := String.ofList value } := by
    rw [← String.toList_inj]
    simp [spelled]
  rw [hspelled]
  exact parse_spelled hplain (by decide)

theorem parse_intercalate (text : String) (texts : List String) :
    parse (",".intercalate (text :: texts)) = parse text ++ parse (",".intercalate texts) := by
  cases texts with
  | nil =>
    have hempty : parse (",".intercalate []) = [] := by decide
    rw [String.intercalate_singleton, hempty, List.append_nil]
  | cons next rest => rw [String.intercalate_cons_cons, parse_append]

/-- However they are spelled, pairs are read back in order. -/
theorem parse_of_spells {entries : List String} {pairs : List Replacement}
    (hplain : ∀ p ∈ pairs, p.IsPlain) (h : Spells entries pairs) :
    parse (",".intercalate entries) = pairs := by
  induction h with
  | done => decide
  | blank blanks rest ih => rw [parse_intercalate, parse_blank blanks, ih hplain, List.nil_append]
  | pair blanks rest ih =>
    obtain ⟨hp, hrest⟩ := List.forall_mem_cons.1 hplain
    rw [parse_intercalate, parse_spelled hp blanks, ih hrest, List.singleton_append]

theorem spells_write (pairs : List Replacement) :
    Spells (pairs.map fun p => p.key ++ ":" ++ p.value) pairs := by
  induction pairs with
  | nil => exact .done
  | cons p rest ih =>
    have hpair : p.key ++ ":" ++ p.value = spelled "" "" "" "" p := by simp [spelled]
    have hnone : AreBlank "".toList := fun c hc => absurd hc List.not_mem_nil
    rw [List.map_cons, hpair]
    exact .pair (by simpa using hnone) ih

/-! ## What is read -/

theorem trim_trimmed (cs : List Char) : Text.trim (trimmed cs) = trimmed cs := by
  rw [Text.trim, trimmed, String.toList_ofList, Text.trimChars_trimChars]

theorem mem_of_mem_trimmed {c : Char} {cs : List Char} (h : c ∈ (trimmed cs).toList) : c ∈ cs := by
  rw [trimmed, String.toList_ofList] at h
  exact Text.mem_of_mem_trimChars h

/-- Only pairs are read that can be written as they are. -/
theorem isPlain_of_mem_parse {directive : String} {p : Replacement} (h : p ∈ parse directive) :
    p.IsPlain := by
  obtain ⟨entry, hentry, hpair⟩ := List.mem_filterMap.1 h
  obtain ⟨piece, hpiece, rfl⟩ := List.mem_map.1 hentry
  have hcomma := Text.not_mem_of_mem_splitAt hpiece
  unfold readEntry at hpair
  split at hpair
  · cases hpair
  · split at hpair
    · cases hpair
    · next key value hcut =>
      split at hpair
      · cases hpair
      · next hkeyed =>
        cases hpair
        obtain ⟨rfl, hcolon⟩ := Text.cutAt_eq_some.1 hcut
        rw [List.mem_append, List.mem_cons, not_or, not_or] at hcomma
        exact {
          key_ne := fun hempty => hkeyed (by simpa [trimmed] using hempty)
          key_trim := trim_trimmed key
          key_comma := fun hmem => hcomma.1 (mem_of_mem_trimmed hmem)
          key_colon := fun hmem => hcolon (mem_of_mem_trimmed hmem)
          value_trim := trim_trimmed value
          value_comma := fun hmem => hcomma.2.2 (mem_of_mem_trimmed hmem) }

/-- Pairs are read back however they are spelled; a directive is read part by part; and what is
read can be written again and is read back from that. -/
theorem parse_lawful :
    (∀ entries pairs, (∀ p ∈ pairs, p.IsPlain) → Spells entries pairs →
      parse (",".intercalate entries) = pairs) ∧
    (∀ a b, parse (a ++ "," ++ b) = parse a ++ parse b) ∧
    ∀ directive, (∀ p ∈ parse directive, p.IsPlain) ∧
      parse (write (parse directive)) = parse directive := by
  refine ⟨fun entries pairs => parse_of_spells, parse_append, fun directive => ?_⟩
  have hplain : ∀ p ∈ parse directive, p.IsPlain := fun p hp => isPlain_of_mem_parse hp
  exact ⟨hplain, parse_of_spells hplain (spells_write _)⟩

/-- Blank entries and blanks of any kind around two pairs, one of which has a colon in its value and
the other one no value. -/
theorem parse_lawful_spaced :
    (∀ p ∈ [Replacement.mk "href" "https://a b.c", .mk "alt" ""], p.IsPlain) ∧
    Spells ["\u00a0", " href\t:\u2003https://a b.c\n", "", "alt: "]
      [.mk "href" "https://a b.c", .mk "alt" ""] ∧
    parse "\u00a0, href\t:\u2003https://a b.c\n,,alt: " =
      [.mk "href" "https://a b.c", .mk "alt" ""] := by
  have hplain : ∀ p ∈ [Replacement.mk "href" "https://a b.c", .mk "alt" ""], p.IsPlain := by
    simp only [List.forall_mem_cons, List.not_mem_nil, false_imp_iff, implies_true, and_true]
    exact ⟨by constructor <;> decide, by constructor <;> decide⟩
  have hspells : Spells ["\u00a0", " href\t:\u2003https://a b.c\n", "", "alt: "]
      [.mk "href" "https://a b.c", .mk "alt" ""] := by
    have hfirst : " href\t:\u2003https://a b.c\n" =
        spelled " " "\t" "\u2003" "\n" (.mk "href" "https://a b.c") := by decide
    have hsecond : "alt: " = spelled "" "" " " "" (.mk "alt" "") := by decide
    rw [hfirst, hsecond]
    exact .blank (by decide) (.pair (by decide) (.blank (by decide) (.pair (by decide) .done)))
  exact ⟨hplain, hspells, parse_lawful.1 _ _ hplain hspells⟩

end Template.Replacement

end StaticSite
