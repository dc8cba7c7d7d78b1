/-
  Where a tag may stand, and what it holds there.

  How a token is handled depends on the mode of the builder, which follows from the open
  elements: the parts of a table, `select` elements, the head and the body have modes of
  their own for their content, and other elements of the body leave the mode as it is
  (`modeOf?`).  In each mode some start tags open an element where they stand and do
  nothing else, and the element holds nothing, raw text or nodes (`Tag.filling?`).
-/

import Mathlib.Tactic.SplitIfs
import StaticSite.Proofs.Rules

namespace StaticSite.Html

/-! ## Modes -/

namespace Mode

/-- Whether the content of the body is read in a mode. -/
def holdsBody : Mode → Bool
  | .inBody | .inCell | .inCaption => true
  | _ => false

/-- Whether nothing but parts of a table is read in a mode. -/
def holdsParts : Mode → Bool
  | .inTable | .inTableBody | .inRow => true
  | _ => false

/-- Whether the content of a `select` element is read in a mode. -/
def holdsOptions : Mode → Bool
  | .inSelect | .inSelectInTable => true
  | _ => false

/-- Whether a character is added to the current element in a mode at once. -/
def keeps (c : Char) : Mode → Bool
  | .inBody | .inCell | .inCaption | .inSelect | .inSelectInTable => c != '\x00'
  | .inHead | .afterHead | .inColumnGroup => isBlank c
  | .text => true
  | _ => false

/-- Whether a character gets to the current element in a mode, at once or when a tag comes. -/
def takes (c : Char) (m : Mode) : Bool := m.keeps c || m.holdsParts && isBlank c

end Mode

/-- The parts of a table. -/
inductive Part where
  | caption
  | columns
  | group
  | row
  | cell
  deriving DecidableEq, Repr

namespace Part

def names : Part → List String
  | .caption => ["caption"]
  | .columns => ["colgroup"]
  | .group => rowGroupNames
  | .row => ["tr"]
  | .cell => cellNames

/-- The mode that a part is opened in. -/
def outerMode : Part → Mode
  | .caption | .columns | .group => .inTable
  | .row => .inTableBody
  | .cell => .inRow

/-- The mode for the content of a part. -/
def innerMode : Part → Mode
  | .caption => .inCaption
  | .columns => .inColumnGroup
  | .group => .inTableBody
  | .row => .inRow
  | .cell => .inCell

/-- The elements that a part stands in. -/
def holders : Part → List String
  | .caption | .columns | .group => ["table"]
  | .row => group.names
  | .cell => row.names

/-- The elements at which the search for the holder of a part ends. -/
def bounds : Part → List String
  | .caption | .columns | .group => tableScopeNames
  | .row => Builder.rowHolderNames
  | .cell => Builder.cellHolderNames

/-- Whether formatting elements around a part are shielded from it. -/
def marks : Part → Bool
  | .caption | .cell => true
  | _ => false

end Part

def parts : List Part := [.caption, .columns, .group, .row, .cell]

def partOf? (name : String) : Option Part := parts.find? (·.names.contains name)

/-- Elements that have a mode of their own for their content. -/
def ownModes : List (String × Mode) :=
  parts.flatMap (fun part => part.names.map (·, part.innerMode)) ++
    [("table", .inTable), ("head", .inHead), ("body", .inBody), ("html", .afterHead),
     ("template", .inTemplate), ("frameset", .inFrameset)]

/-- The mode for the content of an element, if that depends on its name alone. -/
def ownMode? (name : String) : Option Mode := ownModes.lookup name

/-- The mode for the content of a `select` element that is opened in a mode. -/
def Mode.forOptions (m : Mode) : Mode := if m == .inBody then .inSelect else .inSelectInTable

/-- The mode for the content of an element that is opened in a mode of the body. -/
def StartRule.innerMode (m : Mode) : StartRule → Mode
  | .table => .inTable
  | .select => m.forOptions
  | _ => m

/-- The mode for the content of the innermost of some elements.  Besides the root element only the
content of the body and of `select` elements can hold elements without a mode of their own. -/
def modeOf? : List Tag → Option Mode
  | [] => none
  | [_] => some .afterHead
  | tag :: parent :: above =>
    match ownMode? tag.name with
    | some m => some m
    | none =>
      if tag.name == "select" then (modeOf? (parent :: above)).map Mode.forOptions
      else (modeOf? (parent :: above)).filter fun m => m.holdsBody || m.holdsOptions

/-! ## What an element holds -/

/-- What an element holds. -/
inductive Filling where
  | nothing
  | raw (kind : RawText)
  | nodes
  deriving DecidableEq, Repr

def Filling.rawText? : Filling → Option RawText
  | .raw kind => some kind
  | _ => none

def StartRule.filling (r : StartRule) : Filling :=
  match r.rawText? with
  | some kind => .raw kind
  | none => if r.isVoid then .nothing else .nodes

/-- Whether the current element has one of the names. -/
def currentAmong (names : List String) (above : List Tag) : Bool :=
  above.head?.any (names.contains ·.name)

/-- What an element of a `select` element holds whose start tag opens it and does nothing else. -/
def Tag.optionFilling? (above : List Tag) (tag : Tag) : Option Filling :=
  if tag.name == "script" then some (.raw .script)
  else if tag.name == "option" && !currentAmong ["option"] above then some .nodes
  else if currentAmong ["option", "optgroup"] above then none
  else if tag.name == "optgroup" then some .nodes
  else if tag.name == "hr" then some .nothing
  else none

/-- What an element holds whose start tag opens it between the parts of a table and does nothing
else. -/
def Tag.partFilling? (above : List Tag) (tag : Tag) (m : Mode) : Option Filling :=
  if tag.name == "script" then some (.raw .script)
  else if tag.name == "style" then some (.raw .verbatim)
  else if tag.name == "input" && Builder.isHidden tag then some .nothing
  else
    match partOf? tag.name with
    | some part =>
      if part.outerMode = m ∧ currentAmong part.holders above then some .nodes else none
    | none => none

/-- What an element holds whose start tag opens it in a mode and does nothing else. -/
def Tag.fillingIn? (above : List Tag) (tag : Tag) : Mode → Option Filling
  | .inBody | .inCell | .inCaption =>
    if tag.fits above then some (startRule tag.name).filling else none
  | .inHead => if headNames.contains tag.name then some (startRule tag.name).filling else none
  | .inColumnGroup => if tag.name == "col" then some .nothing else none
  | .inSelect | .inSelectInTable => tag.optionFilling? above
  | .inTable => tag.partFilling? above .inTable
  | .inTableBody => tag.partFilling? above .inTableBody
  | .inRow => tag.partFilling? above .inRow
  | _ => none

/-- What an element holds whose start tag opens it below the given elements and does nothing
else. -/
def Tag.filling? (above : List Tag) (tag : Tag) : Option Filling :=
  (modeOf? above).bind (tag.fillingIn? above)

/-! ## Modes and rules -/

def partNames : List String := parts.flatMap Part.names

theorem mem_names {name : String} {part : Part} (h : partOf? name = some part) :
    name ∈ part.names := by
  have hfound : part.names.contains name = true :=
    @List.find?_some _ (fun part : Part => part.names.contains name) part parts h
  exact List.contains_iff_mem.1 hfound

theorem mem_partNames {name : String} {part : Part} (h : partOf? name = some part) :
    name ∈ partNames :=
  List.mem_flatMap.2 ⟨part, List.mem_of_find?_eq_some h, mem_names h⟩

theorem mem_ownModes {name : String} {m : Mode} (h : ownMode? name = some m) :
    (name, m) ∈ ownModes := by
  obtain ⟨before, behind, hlist, -⟩ := List.lookup_eq_some_iff.1 h
  rw [hlist]
  exact List.mem_append_right _ List.mem_cons_self

theorem ownMode?_of_not_mem {name : String} (h : name ∉ ruledNames) : ownMode? name = none := by
  have hall : ∀ entry ∈ ownModes, entry.1 ∈ ruledNames := by decide
  rw [Option.eq_none_iff_forall_ne_some]
  exact fun m hown => h (hall _ (mem_ownModes hown))

/-- An element that is opened in the body has a mode of its own only if it is a table. -/
theorem ownMode?_of_rule {name : String} (h : startRule name ≠ .stray) :
    ownMode? name = if startRule name = .table then some .inTable else none := by
  by_cases hname : name ∈ ruledNames
  · have hall : ∀ n ∈ ruledNames, startRule n = .stray ∨
        ownMode? n = if startRule n = .table then some .inTable else none := by
      decide +kernel
    exact (hall name hname).resolve_left h
  · rw [ownMode?_of_not_mem hname, startRule_of_not_mem hname]
    rfl

theorem ne_stray_of_fits {tag : Tag} {above : List Tag} (h : tag.fits above) :
    startRule tag.name ≠ .stray := by
  intro hrule
  rw [Tag.fits, hrule] at h
  cases h

section Inside

variable {tag : Tag} {above : List Tag} {m : Mode}

theorem exists_cons_of_modeOf? (h : modeOf? above = some m) :
    ∃ parent rest, above = parent :: rest := by
  cases above with
  | nil => cases h
  | cons parent rest => exact ⟨parent, rest, rfl⟩

theorem modeOf?_body (h : modeOf? above = some m) (hm : m.holdsBody)
    (hstray : startRule tag.name ≠ .stray) :
    modeOf? (tag :: above) = some ((startRule tag.name).innerMode m) := by
  obtain ⟨parent, rest, rfl⟩ := exists_cons_of_modeOf? h
  rw [modeOf?, ownMode?_of_rule hstray, (describes_startRule hstray).select, h]
  have hkept : (some m).filter (fun m => m.holdsBody || m.holdsOptions) = some m := by
    rw [Option.filter_some, hm]
    rfl
  rw [hkept]
  cases startRule tag.name <;> rfl

theorem modeOf?_part {part : Part} (h : modeOf? above = some m)
    (hpart : partOf? tag.name = some part) : modeOf? (tag :: above) = some part.innerMode := by
  obtain ⟨parent, rest, rfl⟩ := exists_cons_of_modeOf? h
  have hall : ∀ n ∈ partNames, ownMode? n = (partOf? n).map Part.innerMode := by decide
  rw [modeOf?, hall _ (mem_partNames hpart), hpart]
  rfl

theorem modeOf?_option (h : modeOf? above = some m) (hm : m.holdsOptions)
    (hname : tag.name = "option" ∨ tag.name = "optgroup") : modeOf? (tag :: above) = some m := by
  obtain ⟨parent, rest, rfl⟩ := exists_cons_of_modeOf? h
  have hplain : ownMode? tag.name = none ∧ (tag.name == "select") = false := by
    obtain hname | hname := hname <;> rw [hname] <;> decide
  rw [modeOf?, hplain.1, hplain.2, h]
  show (some m).filter (fun m => m.holdsBody || m.holdsOptions) = some m
  rw [Option.filter_some, hm, Bool.or_true]
  rfl

/-- What the mode for the content of an element comes from. -/
theorem modeOf?_cases (h : modeOf? (tag :: above) = some m) :
    (above = [] ∧ m = .afterHead) ∨ (above ≠ [] ∧ ownMode? tag.name = some m) ∨
    (∃ outer, modeOf? above = some outer ∧ m = outer.forOptions) ∨
    (ownMode? tag.name = none ∧ (tag.name == "select") = false ∧ modeOf? above = some m ∧
      (m.holdsBody || m.holdsOptions)) := by
  cases above with
  | nil => exact .inl ⟨rfl, (Option.some.inj h).symm⟩
  | cons parent rest =>
    rw [modeOf?] at h
    cases hown : ownMode? tag.name with
    | some own =>
      rw [hown] at h
      exact .inr (.inl ⟨nofun, h⟩)
    | none =>
      rw [hown] at h
      cases hselect : tag.name == "select" with
      | true =>
        simp only [hselect, if_true] at h
        obtain ⟨outer, houter, hm⟩ := Option.map_eq_some_iff.1 h
        exact .inr (.inr (.inl ⟨outer, houter, hm.symm⟩))
      | false =>
        simp only [hselect, Bool.false_eq_true, if_false] at h
        obtain ⟨hsame, hshared⟩ := Option.filter_eq_some_iff.1 h
        exact .inr (.inr (.inr ⟨rfl, rfl, hsame, hshared⟩))

theorem holdsOptions_forOptions (outer : Mode) : outer.forOptions.holdsOptions := by
  cases outer <;> rfl

/-- Text between the parts of a table is held back. -/
theorem foster_of_holdsParts (h : modeOf? (tag :: above) = some m) (hm : m.holdsParts) :
    fosterNames.contains tag.name := by
  have hall : ∀ entry ∈ ownModes, entry.2.holdsParts → fosterNames.contains entry.1 := by
    decide
  have hnot : (m.holdsBody || m.holdsOptions) = false ∧ m ≠ .afterHead := by
    cases m <;> first | exact ⟨rfl, by decide⟩ | cases hm
  obtain ⟨-, hroot⟩ | ⟨-, hown⟩ | ⟨outer, -, rfl⟩ | ⟨-, -, -, hshared⟩ := modeOf?_cases h
  · exact absurd hroot hnot.2
  · exact hall _ (mem_ownModes hown) hm
  · rw [holdsOptions_forOptions, Bool.or_true] at hnot
    cases hnot.1
  · rw [hnot.1] at hshared
    cases hshared

end Inside

/-! ## What is written for an element -/

/-- An element of the head fits everywhere, and is empty or raw text. -/
theorem fits_of_mem_headNames {tag : Tag} (hname : tag.name ∈ headNames) (above : List Tag) :
    tag.fits above ∧ (startRule tag.name).filling ≠ .nodes := by
  have hall : ∀ n ∈ headNames, startRule n = .void ∨ startRule n = .raw .escapable ∨
      startRule n = .raw .script ∨ startRule n = .raw .verbatim := by
    decide
  rw [Tag.fits]
  obtain hrule | hrule | hrule | hrule := hall tag.name hname <;> rw [hrule] <;> exact ⟨rfl, nofun⟩

/-- What an element holds says how the element is written. -/
structure Filling.Describes (f : Filling) (name : String) : Prop where
  void : voidNames.contains name = (f == .nothing)
  rawText : rawTextNames.contains name = f.rawText?.any (· != .escapable)
  rule : (startRule name).rawText? = f.rawText?

instance (f : Filling) (name : String) : Decidable (f.Describes name) :=
  decidable_of_iff
    (voidNames.contains name = (f == .nothing) ∧
      rawTextNames.contains name = f.rawText?.any (· != .escapable) ∧
      (startRule name).rawText? = f.rawText?)
    ⟨fun ⟨hvoid, hraw, hrule⟩ => ⟨hvoid, hraw, hrule⟩, fun h => ⟨h.void, h.rawText, h.rule⟩⟩

theorem StartRule.describes_filling {name : String} (h : startRule name ≠ .stray) :
    (startRule name).filling.Describes name := by
  have hdescribes := describes_startRule h
  have hvoid : (startRule name).isVoid = ((startRule name).filling == .nothing) := by
    cases startRule name <;> rfl
  have hraw : (startRule name).filling.rawText? = (startRule name).rawText? := by
    cases startRule name <;> rfl
  exact {
    void := hdescribes.void.trans hvoid
    rawText := by rw [hdescribes.rawText, hraw]
    rule := hraw.symm }

/-- What may stand in a `select` element. -/
theorem optionFilling_cases {tag : Tag} {above : List Tag} {f : Filling}
    (h : tag.optionFilling? above = some f) :
    (tag.name = "script" ∧ f = .raw .script) ∨
    (tag.name = "option" ∧ currentAmong ["option"] above = false ∧ f = .nodes) ∨
    (tag.name = "optgroup" ∧ currentAmong ["option", "optgroup"] above = false ∧ f = .nodes) ∨
    (tag.name = "hr" ∧ currentAmong ["option", "optgroup"] above = false ∧ f = .nothing) := by
  unfold Tag.optionFilling? at h
  split_ifs at h with hscript hoption hcurrent hgroup hline <;> cases h
  · exact .inl ⟨beq_iff_eq.1 hscript, rfl⟩
  · rw [Bool.and_eq_true, beq_iff_eq, Bool.not_eq_true'] at hoption
    exact .inr (.inl ⟨hoption.1, hoption.2, rfl⟩)
  · exact .inr (.inr (.inl ⟨beq_iff_eq.1 hgroup, Bool.eq_false_iff.2 hcurrent, rfl⟩))
  · exact .inr (.inr (.inr ⟨beq_iff_eq.1 hline, Bool.eq_false_iff.2 hcurrent, rfl⟩))

theorem describes_optionFilling {tag : Tag} {above : List Tag} {f : Filling}
    (h : tag.optionFilling? above = some f) : f.Describes tag.name := by
  obtain ⟨hname, rfl⟩ | ⟨hname, -, rfl⟩ | ⟨hname, -, rfl⟩ | ⟨hname, -, rfl⟩ :=
    optionFilling_cases h <;> rw [hname] <;> decide

/-- What may stand between the parts of a table. -/
theorem partFilling_cases {tag : Tag} {above : List Tag} {m : Mode} {f : Filling}
    (h : tag.partFilling? above m = some f) :
    (tag.name = "script" ∧ f = .raw .script) ∨ (tag.name = "style" ∧ f = .raw .verbatim) ∨
    (tag.name = "input" ∧ Builder.isHidden tag ∧ f = .nothing) ∨
    (∃ part, partOf? tag.name = some part ∧ part.outerMode = m ∧ currentAmong part.holders above ∧
      f = .nodes) := by
  unfold Tag.partFilling? at h
  split_ifs at h with hscript hstyle hinput
  · exact .inl ⟨beq_iff_eq.1 hscript, (Option.some.inj h).symm⟩
  · exact .inr (.inl ⟨beq_iff_eq.1 hstyle, (Option.some.inj h).symm⟩)
  · rw [Bool.and_eq_true, beq_iff_eq] at hinput
    exact .inr (.inr (.inl ⟨hinput.1, hinput.2, (Option.some.inj h).symm⟩))
  · split at h
    · next part hpart =>
      obtain ⟨⟨hmode, hcurrent⟩, hf⟩ := Option.ite_none_right_eq_some.1 h
      exact .inr (.inr (.inr ⟨part, hpart, hmode, hcurrent, (Option.some.inj hf).symm⟩))
    · cases h

theorem describes_part {name : String} {part : Part} (h : partOf? name = some part) :
    Filling.nodes.Describes name := by
  have hall : ∀ n ∈ partNames, Filling.nodes.Describes n := by decide
  exact hall name (mem_partNames h)

theorem describes_partFilling {tag : Tag} {above : List Tag} {m : Mode} {f : Filling}
    (h : tag.partFilling? above m = some f) : f.Describes tag.name := by
  obtain ⟨hname, rfl⟩ | ⟨hname, rfl⟩ | ⟨hname, -, rfl⟩ | ⟨part, hpart, -, -, rfl⟩ :=
    partFilling_cases h
  · rw [hname]
    decide
  · rw [hname]
    decide
  · rw [hname]
    decide
  · exact describes_part hpart

theorem describes_filling {tag : Tag} {above : List Tag} {f : Filling}
    (h : tag.filling? above = some f) : f.Describes tag.name := by
  obtain ⟨m, -, h⟩ := Option.bind_eq_some_iff.1 h
  cases m with
  | inBody | inCell | inCaption =>
    obtain ⟨hfits, ⟨⟩⟩ := Option.ite_none_right_eq_some.1 h
    exact StartRule.describes_filling (ne_stray_of_fits hfits)
  | inHead =>
    obtain ⟨hname, ⟨⟩⟩ := Option.ite_none_right_eq_some.1 h
    have hfits := (fits_of_mem_headNames (List.contains_iff_mem.1 hname) above).1
    exact StartRule.describes_filling (ne_stray_of_fits hfits)
  | inColumnGroup =>
    obtain ⟨hname, ⟨⟩⟩ := Option.ite_none_right_eq_some.1 h
    rw [beq_iff_eq.1 hname]
    decide
  | inSelect | inSelectInTable => exact describes_optionFilling h
  | inTable | inTableBody | inRow => exact describes_partFilling h
  | _ => cases h

end StaticSite.Html
