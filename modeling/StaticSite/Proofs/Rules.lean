/-
  The rules for tags in the body, and the tags that fit.

  A start tag may close other elements before it opens its own, and an end tag may close
  more than one element or none.  The rule for a tag is found from its name (`startRule`,
  `endRule`), so that what the rules say of a name is decided rule by rule.  Each rule asks
  something of the elements above: a start tag that fits closes none of them and opens no
  element but its own (`Tag.fits`).
-/

import StaticSite.Html.Builder.Document
import StaticSite.Html.Render

namespace StaticSite.Html

/-! ## The rules for start tags in the body -/

/-- Elements that shield the formatting elements around them, parts of tables among them. -/
def markerNames : List String := ["caption", "td", "th"] ++ shieldNames

/-- Formatting elements, those with rules of their own among them. -/
def listedNames : List String := "a" :: "nobr" :: formattingNames

/-- How a start tag is handled in the body. -/
inductive StartRule where
  | block
  | heading
  | preformatted
  | form
  | item
  | button
  | anchor
  | formatting
  | nobr
  | shield
  | option
  | ruby
  | ordinary
  | void
  /-- Void elements that continue open formatting. -/
  | inlineVoid
  /-- A line across the page. -/
  | line
  | raw (kind : RawText)
  | frame
  | textarea
  | xmp
  | table
  | select
  /-- Anything that is not opened where it stands. -/
  | stray
  deriving DecidableEq, Repr

def startRule (name : String) : StartRule :=
  if blockNames.contains name then .block
  else if name == "html" then .stray
  else if headContentNames.contains name then
    if headVoidNames.contains name then .void
    else if name == "title" then .raw .escapable
    else if name == "script" then .raw .script
    else if name == "template" then .stray
    else .raw .verbatim
  else if name == "body" then .stray
  else if name == "frameset" then .stray
  else if headingNames.contains name then .heading
  else if name == "pre" || name == "listing" then .preformatted
  else if name == "form" then .form
  else if name == "li" || name == "dd" || name == "dt" then .item
  else if name == "plaintext" then .stray
  else if name == "button" then .button
  else if name == "a" then .anchor
  else if formattingNames.contains name then .formatting
  else if name == "nobr" then .nobr
  else if shieldNames.contains name then .shield
  else if name == "table" then .table
  else if bodyVoidNames.contains name then .inlineVoid
  else if name == "image" then .stray
  else if ["param", "source", "track"].contains name then .void
  else if name == "hr" then .line
  else if name == "textarea" then .textarea
  else if name == "xmp" then .xmp
  else if name == "iframe" then .frame
  else if name == "noembed" || name == "noscript" then .raw .verbatim
  else if name == "select" then .select
  else if name == "optgroup" || name == "option" then .option
  else if ["rb", "rtc", "rp", "rt"].contains name then .ruby
  else if name == "math" then .stray
  else if name == "svg" then .stray
  else if tablePartNames.contains name then .stray
  else .ordinary

namespace StartRule

/-- What a rule makes of a tag. -/
def apply (b : Builder) (tag : Tag) : StartRule → Builder
  | .block => b.closeParagraphInScope.insertHtml tag
  | .heading =>
    let b := b.closeParagraphInScope
    (if b.currentIn headingNames then b.pop else b).insertHtml tag
  | .preformatted =>
    { (b.closeParagraphInScope.insertHtml tag).forbidFrameset with skipNewline := true }
  | .form => b.openForm tag
  | .item => b.openListItem tag
  | .button => b.openButton tag
  | .anchor => b.closeOpenAnchor.reopenFormatting.openFormatting tag
  | .formatting => b.reopenFormatting.openFormatting tag
  | .nobr => b.openNobr tag
  | .shield => (b.reopenFormatting.insertHtml tag).pushMarker.forbidFrameset
  | .option => (if b.currentIs "option" then b.pop else b).reopenFormatting.insertHtml tag
  | .ruby => b.openRuby tag
  | .ordinary => b.reopenFormatting.insertHtml tag
  | .void => b.insertVoid tag
  | .inlineVoid => b.bodyVoid tag
  | .line => (b.closeParagraphInScope.insertVoid tag).forbidFrameset
  | .raw kind => b.insertRaw tag kind
  | .frame => b.forbidFrameset.insertRaw tag .verbatim
  | .textarea => { (b.insertRaw tag .escapable).forbidFrameset with skipNewline := true }
  | .xmp => b.closeParagraphInScope.reopenFormatting.forbidFrameset.insertRaw tag .verbatim
  | .table => b.openTable tag
  | .select => b.openSelect tag
  | .stray => b

/-- The raw text that an element holds. -/
def rawText? : StartRule → Option RawText
  | .raw kind => some kind
  | .frame | .xmp => some .verbatim
  | .textarea => some .escapable
  | _ => none

/-- Whether the element is closed at once. -/
def isVoid : StartRule → Bool
  | .void | .inlineVoid | .line => true
  | _ => false

/-- Whether a line feed that comes next is dropped. -/
def skips : StartRule → Bool
  | .preformatted | .textarea => true
  | _ => false

/-- Whether the element is a formatting element. -/
def isListed : StartRule → Bool
  | .anchor | .formatting | .nobr => true
  | _ => false

/-- Whether the element leaves no traces but itself and its children. -/
def isPlain : StartRule → Bool
  | .anchor | .formatting | .nobr | .shield | .form | .stray => false
  | _ => true

end StartRule

/-- Whether a step is what a rule makes of a tag. -/
def StartRule.Yields (b : Builder) (tag : Tag) (r : StartRule) (step : Step) : Prop :=
  r ≠ .stray → step = .done (r.apply b tag)

theorem StartRule.yields_ite {b : Builder} {tag : Tag} {p : Prop} [Decidable p]
    {first other : StartRule} {step next : Step} (h : first.Yields b tag step)
    (hnext : other.Yields b tag next) :
    (if p then first else other).Yields b tag (if p then step else next) := by
  by_cases hp : p
  · rw [if_pos hp, if_pos hp]
    exact h
  · rw [if_neg hp, if_neg hp]
    exact hnext

theorem Builder.bodyStart_eq (b : Builder) (tag : StartTag) (h : startRule tag.name ≠ .stray) :
    b.bodyStart tag = .done ((startRule tag.name).apply b tag.toTag) := by
  -- The two chains of conditions are the same, so they are gone through side by side.
  have hyields : (startRule tag.name).Yields b tag.toTag (b.bodyStart tag) := by
    unfold bodyStart startRule headContent
    repeat first
      | exact fun _ => rfl
      | exact fun hstray => absurd rfl hstray
      | refine StartRule.yields_ite ?_ ?_
  exact hyields h

/-- The elements that may stand in the head, where the same rules hold for them. -/
def headNames : List String :=
  headVoidNames ++ ["title", "script", "style", "noscript", "noframes"]

/-! ## What a rule says of a name -/

/-- The names with a rule of their own. -/
def ruledNames : List String :=
  blockNames ++ headContentNames ++ headingNames ++ formattingNames ++ shieldNames ++
    bodyVoidNames ++ tablePartNames ++
    ["html", "body", "frameset", "pre", "listing", "form", "li", "dd", "dt", "plaintext", "button",
     "a", "nobr", "table", "image", "param", "source", "track", "hr", "textarea", "xmp", "iframe",
     "noembed", "noscript", "select", "optgroup", "option", "rb", "rtc", "rp", "rt", "math", "svg"]

theorem startRule_of_not_mem {name : String} (h : name ∉ ruledNames) :
    startRule name = .ordinary := by
  simp only [ruledNames, List.mem_append, List.mem_cons, List.not_mem_nil, or_false, not_or] at h
  simp [startRule, h]

/-- A rule says which of those classes a name is in that the writing of a document and the rules
for end tags refer to. -/
structure StartRule.Describes (r : StartRule) (name : String) : Prop where
  void : voidNames.contains name = r.isVoid
  rawText : rawTextNames.contains name = r.rawText?.any (· != .escapable)
  skips : newlineDroppingNames.contains name = r.skips
  listed : listedNames.contains name = r.isListed
  marker : markerNames.contains name = (r == .shield)
  form : (name == "form") = (r == .form)
  table : (name == "table") = (r == .table)
  select : (name == "select") = (r == .select)

instance (r : StartRule) (name : String) : Decidable (r.Describes name) :=
  decidable_of_iff
    ((voidNames.contains name = r.isVoid ∧
      rawTextNames.contains name = r.rawText?.any (· != .escapable)) ∧
      (newlineDroppingNames.contains name = r.skips ∧ listedNames.contains name = r.isListed ∧
        markerNames.contains name = (r == .shield)) ∧
      (name == "form") = (r == .form) ∧ (name == "table") = (r == .table) ∧
        (name == "select") = (r == .select))
    ⟨fun ⟨⟨hvoid, hraw⟩, ⟨hskips, hlisted, hmarker⟩, hform, htable, hselect⟩ =>
      ⟨hvoid, hraw, hskips, hlisted, hmarker, hform, htable, hselect⟩,
    fun h => ⟨⟨h.void, h.rawText⟩, ⟨h.skips, h.listed, h.marker⟩, h.form, h.table, h.select⟩⟩

theorem describes_startRule {name : String} (h : startRule name ≠ .stray) :
    (startRule name).Describes name := by
  by_cases hname : name ∈ ruledNames
  · have hall : ∀ n ∈ ruledNames, startRule n = .stray ∨ (startRule n).Describes n := by
      decide +kernel
    exact (hall name hname).resolve_left h
  · -- A name without a rule of its own is in none of the classes.
    have hnone (names : List String) (hnames : ∀ n ∈ names, n ∈ ruledNames) :
        names.contains name = false := by
      rw [List.contains_eq_mem, decide_eq_false_iff_not]
      exact fun hmem => hname (hnames name hmem)
    have hne (other : String) (hother : other ∈ ruledNames) : (name == other) = false := by
      rw [beq_eq_false_iff_ne]
      rintro rfl
      exact hname hother
    rw [startRule_of_not_mem hname]
    exact {
      void := hnone _ (by decide)
      rawText := hnone _ (by decide)
      skips := hnone _ (by decide)
      listed := hnone _ (by decide)
      marker := hnone _ (by decide)
      form := hne _ (by decide)
      table := hne _ (by decide)
      select := hne _ (by decide) }

/-! ## The rules for end tags in the body -/

/-- How an end tag is handled in the body. -/
inductive EndRule where
  | block
  | form
  | paragraph
  | listItem
  | item
  | heading
  | formatting
  | shield
  | ordinary
  /-- End tags of elements that are not in the body, or that have none. -/
  | stray
  deriving DecidableEq, Repr

def endRule (name : String) : EndRule :=
  if blockEndNames.contains name then .block
  else if name == "template" then .stray
  else if name == "body" then .stray
  else if name == "html" then .stray
  else if name == "form" then .form
  else if name == "p" then .paragraph
  else if name == "li" then .listItem
  else if name == "dd" || name == "dt" then .item
  else if headingNames.contains name then .heading
  else if name == "a" || name == "nobr" || formattingNames.contains name then .formatting
  else if shieldNames.contains name then .shield
  else if name == "br" then .stray
  else .ordinary

namespace EndRule

/-- What a rule makes of an end tag. -/
def apply (b : Builder) (name : String) : EndRule → Builder
  | .block => if b.inDefaultScope name then (b.closeImplied impliedEndNames).close name else b
  | .form => b.closeForm
  | .paragraph => (if b.inButtonScope "p" then b else b.insertMissing "p").closeParagraph
  | .listItem => if b.inListItemScope "li" then (b.closeImpliedExcept "li").close "li" else b
  | .item => if b.inDefaultScope name then (b.closeImpliedExcept name).close name else b
  | .heading =>
    if inScope (·.boundsScope scopeNames) (·.isHtmlIn headingNames) b.stack
    then (b.closeImplied impliedEndNames).popThrough (·.isHtmlIn headingNames) else b
  | .formatting => b.closeFormatting name
  | .shield =>
    if b.inDefaultScope name
    then ((b.closeImplied impliedEndNames).close name).clearFormattingToMarker else b
  | .ordinary => b.closeGeneric name
  | .stray => b

/-- Whether a step is what a rule makes of an end tag. -/
def Yields (b : Builder) (name : String) (r : EndRule) (step : Step) : Prop :=
  r ≠ .stray → step = .done (r.apply b name)

theorem yields_ite {b : Builder} {name : String} {p : Prop} [Decidable p] {first other : EndRule}
    {step next : Step} (h : first.Yields b name step) (hnext : other.Yields b name next) :
    (if p then first else other).Yields b name (if p then step else next) := by
  by_cases hp : p
  · rw [if_pos hp, if_pos hp]
    exact h
  · rw [if_neg hp, if_neg hp]
    exact hnext

/-- Whether the start tag with the name opens what the rule closes. -/
def suits (name : String) : EndRule → Bool
  | .block => (startRule name).isPlain && !impliedEndNames.contains name
  | .heading =>
    (startRule name).isPlain && !impliedEndNames.contains name && headingNames.contains name
  | .form => startRule name == .form
  | .paragraph => name == "p"
  | .listItem => name == "li"
  | .item | .ordinary => (startRule name).isPlain
  | .formatting => (startRule name).isListed
  | .shield => startRule name == .shield && !impliedEndNames.contains name
  | .stray => false

end EndRule

theorem Builder.bodyEnd_eq (b : Builder) (name : String) (h : endRule name ≠ .stray) :
    b.bodyEnd name = .done ((endRule name).apply b name) := by
  have hyields : (endRule name).Yields b name (b.bodyEnd name) := by
    unfold bodyEnd endRule
    repeat first
      | exact fun _ => rfl
      | exact fun hstray => absurd rfl hstray
      | refine EndRule.yields_ite ?_ ?_
  exact hyields h

theorem endRule_of_not_mem {name : String} (h : name ∉ ruledNames) : endRule name = .ordinary := by
  have hblock : name ∉ blockEndNames := by
    have hall : ∀ n ∈ blockEndNames, n ∈ ruledNames := by decide
    exact fun hmem => h (hall name hmem)
  simp only [ruledNames, List.mem_append, List.mem_cons, List.not_mem_nil, or_false, not_or] at h
  have hbr : name ≠ "br" := by
    rintro rfl
    simp [bodyVoidNames] at h
  have htemplate : name ≠ "template" := by
    rintro rfl
    simp [headContentNames] at h
  have hp : name ≠ "p" := by
    rintro rfl
    simp [blockNames] at h
  simp [endRule, h, hblock, hbr, htemplate, hp]

theorem suits_endRule {name : String} (hstray : startRule name ≠ .stray)
    (hvoid : (startRule name).isVoid = false) : (endRule name).suits name := by
  by_cases hname : name ∈ ruledNames
  · have hall : ∀ n ∈ ruledNames, startRule n = .stray ∨ (startRule n).isVoid ∨
        (endRule n).suits n := by
      decide +kernel
    exact ((hall name hname).resolve_left hstray).resolve_left (by rw [hvoid]; nofun)
  · rw [endRule_of_not_mem hname]
    show (startRule name).isPlain = true
    rw [startRule_of_not_mem hname]
    rfl

/-! ## Tags that fit -/

/-- An open element: its node and its tag. -/
def openOf (e : Nat × Tag) : OpenElement := { id := e.1, space := .html, name := e.2.name }

/-- Whether an element of this name is found among the elements above before one that bounds the
search. -/
def scopeHas (bounds : List String) (name : String) (above : List Tag) : Bool :=
  inScope (·.boundsScope bounds) (·.isHtml name) (above.map fun tag => openOf (0, tag))

/-- Whether a paragraph above would be closed by a block. -/
def paragraphAbove (above : List Tag) : Bool := scopeHas buttonScopeNames "p" above

/-- The formatting elements above that nothing shields. -/
def listedAbove (above : List Tag) : List Tag :=
  (above.takeWhile (!markerNames.contains ·.name)).filter (listedNames.contains ·.name)

/-- Whether one more formatting element like these may stand beside them. -/
def fewAlike (above : List Tag) (tag : Tag) : Bool :=
  decide (((listedAbove above).filter (Formatting.sameTag tag)).length < 3)

/-- The items that an item closes. -/
def itemNames (name : String) : List String := if name == "li" then ["li"] else ["dd", "dt"]

/-- The elements that ruby text closes. -/
def rubyEndNames (name : String) : List String :=
  if ["rp", "rt"].contains name then impliedEndNames.filter (· != "rtc") else impliedEndNames

/-- Whether a start tag closes none of the elements above, and opens no others. -/
def Tag.fits (above : List Tag) (tag : Tag) : Bool :=
  match startRule tag.name with
  | .block | .preformatted | .line | .xmp | .table => !paragraphAbove above
  | .heading => !paragraphAbove above && !above.head?.any (headingNames.contains ·.name)
  | .form => !paragraphAbove above && above.all (·.name != "form")
  | .item =>
    (Builder.openItem? (itemNames tag.name) (above.map fun tag => openOf (0, tag))).isNone &&
      !paragraphAbove above
  | .button => !scopeHas scopeNames "button" above
  | .anchor => (listedAbove above).all (·.name != "a") && fewAlike above tag
  | .formatting => fewAlike above tag
  | .nobr => !scopeHas scopeNames "nobr" above && fewAlike above tag
  | .option => !above.head?.any (·.name == "option")
  | .ruby =>
    !scopeHas scopeNames "ruby" above ||
      !above.head?.any ((rubyEndNames tag.name).contains ·.name)
  | .shield | .ordinary | .void | .inlineVoid | .raw _ | .frame | .textarea | .select => true
  | .stray => false

end StaticSite.Html
