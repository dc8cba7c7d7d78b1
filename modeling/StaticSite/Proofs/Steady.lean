/-
  Trees that are read back as they are written.

  A tree is steady if each of its tags fits where it stands, its names, values, texts and
  comments are read as they are written, and no two texts stand side by side
  (`Node.isSteady`).  A reader that comes to a steady tree grafts it
  below the current element and goes on behind it, by induction on the tree
  (`Builder.Inside.run_node`).
-/

import StaticSite.Proofs.Tokens

namespace StaticSite.Html

/-! ## Steady trees -/

/-- Whether the content of an element with raw text is read as it was written. -/
def isRawContent (name : String) (kind : RawText) : List Node → Bool
  | [] => true
  | [.text s] =>
    s != "" && s.toList.all isKept &&
      (kind == .escapable || isRawText name (kind == .script) s.toList)
  | _ => false

namespace Node

def isScript : Node → Bool
  | .element tag _ => tag.name == "script"
  | _ => false

/-- Whether a node is a text with a byte order mark in front. -/
def startsWithMark : Node → Bool
  | .text s => s.toList.head? == some '\ufeff'
  | _ => false

/-- Whether a node stays apart from the one before it: a text would join a text, and lose its byte
order mark behind a script. -/
def mayFollow (n next : Node) : Bool :=
  !(n.isText && next.isText) && !(n.isScript && next.startsWithMark)

mutual

/-- Whether a node is read back as it is written, below the given elements. -/
def isSteady (above : List Tag) : Node → Bool
  | .doctype _ => false
  | .comment s => isCommentText s
  | .text s =>
    s != "" && s.toList.all isKept && (modeOf? above).any fun m => s.toList.all (m.takes ·)
  | .element tag children =>
    tag.isLegible &&
      match tag.filling? above with
      | some .nothing => children.isEmpty
      | some (.raw kind) => isRawContent tag.name kind children
      | some .nodes => areSteady (tag :: above) children
      | none => false

/-- Whether siblings are read back as they are written. -/
def areSteady (above : List Tag) : List Node → Bool
  | [] => true
  | n :: rest => n.isSteady above && rest.head?.all (mayFollow n) && areSteady above rest

end

end Node

/-! ## Going on behind a piece -/

namespace Builder

/-- Behind a piece of text the reader is in content again, with a builder that is as it should. -/
def Passes (b : Builder) (piece rest : List Char) (good : Builder → Prop) : Prop :=
  ∀ last, ∃ next last', (Reader.midway .data b last).run (piece ++ rest) =
    (Reader.midway .data next last').run rest ∧ good next

theorem Passes.append {b : Builder} {piece more rest : List Char} {good better : Builder → Prop}
    (h : b.Passes piece (more ++ rest) good)
    (hmore : ∀ b, good b → b.Passes more rest better) : b.Passes (piece ++ more) rest better := by
  intro last
  obtain ⟨b₁, last₁, hrun, hgood⟩ := h last
  obtain ⟨b₂, last₂, hrun', hbetter⟩ := hmore b₁ hgood last₁
  exact ⟨b₂, last₂, by rw [List.append_assoc, hrun, hrun'], hbetter⟩

theorem Passes.mono {b : Builder} {piece rest : List Char} {good better : Builder → Prop}
    (h : b.Passes piece rest good) (hmono : ∀ b, good b → better b) :
    b.Passes piece rest better := by
  intro last
  obtain ⟨b₁, last₁, hrun, hgood⟩ := h last
  exact ⟨b₁, last₁, hrun, hmono b₁ hgood⟩

/-- Nothing is a piece of text too. -/
theorem passes_nil {b : Builder} (rest : List Char) {good : Builder → Prop} (h : good b) :
    b.Passes [] rest good := fun last => ⟨b, last, rfl, h⟩

end Builder

namespace Reader

variable {state : State} {b : Builder} {last : String}

theorem emitTag_start (tag : Tag) :
    (midway state b last).emitTag { isEnd := false, name := tag.name, attrs := tag.attrs } =
      midway (stateFor (b.accept (.startTag { toTag := tag })).rawText?)
        { b.accept (.startTag { toTag := tag }) with rawText? := none } tag.name := rfl

theorem emitTag_end (name : String) :
    (midway state b last).emitTag { isEnd := true, name } =
      { midway .data (b.accept (.endTag name)) last with
        atChunkStart := b.mode == .text && name == "script" } := rfl

/-- Where a byte order mark would be dropped nothing else is. -/
theorem run_chunkStart {atChunkStart : Bool} {c : Char} {rest : List Char}
    (h : atChunkStart = true → c ≠ '\ufeff') :
    { midway state b last with atChunkStart }.run (c :: rest) =
      (midway state b last).run (c :: rest) := by
  have hstep : { midway state b last with atChunkStart }.step c = (midway state b last).step c := by
    cases atChunkStart with
    | false => rfl
    | true =>
      show (if c == '\ufeff' then _ else _) = _
      rw [beq_eq_false_iff_ne.2 (h rfl)]
      rfl
  rw [run_cons, run_cons, hstep]

end Reader

/-! ## Elements -/

theorem isTagName_of_isLegible {tag : Tag} (h : tag.isLegible) : isTagName tag.name := by
  rw [Tag.isLegible, Bool.and_eq_true, Bool.and_eq_true] at h
  exact h.1.1

/-- An element that holds nodes is written with an end tag, and is no script. -/
theorem renderEnd_of_nodes {tag : Tag} {above : List Tag} (hfill : tag.filling? above = some .nodes) :
    tag.renderEnd = "</" ++ tag.name ++ ">" ∧ (tag.name == "script") = false := by
  have hdescribes := describes_filling hfill
  have hscript : tag.name ≠ "script" := fun hname => by
    have hrule := hdescribes.rule
    rw [hname] at hrule
    cases hrule
  rw [Tag.renderEnd, Tag.isVoid, hdescribes.void]
  exact ⟨rfl, beq_eq_false_iff_ne.2 hscript⟩

namespace Builder.Inside

open Reader

variable {b : Builder} {m : Mode} {s : Bool} {a : Arena} {e : Nat × Tag} {tag : Tag}
  {path : List (Nat × Tag)}

theorem withoutRaw (h : b.Inside m s a path) : { b with rawText? := none } = b := by
  rw [← h.rawText_eq]

/-- The line feed that is written after a start tag is dropped, and no other. -/
theorem run_leadingNewline (h : b.Inside m (newlineDroppingNames.contains tag.name) a path)
    (escapable : Bool) (last : String) (children : List Node) :
    ∃ next s', (midway (textState escapable) b last).run (tag.leadingNewline children).toList =
        midway (textState escapable) next last ∧
      next.Inside m s' a path ∧ next.returnMode = b.returnMode ∧
      (s' = true → startsWithNewline children = false) := by
  unfold Tag.leadingNewline
  cases hdrops : newlineDroppingNames.contains tag.name with
  | false =>
    rw [hdrops] at h
    exact ⟨b, false, rfl, h, rfl, nofun⟩
  | true =>
    rw [hdrops] at h
    cases hline : startsWithNewline children with
    | false => exact ⟨b, true, rfl, h, rfl, fun _ => rfl⟩
    | true =>
      have hdropped : b.accept (.char '\n') = { b with skipNewline := false } := if_pos h.skips_eq
      refine ⟨{ b with skipNewline := false }, false, ?_, h.noSkip, rfl, nofun⟩
      rw [← hdropped]
      cases escapable <;> rfl

end Builder.Inside

namespace Builder.Ready

open Reader

variable {b : Builder} {m : Mode} {s : Bool} {a : Arena} {e : Nat × Tag} {tag : Tag}
  {path : List (Nat × Tag)}

/-- The start tag of an element with content. -/
theorem run_start (h : b.Ready m s a (e :: path))
    (hmode : modeOf? ((e :: path).map (·.2)) = some m) (htag : tag.isLegible)
    (hfill : tag.filling? ((e :: path).map (·.2)) = some .nodes) (children : List Node)
    (rest : List Char) :
    b.Passes (tag.renderStart children).toList rest fun next =>
      ∃ inner s', modeOf? (((a.next, tag) :: e :: path).map (·.2)) = some inner ∧
        next.Inside inner s' (a.opened e.1 tag) ((a.next, tag) :: e :: path) ∧
        (s' = true → startsWithNewline children = false) := by
  obtain ⟨now, hnow, haccept⟩ := h.accept_eq
  obtain ⟨opened, hrule, inner, hinner, hopened⟩ := hnow.start_nodes hmode hfill
  obtain ⟨next, s', hnewline, hinside, -, hline⟩ :=
    hopened.run_leadingNewline false tag.name children
  intro last
  refine ⟨next, tag.name, ?_, inner, s', hinner, hinside, hline⟩
  have htext : (tag.renderStart children).toList = ("<" ++ tag.name ++
      String.join (tag.attrs.map Attribute.render) ++ ">").toList ++
        (tag.leadingNewline children).toList := String.toList_append
  rw [htext, List.append_assoc, run_append, run_startTag htag, emitTag_start,
    haccept _ _ rfl hrule, hopened.rawText_eq, hopened.withoutRaw, run_append]
  exact congrArg (Reader.run · rest) hnewline

/-- The end tag of the current element. -/
theorem run_end (h : b.Ready m s a (e :: path))
    (hmode : modeOf? ((e :: path).map (·.2)) = some m) (htag : e.2.isLegible)
    (hfill : e.2.filling? (path.map (·.2)) = some .nodes) (rest : List Char) :
    b.Passes e.2.renderEnd.toList rest fun next =>
      ∃ outer, modeOf? (path.map (·.2)) = some outer ∧ next.Inside outer false a path := by
  obtain ⟨now, hnow, haccept⟩ := h.accept_eq
  obtain ⟨closed, outer, hrule, houter, hclosed⟩ := hnow.end_nodes hmode hfill
  obtain ⟨htext, hscript⟩ := renderEnd_of_nodes hfill
  intro last
  refine ⟨closed, last, ?_, outer, houter, hclosed⟩
  rw [htext, run_append, run_endTag (isTagName_of_isLegible htag), emitTag_end,
    haccept _ _ rfl hrule, hscript, Bool.and_false]
  rfl

/-- An element that holds nothing is its start tag. -/
theorem run_void (h : b.Ready m s a (e :: path))
    (hmode : modeOf? ((e :: path).map (·.2)) = some m) (htag : tag.isLegible)
    (hfill : tag.filling? ((e :: path).map (·.2)) = some .nothing) (rest : List Char) :
    b.Passes ((Node.element tag []).render false).toList rest fun next =>
      next.Inside m false (a.graft e.1 [.element tag []]) (e :: path) := by
  obtain ⟨now, hnow, haccept⟩ := h.accept_eq
  obtain ⟨opened, hrule, hopened⟩ := hnow.start_nothing hmode hfill
  have hlt : e.1 < a.next := h.lt
  have hnewline : tag.leadingNewline [] = "" := by
    show (if newlineDroppingNames.contains tag.name && false then _ else _) = _
    rw [Bool.and_false]
    rfl
  have hvoid : tag.isVoid = true := (describes_filling hfill).void
  have htext : ((Node.element tag []).render false).toList = ("<" ++ tag.name ++
      String.join (tag.attrs.map Attribute.render) ++ ">").toList := by
    rw [Node.render, Tag.renderStart, hnewline, Tag.renderEnd, hvoid, Node.renderAll]
    simp
  rw [Arena.opened_eq_graft hlt] at hopened
  intro last
  refine ⟨_, tag.name, ?_, hopened⟩
  rw [htext, run_append, run_startTag htag, emitTag_start, haccept _ _ rfl hrule,
    hopened.rawText_eq, hopened.withoutRaw]
  rfl

end Builder.Ready

/-! ## Raw text -/

/-- The characters of the content of an element with raw text. -/
def rawChars : List Node → List Char
  | [.text s] => s.toList
  | _ => []

theorem renderAll_rawChars {name : String} {kind : RawText} {children : List Node}
    (h : isRawContent name kind children) (raw : Bool) :
    (Node.renderAll raw children).toList =
      if raw then rawChars children else (rawChars children).flatMap (escapeChar .content) := by
  unfold isRawContent at h
  split at h
  · cases raw <;> rfl
  · next s => cases raw <;> simp [Node.renderAll, Node.render, renderText, rawChars, escape]
  · cases h

theorem isKept_iff {c : Char} : isKept c ↔ c ≠ '\x00' ∧ c ≠ '\r' := by
  simp [isKept]

theorem isKept_rawChars {name : String} {kind : RawText} {children : List Node}
    (h : isRawContent name kind children) : (∀ c ∈ rawChars children, isKept c) ∧
      (kind ≠ .escapable → isRawText name (kind == .script) (rawChars children)) := by
  unfold isRawContent at h
  split at h
  · refine ⟨nofun, fun _ => isRawText_iff.2 ⟨fun hend => ?_, fun _ hesc => ?_⟩⟩
    · cases List.infix_nil.1 hend
    · cases List.infix_nil.1 hesc
  · next s =>
    rw [Bool.and_eq_true, Bool.and_eq_true, List.all_eq_true, Bool.or_eq_true] at h
    refine ⟨h.1.2, fun hne => h.2.resolve_left ?_⟩
    rw [beq_iff_eq]
    exact hne
  · cases h

/-- The elements with raw text. -/
def rawNames : List String :=
  ["title", "script", "style", "noframes", "textarea", "xmp", "iframe", "noembed", "noscript"]

/-- Their names are small letters. -/
theorem isAlpha_rawNames :
    ∀ name ∈ rawNames, name.toList.all fun c => c.isAlpha && c.toLower == c := by
  decide

theorem isAlpha_of_rawText {name : String} {kind : RawText}
    (h : (startRule name).rawText? = some kind) :
    name ≠ "" ∧ ∀ c ∈ name.toList, c.isAlpha ∧ c.toLower = c := by
  have hmem : name ∈ rawNames := by
    by_cases hname : name ∈ ruledNames
    · have hall : ∀ n ∈ ruledNames, (startRule n).rawText? = none ∨ n ∈ rawNames := by
        decide +kernel
      exact (hall name hname).resolve_left (by rw [h]; nofun)
    · rw [startRule_of_not_mem hname] at h
      cases h
  have hletters := isAlpha_rawNames name hmem
  simp only [List.all_eq_true, Bool.and_eq_true, beq_iff_eq] at hletters
  refine ⟨?_, hletters⟩
  rintro rfl
  cases h

namespace Builder.Inside

open Reader

variable {b : Builder} {m : Mode} {s : Bool} {a : Arena} {e : Nat × Tag} {tag : Tag}
  {path : List (Nat × Tag)}

/-- The content of an element with raw text. -/
theorem accept_rawContent (h : b.Inside .text s (a.opened e.1 tag) ((a.next, tag) :: e :: path))
    (hlt : (e.1 : Nat) < a.next) {kind : RawText} {children : List Node}
    (hcontent : isRawContent tag.name kind children)
    (hline : s = true → startsWithNewline children = false) :
    ∃ s', (b.acceptChars (rawChars children)).Inside .text s'
        (a.graft e.1 [.element tag children]) ((a.next, tag) :: e :: path) ∧
      (b.acceptChars (rawChars children)).returnMode = b.returnMode := by
  unfold isRawContent at hcontent
  split at hcontent
  · rw [Arena.opened_eq_graft hlt] at h
    exact ⟨s, h, rfl⟩
  · next text =>
    rw [Bool.and_eq_true, Bool.and_eq_true, bne_iff_ne] at hcontent
    have hne : text.toList ≠ [] := fun hnil => hcontent.1.1 (String.toList_eq_nil_iff.1 hnil)
    have hhead : s = true → text.toList.head? ≠ some '\n' := fun hs =>
      beq_eq_false_iff_ne.1 (hline hs)
    have hend : (a.opened e.1 tag).endsInText a.next = false := Arena.endsInText_opened hlt tag
    have hinner : a.next < (a.opened e.1 tag).next := h.lt
    have hgrown := Arena.appendChars_eq_graft hinner hend hne
    have haccepted := h.accept_chars hne (fun _ _ => rfl) hhead
    rw [hgrown, String.ofList_toList, Arena.graft_opened hlt] at haccepted
    exact ⟨false, haccepted, h.returnMode_acceptChars hhead⟩
  · cases hcontent

end Builder.Inside

/-- Raw text is kept as its element says, and an element with raw text is none that has no end. -/
theorem rawText_cases {tag : Tag} {kind : RawText} (hstray : startRule tag.name ≠ .stray)
    (hraw : (startRule tag.name).rawText? = some kind) :
    tag.isVoid = false ∧ tag.hasRawText = (kind != .escapable) ∧ kind ≠ .plain ∧
      (kind ≠ .escapable → newlineDroppingNames.contains tag.name = false) := by
  have hdescribes := describes_startRule hstray
  have hkind : kind ≠ .plain := by
    rintro rfl
    have hall : ∀ n ∈ ruledNames, (startRule n).rawText? ≠ some .plain := by decide +kernel
    by_cases hname : tag.name ∈ ruledNames
    · exact hall _ hname hraw
    · rw [startRule_of_not_mem hname] at hraw
      cases hraw
  rw [Tag.isVoid, Tag.hasRawText, hdescribes.void, hdescribes.rawText, hdescribes.skips, hraw]
  refine ⟨?_, rfl, hkind, fun hne => ?_⟩
  · cases hrule : startRule tag.name <;> rw [hrule] at hraw <;> first | rfl | cases hraw
  · cases hrule : startRule tag.name <;> rw [hrule] at hraw <;> cases hraw <;>
      first | rfl | exact absurd rfl hne

namespace Builder.Ready

open Reader

variable {b : Builder} {m : Mode} {s : Bool} {a : Arena} {e : Nat × Tag} {tag : Tag}
  {path : List (Nat × Tag)}

/-- The content of an element with raw text is read up to the end tag. -/
theorem run_rawContent {kind : RawText} {children : List Node}
    (hstray : startRule tag.name ≠ .stray) (hraw : (startRule tag.name).rawText? = some kind)
    (hcontent : isRawContent tag.name kind children) :
    (midway (stateFor (some kind)) b tag.name).run
        ((Node.renderAll tag.hasRawText children).toList ++ ("</" ++ tag.name ++ ">").toList) =
      (midway .data (b.acceptChars (rawChars children)) tag.name).emitTag
        { isEnd := true, name := tag.name } := by
  obtain ⟨-, hhasRaw, hplain, -⟩ := rawText_cases hstray hraw
  have hname := isAlpha_of_rawText hraw
  obtain ⟨hkept, htext⟩ := isKept_rawChars hcontent
  have hnul : ∀ c ∈ rawChars children, c ≠ '\x00' := fun c hc => (isKept_iff.1 (hkept c hc)).1
  rw [renderAll_rawChars hcontent, hhasRaw]
  cases kind with
  | escapable => exact run_escapableText hnul hname
  | verbatim => exact @run_rawText b tag.name false _ hnul (htext nofun) hname
  | script => exact @run_rawText b tag.name true _ hnul (htext nofun) hname
  | plain => exact absurd rfl hplain

/-- An element with raw text is its start tag, the text and the end tag. -/
theorem run_raw (h : b.Ready m s a (e :: path))
    (hmode : modeOf? ((e :: path).map (·.2)) = some m) (htag : tag.isLegible) {kind : RawText}
    (hfill : tag.filling? ((e :: path).map (·.2)) = some (.raw kind))
    {children : List Node} (hcontent : isRawContent tag.name kind children) {c : Char}
    {rest : List Char} (hmark : tag.name = "script" → c ≠ '\ufeff') :
    b.Passes ((Node.element tag children).render false).toList (c :: rest)
      fun next => next.Inside m false (a.graft e.1 [.element tag children]) (e :: path) := by
  have hraw : (startRule tag.name).rawText? = some kind := (describes_filling hfill).rule
  have hstray : startRule tag.name ≠ .stray := fun hrule => by
    rw [hrule] at hraw
    cases hraw
  obtain ⟨hvoid, -, -, hdrops⟩ := rawText_cases hstray hraw
  obtain ⟨now, hnow, haccept⟩ := h.accept_eq
  obtain ⟨opened, hrule, hopened, hkind, hreturn⟩ := hnow.start_raw hmode hfill
  -- Whatever the kind of the text, the reader is behind the start tag and the line feed.
  obtain ⟨next, s', hnewline, hinside, hnext, hline⟩ : ∃ next s',
      (midway (stateFor (some kind)) { opened with rawText? := none } tag.name).run
          (tag.leadingNewline children).toList =
        midway (stateFor (some kind)) next tag.name ∧
      next.Inside .text s' (a.opened e.1 tag) ((a.next, tag) :: e :: path) ∧
      next.returnMode = m ∧ (s' = true → startsWithNewline children = false) := by
    by_cases hescapable : kind = .escapable
    · subst hescapable
      obtain ⟨next, s', hnewline, hinside, hnext, hline⟩ :=
        hopened.run_leadingNewline true tag.name children
      exact ⟨next, s', hnewline, hinside, hnext.trans hreturn, hline⟩
    · rw [hdrops hescapable] at hopened
      refine ⟨_, false, ?_, hopened, hreturn, nofun⟩
      rw [Tag.leadingNewline, hdrops hescapable]
      rfl
  obtain ⟨s'', hfilled, hfilledReturn⟩ := hinside.accept_rawContent h.lt hcontent hline
  have hplain : (startRule tag.name).isPlain := by
    cases hrule : startRule tag.name <;> rw [hrule] at hraw <;> first | rfl | cases hraw
  have hclosed := hfilled.accept_rawEnd hplain tag.name
  rw [hfilledReturn, hnext] at hclosed
  intro last
  refine ⟨_, tag.name, ?_, hclosed⟩
  have htext : ((Node.element tag children).render false).toList =
      ("<" ++ tag.name ++ String.join (tag.attrs.map Attribute.render) ++ ">").toList ++
        ((tag.leadingNewline children).toList ++
          ((Node.renderAll tag.hasRawText children).toList ++
            ("</" ++ tag.name ++ ">").toList)) := by
    rw [Node.render, Tag.renderStart, Tag.renderEnd, hvoid]
    simp
  have hmode : ((next.acceptChars (rawChars children)).mode == .text) = true := by
    rw [hfilled.mode_eq]
    rfl
  rw [htext, List.append_assoc, run_append, run_startTag htag, emitTag_start,
    haccept _ _ rfl hrule, hkind, List.append_assoc, run_append, hnewline, run_append,
    run_rawContent hstray hraw hcontent, emitTag_end, hmode]
  refine run_chunkStart fun hscript => hmark ?_
  exact beq_iff_eq.1 hscript

/-! ### Texts and comments -/

theorem run_text (h : b.Ready m s a (e :: path))
    (hmode : modeOf? ((e :: path).map (·.2)) = some m) {text : String} (hne : text ≠ "")
    (hkept : ∀ c ∈ text.toList, isKept c) (htakes : ∀ c ∈ text.toList, m.takes c)
    (hline : s = true → startsWithNewline [.text text] = false)
    (hend : a.endsInText e.1 = false) (c : Char) (rest : List Char) :
    b.Passes ((Node.text text).render false).toList (c :: rest) fun next =>
      next.Ready m false (a.graft e.1 [.text text]) (e :: path) := by
  have hnul : ∀ c ∈ text.toList, c ≠ '\x00' := fun c hc => (isKept_iff.1 (hkept c hc)).1
  have hne' : text.toList ≠ [] := fun hnil => hne (String.toList_eq_nil_iff.1 hnil)
  have haccepted := (h.inside_of_end hend).accept_text hmode hend hne' htakes
    fun hs => beq_eq_false_iff_ne.1 (hline hs)
  rw [String.ofList_toList] at haccepted
  have htext : ((Node.text text).render false).toList =
      text.toList.flatMap (escapeChar .content) := by
    simp [Node.render, renderText, escape]
  intro last
  refine ⟨_, last, ?_, haccepted⟩
  rw [htext]
  exact run_escape_text false hnul c rest

theorem run_comment (h : b.Ready m s a (e :: path)) (hm : m.keepsComments) {text : String}
    (htext : isCommentText text) (rest : List Char) :
    b.Passes ((Node.comment text).render false).toList rest fun next =>
      next.Inside m false (a.graft e.1 [.comment text]) (e :: path) := by
  obtain ⟨now, hnow, haccept⟩ := h.accept_eq
  obtain ⟨next, hrule, hinside⟩ := hnow.comment hm text
  intro last
  refine ⟨next, last, ?_, hinside⟩
  rw [Node.render, run_append, run_commentText htext, haccept _ _ rfl hrule]

end Builder.Ready

/-! ## Trees -/

theorem render_ne_nil {above : List Tag} {n : Node} (hn : n.isSteady above) :
    (n.render false).toList ≠ [] := by
  cases n with
  | doctype => cases hn
  | comment s => simp [Node.render]
  | element tag children => simp [Node.render, Tag.renderStart]
  | text s =>
    rw [Node.isSteady, Bool.and_eq_true, Bool.and_eq_true, bne_iff_ne] at hn
    obtain ⟨c, cs, hlist⟩ := List.exists_cons_of_ne_nil
      fun hnil => hn.1.1 (String.toList_eq_nil_iff.1 hnil)
    obtain ⟨name, hname, -⟩ | ⟨hself, -⟩ := escapeChar_cases .content c
    · simp [Node.render, renderText, escape, hlist, hname]
    · simp [Node.render, renderText, escape, hlist, hself]

theorem renderAll_cons (n : Node) (more : List Node) : (Node.renderAll false (n :: more)).toList =
    (n.render false).toList ++ (Node.renderAll false more).toList := by
  rw [Node.renderAll, String.toList_append]

/-- What is written for a node begins with no byte order mark unless it is a text that does. -/
theorem head_render_ne {n : Node} (hmark : n.startsWithMark = false) :
    (n.render false).toList.head? ≠ some '\ufeff' := by
  cases n with
  | doctype name => simp [Node.render]
  | comment s => simp [Node.render]
  | element tag children => simp [Node.render, Tag.renderStart]
  | text s =>
    have htext : ((Node.text s).render false).toList =
        s.toList.flatMap (escapeChar .content) := by
      simp [Node.render, renderText, escape]
    have hs : s.toList.head? ≠ some '\ufeff' := beq_eq_false_iff_ne.1 hmark
    rw [htext]
    cases hlist : s.toList with
    | nil => simp
    | cons c cs =>
      rw [hlist] at hs
      rw [List.flatMap_cons]
      obtain ⟨name, hname, -⟩ | ⟨hself, -⟩ := escapeChar_cases .content c
      · rw [hname]
        simp
      · rw [hself]
        exact hs

/-- What comes behind a node and its siblings begins with no byte order mark after a script. -/
theorem exists_next {n : Node} {more : List Node} (hfollow : more.head?.all n.mayFollow)
    (hne : ∀ next ∈ more.head?, (next.render false).toList ≠ []) (rest : List Char) :
    ∃ c tail, (Node.renderAll false more).toList ++ '<' :: rest = c :: tail ∧
      (n.isScript = true → c ≠ '\ufeff') := by
  cases more with
  | nil => exact ⟨'<', rest, rfl, fun _ => by decide⟩
  | cons next others =>
    rw [List.head?_cons, Option.all_some, Node.mayFollow, Bool.and_eq_true, Bool.not_eq_true',
      Bool.not_eq_true'] at hfollow
    rw [Node.renderAll, String.toList_append]
    obtain ⟨c, tail, hc⟩ := List.exists_cons_of_ne_nil (hne next rfl)
    refine ⟨c, _, by rw [hc]; rfl, fun hscript => ?_⟩
    have hmark := head_render_ne (n := next) (by simpa [hscript] using hfollow.2)
    rintro rfl
    exact hmark (by rw [hc]; rfl)

/-- A text that comes behind a node starts anew. -/
theorem endsInText_of_mayFollow {a : Arena} {parent : Nat} (hparent : parent < a.next) {n : Node}
    {more : List Node} (hfollow : more.head?.all n.mayFollow)
    (htext : more.head?.any Node.isText = true) :
    (a.graft parent [n]).endsInText parent = false := by
  rw [Arena.endsInText_graft hparent]
  cases more with
  | nil => cases htext
  | cons next others =>
    rw [List.head?_cons, Option.any_some] at htext
    rw [List.head?_cons, Option.all_some, Node.mayFollow, htext, Bool.and_true, Bool.and_eq_true,
      Bool.not_eq_true'] at hfollow
    exact hfollow.1

namespace Builder.Ready

open Reader

mutual

/-- A steady node is read as it was written. -/
theorem run_node : (n : Node) → {b : Builder} → {m : Mode} → {s : Bool} →
    {a : Arena} → {e : Nat × Tag} → {path : List (Nat × Tag)} → b.Ready m s a (e :: path) →
    modeOf? ((e :: path).map (·.2)) = some m → n.isSteady ((e :: path).map (·.2)) →
    (s = true → startsWithNewline [n] = false) → (n.isText = true → a.endsInText e.1 = false) →
    {c : Char} → {rest : List Char} → (n.isScript = true → c ≠ '\ufeff') →
    b.Passes (n.render false).toList (c :: rest) fun next =>
      next.Ready m false (a.graft e.1 [n]) (e :: path)
  | .doctype _, _, _, _, _, _, _, _, _, hn, _, _, _, _, _ => by cases hn
  | .comment text, b, m, s, a, e, path, h, hmode, hn, _, _, c, rest, _ =>
    (h.run_comment (keepsComments_of_modeOf? hmode) hn _).mono fun _ => .inside
  | .text text, b, m, s, a, e, path, h, hmode, hn, hline, hend, c, rest, _ => by
    rw [Node.isSteady, hmode, Option.any_some, Bool.and_eq_true, Bool.and_eq_true, bne_iff_ne,
      List.all_eq_true, List.all_eq_true] at hn
    obtain ⟨⟨hne, hkept⟩, htakes⟩ := hn
    exact h.run_text hmode hne hkept htakes hline (hend rfl) c rest
  | .element tag children, b, m, s, a, e, path, h, hmode, hn, _, _, c, rest, hmark => by
    rw [Node.isSteady, Bool.and_eq_true] at hn
    obtain ⟨htag, hcontent⟩ := hn
    have hlt : e.1 < a.next := h.lt
    cases hfill : tag.filling? ((e :: path).map (·.2)) with
    | none =>
      rw [hfill] at hcontent
      cases hcontent
    | some f =>
      rw [hfill] at hcontent
      cases f with
      | nothing =>
        obtain rfl := List.isEmpty_iff.1 hcontent
        exact (h.run_void hmode htag hfill _).mono fun _ => .inside
      | raw kind =>
        exact (h.run_raw hmode htag hfill hcontent fun hname => hmark (beq_iff_eq.2 hname)).mono
          fun _ => .inside
      | nodes =>
        obtain ⟨hend, -⟩ := renderEnd_of_nodes hfill
        have hhasRaw : tag.hasRawText = false := (describes_filling hfill).rawText
        have htext : ((Node.element tag children).render false).toList =
            (tag.renderStart children).toList ++
              (Node.renderAll false children).toList ++ tag.renderEnd.toList := by
          rw [Node.render, hhasRaw, String.toList_append, String.toList_append]
        obtain ⟨tail, htail⟩ : ∃ tail, tag.renderEnd.toList ++ c :: rest = '<' :: tail := by
          rw [hend, String.toList_append, String.toList_append]
          exact ⟨_, rfl⟩
        rw [htext, List.append_assoc]
        refine (h.run_start hmode htag hfill children _).append ?_
        rintro b₁ ⟨inner, s₁, hinner, h₁, hline₁⟩
        have hchildren : b₁.Passes (Node.renderAll false children).toList
            ('<' :: tail) fun next => ∃ s', next.Ready inner s'
              ((a.opened e.1 tag).graft a.next children) ((a.next, tag) :: e :: path) :=
          run_nodes children (.inside h₁) hinner hcontent hline₁
            (fun _ => Arena.endsInText_opened hlt tag) tail
        rw [← htail, Arena.graft_opened hlt] at hchildren
        refine hchildren.append ?_
        rintro b₂ ⟨s₂, h₂⟩
        refine (h₂.run_end hinner htag hfill (c :: rest)).mono ?_
        rintro b₃ ⟨outer, houter, h₃⟩
        obtain rfl : outer = m := Option.some.inj (houter.symm.trans hmode)
        exact .inside h₃

/-- Steady siblings are read as they were written. -/
theorem run_nodes : (nodes : List Node) → {b : Builder} → {m : Mode} → {s : Bool} → {a : Arena} →
    {e : Nat × Tag} → {path : List (Nat × Tag)} → b.Ready m s a (e :: path) →
    modeOf? ((e :: path).map (·.2)) = some m → Node.areSteady ((e :: path).map (·.2)) nodes →
    (s = true → startsWithNewline nodes = false) →
    (nodes.head?.any Node.isText = true → a.endsInText e.1 = false) → (rest : List Char) →
    b.Passes (Node.renderAll false nodes).toList ('<' :: rest) fun next =>
      ∃ s', next.Ready m s' (a.graft e.1 nodes) (e :: path)
  | [], b, m, s, a, e, path, h, _, _, _, _, rest => by
    refine passes_nil _ ⟨s, ?_⟩
    rw [Arena.graft_nil]
    exact h
  | n :: more, b, m, s, a, e, path, h, hmode, hn, hline, hend, rest => by
    rw [Node.areSteady, Bool.and_eq_true, Bool.and_eq_true] at hn
    obtain ⟨⟨hfirst, hfollow⟩, hmore⟩ := hn
    have hlineFirst : s = true → startsWithNewline [n] = false := fun hs => by
      have hnodes := hline hs
      cases n <;> exact hnodes
    have hne : ∀ next ∈ more.head?, (next.render false).toList ≠ [] := by
      cases more with
      | nil => nofun
      | cons next others =>
        rw [Node.areSteady, Bool.and_eq_true, Bool.and_eq_true] at hmore
        rintro _ ⟨⟩
        exact render_ne_nil hmore.1.1
    have hlt : e.1 < a.next := h.lt
    obtain ⟨c, tail, htail, hmark⟩ := exists_next hfollow hne rest
    have hrun : b.Passes (n.render false).toList (c :: tail) fun next =>
        next.Ready m false (a.graft e.1 [n]) (e :: path) :=
      run_node n h hmode hfirst hlineFirst (fun htextFirst => hend htextFirst) hmark
    rw [renderAll_cons]
    rw [← htail] at hrun
    refine hrun.append fun b₁ h₁ => ?_
    have hothers : b₁.Passes (Node.renderAll false more).toList ('<' :: rest)
        fun next => ∃ s', next.Ready m s' ((a.graft e.1 [n]).graft e.1 more) (e :: path) :=
      run_nodes more h₁ hmode hmore nofun (endsInText_of_mayFollow hlt hfollow) rest
    rw [Arena.graft_graft hlt, List.singleton_append] at hothers
    exact hothers

end

end Builder.Ready

/-! ## Carriage returns -/

theorem not_mem_escape (place : Place) {cs : List Char} (h : '\r' ∉ cs) :
    '\r' ∉ cs.flatMap (escapeChar place) := by
  rw [List.mem_flatMap]
  rintro ⟨c, hc, hmem⟩
  have hne : c ≠ '\r' := fun heq => h (heq ▸ hc)
  cases place <;> simp only [escapeChar] at hmem <;> split_ifs at hmem <;>
    first | exact hne (List.mem_singleton.1 hmem).symm | exact absurd hmem (by decide)

theorem isNameChar_ne {c : Char} (h : isNameChar c) : c ≠ '\r' := by
  rintro rfl
  exact absurd h (by decide)

theorem not_mem_tagName {name : String} (h : isTagName name) : '\r' ∉ name.toList := by
  unfold isTagName at h
  split at h
  · cases h
  · next c rest hlist =>
    rw [Bool.and_eq_true, Bool.and_eq_true, List.all_eq_true] at h
    rw [hlist, List.mem_cons]
    rintro (rfl | hmem)
    · exact absurd h.1.1 (by decide)
    · exact isNameChar_ne (h.2 _ hmem) rfl

theorem not_mem_attrName {name : String} (h : isAttrName name) : '\r' ∉ name.toList := by
  unfold isAttrName at h
  split at h
  · cases h
  · next c rest hlist =>
    rw [Bool.and_eq_true, List.all_eq_true] at h
    rw [hlist, List.mem_cons]
    rintro (rfl | hmem)
    · exact isNameChar_ne h.1 rfl
    · exact isNameChar_ne (Bool.and_eq_true_iff.1 (h.2 _ hmem)).1 rfl

theorem not_mem_of_isKept {cs : List Char} (h : ∀ c ∈ cs, isKept c) : '\r' ∉ cs :=
  fun hmem => (isKept_iff.1 (h _ hmem)).2 rfl

theorem isKept_of_isCommentRest {read cs : List Char} (h : isCommentRest read cs) :
    ∀ c ∈ cs, isKept c := by
  induction cs generalizing read with
  | nil => nofun
  | cons c rest ih =>
    rw [isCommentRest, Bool.and_eq_true, Bool.and_eq_true] at h
    exact List.forall_mem_cons.2 ⟨h.1.1, ih h.2⟩

theorem not_mem_renderStart {tag : Tag} (h : tag.isLegible) (children : List Node) :
    '\r' ∉ (tag.renderStart children).toList := by
  simp only [Tag.isLegible, Bool.and_eq_true, List.all_eq_true] at h
  obtain ⟨⟨hname, hattrs⟩, -⟩ := h
  have hattr : ∀ attr ∈ tag.attrs, '\r' ∉ attr.render.toList := by
    intro attr hmem
    obtain ⟨hattrName, hvalue⟩ := hattrs attr hmem
    simp [Attribute.render, escape, not_mem_attrName hattrName,
      not_mem_escape .attribute (not_mem_of_isKept hvalue)]
  have hnewline : '\r' ∉ (tag.leadingNewline children).toList := by
    unfold Tag.leadingNewline
    split <;> decide
  have hjoin : '\r' ∉ (String.join (tag.attrs.map Attribute.render)).toList := by
    simpa using hattr
  rw [Tag.renderStart]
  simp only [String.toList_append, List.mem_append, not_or]
  exact ⟨⟨⟨⟨by decide, not_mem_tagName hname⟩, hjoin⟩, by decide⟩, hnewline⟩

theorem not_mem_renderEnd {tag : Tag} (h : tag.isLegible) : '\r' ∉ tag.renderEnd.toList := by
  have hname := not_mem_tagName (isTagName_of_isLegible h)
  unfold Tag.renderEnd
  split
  · decide
  · simp only [String.toList_append, List.mem_append, not_or]
    exact ⟨⟨by decide, hname⟩, by decide⟩

theorem not_mem_comment {s : String} (h : isCommentText s) :
    '\r' ∉ ((Node.comment s).render false).toList := by
  have hs := not_mem_of_isKept (isKept_of_isCommentRest h)
  simp only [Node.render, String.toList_append, List.mem_append, not_or]
  exact ⟨⟨by decide, hs⟩, by decide⟩

theorem not_mem_rawContent {name : String} {kind : RawText} {children : List Node}
    (h : isRawContent name kind children) (raw : Bool) :
    '\r' ∉ (Node.renderAll raw children).toList := by
  have hchars := not_mem_of_isKept (isKept_rawChars h).1
  rw [renderAll_rawChars h]
  split
  · exact hchars
  · exact not_mem_escape .content hchars

mutual

/-- What is written for a steady node has no carriage return. -/
theorem not_mem_render : (n : Node) → {above : List Tag} → n.isSteady above →
    '\r' ∉ (n.render false).toList
  | .doctype _, _, h => by cases h
  | .comment s, _, h => not_mem_comment h
  | .text s, _, h => by
    rw [Node.isSteady, Bool.and_eq_true, Bool.and_eq_true, List.all_eq_true] at h
    have htext := not_mem_escape .content (not_mem_of_isKept h.1.2)
    simpa [Node.render, renderText, escape] using htext
  | .element tag children, above, h => by
    rw [Node.isSteady, Bool.and_eq_true] at h
    obtain ⟨htag, hcontent⟩ := h
    have hinner : '\r' ∉ (Node.renderAll tag.hasRawText children).toList := by
      cases hfill : tag.filling? above with
      | none =>
        rw [hfill] at hcontent
        cases hcontent
      | some f =>
        rw [hfill] at hcontent
        cases f with
        | nothing =>
          obtain rfl := List.isEmpty_iff.1 hcontent
          nofun
        | raw kind => exact not_mem_rawContent hcontent _
        | nodes =>
          have hhasRaw : tag.hasRawText = false := (describes_filling hfill).rawText
          rw [hhasRaw]
          exact not_mem_renderAll children hcontent
    simp only [Node.render, String.toList_append, List.mem_append, not_or]
    exact ⟨⟨not_mem_renderStart htag children, hinner⟩, not_mem_renderEnd htag⟩

theorem not_mem_renderAll : (nodes : List Node) → {above : List Tag} →
    Node.areSteady above nodes → '\r' ∉ (Node.renderAll false nodes).toList
  | [], _, _ => nofun
  | n :: more, above, h => by
    rw [Node.areSteady, Bool.and_eq_true, Bool.and_eq_true] at h
    simp only [Node.renderAll, String.toList_append, List.mem_append, not_or]
    exact ⟨not_mem_render n h.1.1, not_mem_renderAll more h.2⟩

end

end StaticSite.Html
