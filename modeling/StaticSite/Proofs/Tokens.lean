/-
  Tokens that a builder takes.

  A token is taken by the rule that deals with it (`Builder.Inside.accept_eq`).  Between the
  parts of a table blank text is held back until a tag or a comment comes; a builder that
  holds text back takes these as one that has written it (`Builder.Ready.accept_eq`).
  Texts and comments get to the current element, and the tags around the head and the body
  lead from one mode to the next.
-/

import StaticSite.Proofs.Fitting
import StaticSite.Proofs.Spelling

namespace StaticSite.Html

/-- Whether a comment is added to the current element in a mode. -/
def Mode.keepsComments : Mode → Bool
  | .initial | .beforeHtml | .text | .inTableText | .afterBody | .afterAfterBody
  | .afterAfterFrameset => false
  | _ => true

theorem keepsComments_of_modeOf? {above : List Tag} {m : Mode} (h : modeOf? above = some m) :
    m.keepsComments := by
  have hall : ∀ entry ∈ ownModes, entry.2.keepsComments := by decide
  induction above with
  | nil => cases h
  | cons tag above ih =>
    obtain ⟨-, rfl⟩ | ⟨-, hown⟩ | ⟨outer, -, rfl⟩ | ⟨-, -, hsame, -⟩ := modeOf?_cases h
    · rfl
    · exact hall _ (mem_ownModes hown)
    · cases outer <;> rfl
    · exact ih hsame

/-- Whether a comment is added to the document itself in a mode. -/
def Mode.putsCommentsOut : Mode → Bool
  | .initial | .beforeHtml | .afterAfterBody => true
  | _ => false

theorem Arena.next_le_appendChar (a : Arena) (parent : NodeId) (c : Char) :
    (a.next : Nat) ≤ (a.appendChar parent c).next := by
  have hfresh : (a.next : Nat) ≤
      ((a.add (.text (String.singleton c))).attach parent a.next).next := by
    simp [next, add, attach, modify]
  unfold appendChar
  split
  · split
    · simp [next, pushChar, modify]
    · exact hfresh
  · exact hfresh

/-- Tags and comments. -/
def Token.isMarkup : Token → Bool
  | .startTag _ | .endTag _ | .comment _ => true
  | _ => false

namespace Builder

theorem accept_eq_settle (b : Builder) {t : Token} (hline : t = .char '\n' → b.skipNewline = false)
    (hdoctype : ∀ d, t ≠ .doctype d) :
    b.accept t = settle t (b.stack.length + 32) { b with skipNewline := false } := by
  unfold accept
  split
  · rw [hline rfl]
    rfl
  · next d => exact absurd rfl (hdoctype d)
  · rfl

namespace Inside

variable {b : Builder} {m : Mode} {s : Bool} {a : Arena} {e : Nat × Tag} {tag : Tag}
  {path : List (Nat × Tag)}

/-- All open elements are HTML, so every token is handled by the rules of the mode. -/
theorem step_eq (h : b.Inside m s a path) (t : Token) : b.step t = b.rules m t := by
  have hforeign : b.isForeign t = false := by
    rw [isForeign, current?, h.stack_eq]
    cases path with
    | nil => rfl
    | cons => cases t <;> rfl
  rw [step, hforeign, if_neg Bool.false_ne_true, h.mode_eq]

/-- A token that a rule of the mode deals with is dealt with. -/
theorem accept_eq (h : b.Inside m s a path) {t : Token} {next : Builder}
    (hrule : { b with skipNewline := false }.rules m t = .done next)
    (hline : t = .char '\n' → s = false) (hdoctype : ∀ d, t ≠ .doctype d) : b.accept t = next := by
  have hstep := (h.noSkip.step_eq t).trans hrule
  rw [accept_eq_settle b (fun ht => h.skips_eq.trans (hline ht)) hdoctype, settle_done hstep]

/-- The tree may change while the open elements stay. -/
theorem withArena (h : b.Inside m s a path) {grown : Arena} (hle : (a.next : Nat) ≤ grown.next) :
    { b with arena := grown }.Inside m s grown path := by
  refine { h with arena_eq := rfl, rooted := Nat.lt_of_lt_of_le h.rooted hle, ids := ?_ }
  obtain ⟨hfirst, hrest⟩ := List.pairwise_cons.1 h.ids
  exact List.pairwise_cons.2 ⟨fun id hid => Nat.lt_of_lt_of_le (hfirst id hid) hle, hrest⟩

/-! ### Text -/

theorem appendChar (h : b.Inside m s a (e :: path)) (c : Char) :
    (b.appendChar c).Inside m s (a.appendChar e.1 c) (e :: path) := by
  have harena : b.appendChar c = { b with arena := a.appendChar e.1 c } := by
    rw [Builder.appendChar, h.spot_eq, h.arena_eq]
    rfl
  rw [harena]
  exact h.withArena (Arena.next_le_appendChar a e.1 c)

/-- One more character in the current element. -/
theorem accept_char (h : b.Inside m s a (e :: path)) {c : Char} (hkeeps : m.keeps c)
    (hline : s = true → c ≠ '\n') :
    (b.accept (.char c)).Inside m false (a.appendChar e.1 c) (e :: path) := by
  have hskip : Token.char c = .char '\n' → s = false := fun hc => by
    rw [← Bool.not_eq_true]
    exact fun hs => hline hs (Token.char.inj hc)
  have hbody (hnul : (c != '\x00') = true) :
      ∃ next, { b with skipNewline := false }.inBody (.char c) = .done next ∧
        next.Inside m false (a.appendChar e.1 c) (e :: path) := by
    rw [bne, Bool.not_eq_true'] at hnul
    refine ⟨_, by rw [inBody, hnul, if_neg Bool.false_ne_true], ?_⟩
    rw [bodyChar, h.noSkip.reopenFormatting_eq]
    split
    · exact h.noSkip.appendChar c
    · exact h.noSkip.forbidFrameset.appendChar c
  have hselect (hnul : (c != '\x00') = true) :
      { b with skipNewline := false }.inSelect (.char c) =
        .done ({ b with skipNewline := false }.appendChar c) := by
    rw [bne, Bool.not_eq_true'] at hnul
    rw [inSelect, hnul, if_neg Bool.false_ne_true]
  obtain ⟨next, hrule, hinside⟩ : ∃ next,
      { b with skipNewline := false }.rules m (.char c) = .done next ∧
        next.Inside m false (a.appendChar e.1 c) (e :: path) := by
    cases m with
    | inBody | inCell | inCaption => exact hbody hkeeps
    | inSelect | inSelectInTable => exact ⟨_, hselect hkeeps, h.noSkip.appendChar c⟩
    | inHead | afterHead | inColumnGroup => exact ⟨_, if_pos hkeeps, h.noSkip.appendChar c⟩
    | text => exact ⟨_, rfl, h.noSkip.appendChar c⟩
    | _ => cases hkeeps
  rw [h.accept_eq hrule hskip fun _ hdoctype => Token.noConfusion hdoctype]
  exact hinside

/-- Raw text does not change where its element stands. -/
theorem returnMode_acceptChars (h : b.Inside .text s a (e :: path)) {cs : List Char}
    (hline : s = true → cs.head? ≠ some '\n') :
    (b.acceptChars cs).returnMode = b.returnMode := by
  induction cs generalizing b s a with
  | nil => rfl
  | cons c rest ih =>
    have hc : s = true → c ≠ '\n' := fun hs heq => hline hs (congrArg some heq)
    have hskip : Token.char c = .char '\n' → s = false := fun heq => by
      rw [← Bool.not_eq_true]
      exact fun hs => hc hs (Token.char.inj heq)
    have hrule : { b with skipNewline := false }.rules .text (.char c) =
        .done ({ b with skipNewline := false }.appendChar c) := rfl
    have hmode : (b.accept (.char c)).returnMode = b.returnMode := by
      rw [h.accept_eq hrule hskip nofun]
      rfl
    exact (ih (h.accept_char rfl hc) nofun).trans hmode

/-- Characters in the current element. -/
theorem accept_chars (h : b.Inside m s a (e :: path)) {cs : List Char} (hne : cs ≠ [])
    (hkeeps : ∀ c ∈ cs, m.keeps c) (hline : s = true → cs.head? ≠ some '\n') :
    (b.acceptChars cs).Inside m false (cs.foldl (fun a c => a.appendChar e.1 c) a) (e :: path) := by
  obtain ⟨c, rest, rfl⟩ := List.exists_cons_of_ne_nil hne
  obtain ⟨hc, hrest⟩ := List.forall_mem_cons.1 hkeeps
  have hmore {b : Builder} {a : Arena} (h : b.Inside m false a (e :: path)) :
      (b.acceptChars rest).Inside m false (rest.foldl (fun a c => a.appendChar e.1 c) a)
        (e :: path) := by
    clear hline hne hkeeps
    induction rest generalizing b a with
    | nil => exact h
    | cons d rest ih =>
      obtain ⟨hd, hrest⟩ := List.forall_mem_cons.1 hrest
      exact ih hrest (h.accept_char hd nofun)
  exact hmore (h.accept_char hc fun hs heq => hline hs (congrArg some heq))

end Inside

/-! ## Text that is held back -/

/-- A builder that holds blank text back; once that is written the tree is `grown`. -/
structure Holds (b : Builder) (m : Mode) (grown : Arena) (e : Nat × Tag)
    (path : List (Nat × Tag)) : Prop where
  parts : m.holdsParts
  inside : ∃ a, b.Inside .inTableText false a (e :: path) ∧
    grown = b.tableText.reverse.foldl (fun a c => a.appendChar e.1 c) a
  returnMode_eq : b.returnMode = m
  blank : ∀ c ∈ b.tableText, isBlank c

namespace Holds

variable {b : Builder} {m : Mode} {s : Bool} {a grown : Arena} {e : Nat × Tag}
  {path : List (Nat × Tag)}

theorem isBlank_ne {c : Char} (h : isBlank c) : (c == '\x00') = false := by
  rw [beq_eq_false_iff_ne]
  rintro rfl
  exact absurd h (by decide)

theorem step_char (h : b.Inside .inTableText s a (e :: path)) {c : Char} (hc : isBlank c) :
    b.step (.char c) = .done { b with tableText := c :: b.tableText } := by
  rw [h.step_eq]
  show (if c == '\x00' then _ else _) = _
  rw [isBlank_ne hc]
  rfl

/-- One more character is held back. -/
theorem accept_char (h : b.Holds m grown e path) {c : Char} (hc : isBlank c) :
    (b.accept (.char c)).Holds m (grown.appendChar e.1 c) e path := by
  obtain ⟨a, hinside, hgrown⟩ := h.inside
  have haccepted : b.accept (.char c) =
      { b with skipNewline := false, tableText := c :: b.tableText } := by
    rw [accept_eq_settle b (t := .char c) (fun _ => hinside.skips_eq) nofun,
      settle_done (step_char hinside.noSkip hc)]
  rw [haccepted]
  refine ⟨h.parts, ⟨a, { hinside with skips_eq := rfl }, ?_⟩, h.returnMode_eq,
    List.forall_mem_cons.2 ⟨hc, h.blank⟩⟩
  show _ = (c :: b.tableText).reverse.foldl _ a
  rw [List.reverse_cons, List.foldl_append, ← hgrown]
  rfl

/-- A builder that begins to hold text back. -/
def hold (b : Builder) : Builder :=
  { b with skipNewline := false, returnMode := b.mode, mode := .inTableText, tableText := [] }

/-- The first character that is held back. -/
theorem accept_first (h : b.Inside m s a (e :: path)) (hm : m.holdsParts)
    (hfoster : fosterNames.contains e.2.name) {c : Char} (hc : isBlank c)
    (hline : s = true → c ≠ '\n') :
    (b.accept (.char c)).Holds m (a.appendChar e.1 c) e path := by
  have hskip : Token.char c = .char '\n' → b.skipNewline = false := fun heq => by
    rw [h.skips_eq, ← Bool.not_eq_true]
    exact fun hs => hline hs (Token.char.inj heq)
  have hcurrent : { b with skipNewline := false }.currentIn fosterNames = true :=
    (h.noSkip.currentIn_eq fosterNames).trans hfoster
  -- The character is looked at again in the mode that holds text back.
  have hheld : { b with skipNewline := false }.tableChar c = .again (hold b) := by
    rw [tableChar, hcurrent]
    rfl
  have hstep : { b with skipNewline := false }.step (.char c) = .again (hold b) := by
    rw [h.noSkip.step_eq]
    cases m <;> first | exact hheld | cases hm
  have hinside : (hold b).Inside .inTableText false a (e :: path) :=
    { h with mode_eq := rfl, skips_eq := rfl }
  rw [accept_eq_settle b hskip nofun, settle_again hstep, settle_done (step_char hinside hc)]
  exact ⟨hm, ⟨a, { hinside with }, rfl⟩, h.mode_eq, List.forall_mem_singleton.2 hc⟩

/-- Blank text between the parts of a table is held back. -/
theorem accept_chars (h : b.Inside m s a (e :: path)) (hm : m.holdsParts)
    (hfoster : fosterNames.contains e.2.name) {cs : List Char} (hne : cs ≠ [])
    (hblank : ∀ c ∈ cs, isBlank c) (hline : s = true → cs.head? ≠ some '\n') :
    (b.acceptChars cs).Holds m (cs.foldl (fun a c => a.appendChar e.1 c) a) e path := by
  obtain ⟨c, rest, rfl⟩ := List.exists_cons_of_ne_nil hne
  obtain ⟨hc, hrest⟩ := List.forall_mem_cons.1 hblank
  have hmore {b : Builder} {a : Arena} (h : b.Holds m a e path) :
      (b.acceptChars rest).Holds m (rest.foldl (fun a c => a.appendChar e.1 c) a) e path := by
    clear hline hne hblank
    induction rest generalizing b a with
    | nil => exact h
    | cons d rest ih =>
      obtain ⟨hd, hrest⟩ := List.forall_mem_cons.1 hrest
      exact ih hrest (h.accept_char hd)
  exact hmore (accept_first h hm hfoster hc fun hs heq => hline hs (congrArg some heq))

theorem appendChars (h : b.Inside m s a (e :: path)) (cs : List Char) :
    (cs.foldl Builder.appendChar b).Inside m s (cs.foldl (fun a c => a.appendChar e.1 c) a)
      (e :: path) := by
  induction cs generalizing b a with
  | nil => exact h
  | cons c rest ih => exact ih (h.appendChar c)

/-- The builder after what it held back is written. -/
theorem flushed (h : b.Holds m grown e path) :
    { b.flushTableText with mode := m }.Inside m false grown (e :: path) := by
  obtain ⟨a, hinside, rfl⟩ := h.inside
  have hblank : b.tableText.reverse.all isBlank = true := by
    rw [List.all_reverse, List.all_eq_true]
    exact h.blank
  have hbegun : { b with tableText := [] }.Inside .inTableText false a (e :: path) :=
    { hinside with }
  have hwritten := (appendChars hbegun b.tableText.reverse).inMode m
  rw [flushTableText, if_pos hblank]
  exact hwritten

/-- A tag or a comment is taken after the text that was held back. -/
theorem accept_eq (h : b.Holds m grown e path) {t : Token} (ht : t.isMarkup) {next : Builder}
    (hrule : { b.flushTableText with mode := m }.rules m t = .done next) : b.accept t = next := by
  obtain ⟨a, hinside, -⟩ := h.inside
  have hsame : { b with skipNewline := false } = b := by
    rw [← hinside.skips_eq]
  have hstep : b.step t = .again { b.flushTableText with mode := m } := by
    rw [hinside.step_eq, ← h.returnMode_eq]
    cases t <;> first | rfl | cases ht
  rw [accept_eq_settle b (by rintro rfl; cases ht) (by rintro d rfl; cases ht), hsame,
    settle_again hstep, settle_done ((h.flushed.step_eq t).trans hrule)]

end Holds

/-- A builder that stands inside the elements of a path, once it has written what it holds back. -/
inductive Ready (b : Builder) (m : Mode) (s : Bool) (a : Arena) : List (Nat × Tag) → Prop where
  | inside {path : List (Nat × Tag)} (h : b.Inside m s a path) : b.Ready m s a path
  | holds {e : Nat × Tag} {path : List (Nat × Tag)} (h : b.Holds m a e path)
    (hends : a.endsInText e.1) : b.Ready m s a (e :: path)

namespace Ready

variable {b : Builder} {m : Mode} {s : Bool} {a : Arena} {e : Nat × Tag}
  {path : List (Nat × Tag)}

/-- Tags and comments are taken as by a builder that holds nothing back. -/
theorem accept_eq (h : b.Ready m s a path) : ∃ now : Builder, now.Inside m false a path ∧
    ∀ t next, t.isMarkup → now.rules m t = .done next → b.accept t = next := by
  cases h with
  | inside h =>
    exact ⟨_, h.noSkip, fun t next ht hrule =>
      h.accept_eq hrule (by rintro rfl; cases ht) (by rintro d rfl; cases ht)⟩
  | holds h => exact ⟨_, h.flushed, fun t next ht hrule => h.accept_eq ht hrule⟩

/-- Outside of tables nothing is held back. -/
theorem inside_of_mode (h : b.Ready m s a path) (hm : m.holdsParts = false) :
    b.Inside m s a path := by
  cases h with
  | inside h => exact h
  | holds h => exact absurd h.parts (by rw [hm]; nofun)

/-- Before text nothing is held back. -/
theorem inside_of_end (h : b.Ready m s a (e :: path)) (hend : a.endsInText e.1 = false) :
    b.Inside m s a (e :: path) := by
  cases h with
  | inside h => exact h
  | holds _ hends => exact absurd hends (by rw [hend]; nofun)

theorem lt (h : b.Ready m s a path) : parentOf path < a.next := by
  obtain ⟨now, hnow, -⟩ := h.accept_eq
  exact hnow.lt

end Ready

namespace Inside

variable {b : Builder} {m : Mode} {s : Bool} {a : Arena} {e : Nat × Tag} {tag : Tag}
  {path : List (Nat × Tag)}

/-- A text below the current element. -/
theorem accept_text (h : b.Inside m s a (e :: path))
    (hmode : modeOf? ((e :: path).map (·.2)) = some m) (hend : a.endsInText e.1 = false)
    {cs : List Char} (hne : cs ≠ []) (htakes : ∀ c ∈ cs, m.takes c)
    (hline : s = true → cs.head? ≠ some '\n') :
    (b.acceptChars cs).Ready m false (a.graft e.1 [.text (String.ofList cs)]) (e :: path) := by
  have hlt : e.1 < a.next := h.lt
  have hgrown := Arena.appendChars_eq_graft hlt hend hne
  cases hm : m.holdsParts with
  | false =>
    have hkeeps : ∀ c ∈ cs, m.keeps c := fun c hc => by
      have hc := htakes c hc
      rw [Mode.takes, hm, Bool.false_and, Bool.or_false] at hc
      exact hc
    rw [← hgrown]
    exact .inside (h.accept_chars hne hkeeps hline)
  | true =>
    have hblank : ∀ c ∈ cs, isBlank c := fun c hc => by
      have hc := htakes c hc
      have hnot : m.keeps c = false := by
        cases m <;> first | rfl | cases hm
      rw [Mode.takes, hnot, hm, Bool.false_or, Bool.true_and] at hc
      exact hc
    have hheld := Holds.accept_chars h hm (foster_of_holdsParts hmode hm) hne hblank hline
    rw [hgrown] at hheld
    exact .holds hheld (Arena.endsInText_graft hlt _)

/-! ### Comments -/

theorem commentIn (h : b.Inside m s a path) {parent : Nat} (hparent : parent < a.next)
    (text : String) :
    (b.commentIn parent text).Inside m s (a.graft parent [.comment text]) path := by
  have hadded : b.commentIn parent text =
      { b with arena := a.graft parent [.comment text] } := by
    rw [Builder.commentIn, h.arena_eq, Arena.add_attach_eq_graft (n := .comment text) hparent rfl]
  rw [hadded]
  refine h.withArena ?_
  rw [Arena.next_graft]
  exact Nat.le_add_right _ _

/-- A comment below the current element. -/
theorem comment (h : b.Inside m false a (e :: path)) (hm : m.keepsComments) (text : String) :
    ∃ next, b.rules m (.comment text) = .done next ∧
      next.Inside m false (a.graft e.1 [.comment text]) (e :: path) := by
  have happended : b.appendComment text = b.commentIn e.1 text := by
    rw [appendComment, h.spot_eq]
    rfl
  have hrule : b.rules m (.comment text) = .done (b.appendComment text) := by
    cases m <;> first | rfl | cases hm
  rw [hrule, happended]
  exact ⟨_, rfl, h.commentIn h.lt text⟩

/-- A comment around the root element. -/
theorem accept_outerComment (h : b.Inside m s a path) (hm : m.putsCommentsOut) (text : String) :
    (b.accept (.comment text)).Inside m false (a.graft Arena.root [.comment text]) path := by
  have hrule : { b with skipNewline := false }.rules m (.comment text) =
      .done ({ b with skipNewline := false }.commentIn Arena.root text) := by
    cases m <;> first | rfl | cases hm
  rw [h.accept_eq hrule nofun nofun]
  exact h.noSkip.commentIn h.rooted text

/-- A comment behind the body. -/
theorem accept_lateComment {root : Nat × Tag} (h : b.Inside .afterBody s a [e, root])
    (text : String) :
    (b.accept (.comment text)).Inside .afterBody false (a.graft root.1 [.comment text])
      [e, root] := by
  have hroot : { b with skipNewline := false }.html? = some (openOf root) := by
    rw [html?, h.noSkip.stack_eq]
    rfl
  have hrule : { b with skipNewline := false }.rules .afterBody (.comment text) =
      .done ({ b with skipNewline := false }.commentIn root.1 text) := by
    show Step.done ((_ : Option Builder).getD _) = _
    rw [hroot]
    rfl
  have hlt : root.1 < a.next :=
    (List.pairwise_cons.1 h.ids).1 root.1 (List.mem_cons_of_mem _ List.mem_cons_self)
  rw [h.accept_eq hrule nofun nofun]
  exact h.noSkip.commentIn hlt text

/-! ### Tags -/

/-- The end tag of raw text leads back to where the text began. -/
theorem accept_rawEnd (h : b.Inside .text s a (e :: path))
    (hplain : (startRule e.2.name).isPlain) (name : String) :
    (b.accept (.endTag name)).Inside b.returnMode false a path := by
  have hrule : { b with skipNewline := false }.rules .text (.endTag name) =
      .done { { b with skipNewline := false }.pop with mode := b.returnMode } := rfl
  rw [h.accept_eq hrule nofun nofun]
  exact (h.noSkip.pop (entries_of_isPlain hplain) (not_form_of_isPlain hplain)).inMode _

/-! ### Around the body -/

theorem accept_doctype (h : b.Inside .initial s a []) (d : Doctype) :
    (b.accept (.doctype d)).Inside .beforeHtml false
      (a.graft Arena.root [.doctype (d.name.getD "")]) [] := by
  have hstep := h.noSkip.step_eq (.doctype d)
  have hadded : { b with skipNewline := false }.rules .initial (.doctype d) =
      .done { b with
        skipNewline := false
        arena := a.graft Arena.root [.doctype (d.name.getD "")]
        mode := .beforeHtml
        tableClosesParagraph := d.tableClosesParagraph } := by
    show Step.done { b with
      skipNewline := false
      arena := (b.arena.add (.doctype (d.name.getD ""))).attach Arena.root b.arena.next
      mode := .beforeHtml
      tableClosesParagraph := d.tableClosesParagraph } = _
    rw [h.arena_eq,
      Arena.add_attach_eq_graft (n := .doctype (d.name.getD "")) h.rooted rfl]
  have hle : (a.next : Nat) ≤ (a.graft Arena.root [.doctype (d.name.getD "")]).next := by
    rw [Arena.next_graft]
    exact Nat.le_add_right _ _
  have hmode : (b.mode == .initial) = true := by
    rw [h.mode_eq]
    rfl
  rw [accept, if_pos hmode, settle_done (hstep.trans hadded)]
  exact ((h.noSkip.withArena hle).withTables d.tableClosesParagraph).inMode .beforeHtml

/-- The elements that every document has leave no traces but themselves. -/
theorem traces_outer (hname : e.2.name = "html" ∨ e.2.name = "head" ∨ e.2.name = "body") :
    entries e = [] ∧ (e.2.name == "form") = false ∧ (e.2.name == "template") = false := by
  have hplain : markerNames.contains e.2.name = false ∧ listedNames.contains e.2.name = false ∧
      (e.2.name == "form") = false ∧ (e.2.name == "template") = false := by
    obtain hname | hname | hname := hname <;> rw [hname] <;> decide
  obtain ⟨hmarker, hlisted, hform, htemplate⟩ := hplain
  refine ⟨?_, hform, htemplate⟩
  rw [entries, hmarker, hlisted]
  rfl

theorem openOuter (h : b.Inside m s a path)
    (hname : tag.name = "html" ∨ tag.name = "head" ∨ tag.name = "body") (mode : Mode) :
    { b.insertHtml tag with mode }.Inside mode s (a.opened (parentOf path) tag)
      ((a.next, tag) :: path) := by
  obtain ⟨hentries, hform, htemplate⟩ := traces_outer (e := (a.next, tag)) hname
  have hentered := (h.enter htemplate).inMode mode
  rw [hentries, hform] at hentered
  exact hentered

/-- The root element is opened, whether or not there was a document type. -/
theorem accept_html (h : b.Inside m s a []) (hm : m = .initial ∨ m = .beforeHtml)
    (hname : tag.name = "html") :
    (b.accept (.startTag { toTag := tag })).Inside .beforeHead false (a.opened Arena.root tag)
      [(a.next, tag)] := by
  have hroot {b : Builder} (h : b.Inside .beforeHtml false a []) (rounds : Nat) :
      (settle (.startTag { toTag := tag }) (rounds + 1) b).Inside .beforeHead false
        (a.opened Arena.root tag) [(a.next, tag)] := by
    have hrule : b.rules .beforeHtml (.startTag { toTag := tag }) =
        .done { b.insertHtml tag with mode := .beforeHead } := by
      obtain ⟨name, attrs⟩ := tag
      subst hname
      rfl
    rw [settle_done ((h.step_eq _).trans hrule)]
    exact h.openOuter (.inl hname) .beforeHead
  have hsettle := b.accept_eq_settle (t := .startTag { toTag := tag }) nofun nofun
  rw [hsettle]
  obtain rfl | rfl := hm
  · have hrule : { b with skipNewline := false }.rules .initial (.startTag { toTag := tag }) =
        .again { b with skipNewline := false, tableClosesParagraph := false, mode := .beforeHtml } :=
      rfl
    rw [settle_again ((h.noSkip.step_eq _).trans hrule)]
    exact hroot ((h.noSkip.withTables false).inMode .beforeHtml) _
  · exact hroot h.noSkip _

theorem accept_head (h : b.Inside .beforeHead s a (e :: path)) (hname : tag.name = "head") :
    (b.accept (.startTag { toTag := tag })).Inside .inHead false (a.opened e.1 tag)
      ((a.next, tag) :: e :: path) := by
  have hrule : { b with skipNewline := false }.rules .beforeHead (.startTag { toTag := tag }) =
      .done ({ b with skipNewline := false }.openHead tag) := by
    obtain ⟨name, attrs⟩ := tag
    subst hname
    rfl
  rw [h.accept_eq hrule nofun nofun]
  exact { h.noSkip.openOuter (.inr (.inl hname)) .inHead with }

theorem accept_body (h : b.Inside .afterHead s a (e :: path)) (hname : tag.name = "body") :
    (b.accept (.startTag { toTag := tag })).Inside .inBody false (a.opened e.1 tag)
      ((a.next, tag) :: e :: path) := by
  have hrule : { b with skipNewline := false }.rules .afterHead (.startTag { toTag := tag }) =
      .done { ({ b with skipNewline := false }.insertHtml tag).forbidFrameset with
        mode := .inBody } := by
    obtain ⟨name, attrs⟩ := tag
    subst hname
    rfl
  rw [h.accept_eq hrule nofun nofun]
  exact (h.noSkip.openOuter (.inr (.inr hname)) .inBody).forbidFrameset

theorem accept_headEnd (h : b.Inside .inHead s a (e :: path)) (hname : e.2.name = "head") :
    (b.accept (.endTag "head")).Inside .afterHead false a path := by
  have hrule : { b with skipNewline := false }.rules .inHead (.endTag "head") =
      .done { { b with skipNewline := false }.pop with mode := .afterHead } := rfl
  obtain ⟨hentries, hform, -⟩ := traces_outer (.inr (.inl hname))
  rw [h.accept_eq hrule nofun nofun]
  exact (h.noSkip.pop hentries hform).inMode .afterHead

theorem accept_bodyEnd (h : b.Inside .inBody s a (e :: path)) (hname : e.2.name = "body") :
    (b.accept (.endTag "body")).Inside .afterBody false a (e :: path) := by
  have hwanted : (openOf e).isHtml "body" := by
    have hself := isHtml_current e
    rw [hname] at hself
    exact hself
  have hscope : { b with skipNewline := false }.inDefaultScope "body" = true :=
    h.noSkip.inScope_current hwanted
  have hrule : { b with skipNewline := false }.rules .inBody (.endTag "body") =
      .done { b with skipNewline := false, mode := .afterBody } := by
    show Step.done (if _ then _ else _) = _
    rw [if_pos hscope]
  rw [h.accept_eq hrule nofun nofun]
  exact h.noSkip.inMode .afterBody

theorem accept_htmlEnd (h : b.Inside .afterBody s a path) :
    (b.accept (.endTag "html")).Inside .afterAfterBody false a path := by
  have hrule : { b with skipNewline := false }.rules .afterBody (.endTag "html") =
      .done { b with skipNewline := false, mode := .afterAfterBody } := rfl
  rw [h.accept_eq hrule nofun nofun]
  exact h.noSkip.inMode .afterAfterBody

theorem accept_eof (h : b.Inside .afterAfterBody s a path) : (b.accept .eof).arena = a := by
  have hrule : { b with skipNewline := false }.rules .afterAfterBody .eof =
      .done { b with skipNewline := false } := rfl
  rw [h.accept_eq hrule nofun nofun]
  exact h.arena_eq

end Inside

end Builder

end StaticSite.Html
