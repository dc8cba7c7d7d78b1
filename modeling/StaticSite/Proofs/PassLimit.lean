/-
  The bound on the passes.

  The bound is a threshold and nothing else.  One run of the loop either comes to an end
  after some passes that splice, or would go on for ever; with fewer passes allowed it
  stops at the bound, and with as many or more it ends in the same way.  All that comes
  before the loop does not know the bound, so the same holds of a whole page
  (`Page.compile_threshold`).  How often the buffer is read again is bounded whatever is
  read there (`Page.countedPasses_within`).
-/

import StaticSite.Proofs.Halting

namespace StaticSite

open Template (Fragment Marker Extraction Reference fragmentOf)

/-- The project with another bound on the passes. -/
def Project.withMaxPasses (project : Project) (limit : Nat) : Project :=
  { project with config :=
    { project.config with embeds := { project.config.embeds with maxPasses := limit } } }

/-- Whether a build failed because too many passes spliced something. -/
def BuildError.IsPassLimit (e : BuildError) : Prop := ∃ path count, e = .passLimit path count

/-! ## Failures that have nothing to do with the bound -/

namespace Partial

variable {project : Project} {page : Page} {texts : Path → Option String} {e : BuildError}

theorem checkCycles_error {roots : List Partial}
    (h : checkCycles project (.ofTexts texts) page roots = .error e) : ¬ e.IsPassLimit := by
  rintro ⟨_, _, rfl⟩
  obtain ⟨_, he⟩ | he := error_of_checkCycles h <;> cases he

theorem textFor_error {base : Path} {ref : Reference}
    (h : textFor project (.ofTexts texts) page base ref = .error e) : ¬ e.IsPassLimit := by
  rintro ⟨_, _, rfl⟩
  unfold textFor at h
  simp only [Supply.partial?_ofTexts, Except.ok_bind] at h
  -- Only a file that is missing can fail, and only if the configuration says so.
  cases htext : texts (resolve project.root base ref.src) with
  | some content =>
    rw [htext] at h
    cases h
  | none =>
    rw [htext] at h
    cases hmissing : project.config.embeds.onMissing with
    | warn =>
      rw [hmissing] at h
      cases h
    | error =>
      rw [hmissing] at h
      cases h

theorem spliceAll_error {base : Path} {f : Fragment}
    (h : spliceAll project (.ofTexts texts) page base f = .error e) : ¬ e.IsPassLimit := by
  obtain ⟨m, hm⟩ := Fragment.substitute_eq_error h
  cases m with
  | slot s => cases hm
  | splice ref =>
    obtain htext | ⟨_, _, hm⟩ := Except.bind_eq_error hm
    · exact textFor_error htext
    · cases hm

end Partial

namespace Page

variable {project : Project} {page : Page} {texts : Path → Option String} {e : BuildError}

/-- What comes before the loop does not fail at the bound. -/
theorem merged_error {text : String} (h : merged project page texts text = .error e) :
    ¬ e.IsPassLimit := by
  obtain ⟨roots, hcheck⟩ | ⟨path, rfl⟩ | ⟨before, base, f, after, -, -, hsplice⟩ :=
    error_of_merged h
  · exact Partial.checkCycles_error hcheck
  · rintro ⟨_, _, hlimit⟩
    cases hlimit
  · exact Partial.spliceAll_error hsplice

/-! ## The loop -/

theorem passesFrom_of_nil {p : Progress} (h : (fragmentOf p.html).references = []) (left : Nat) :
    passesFrom project (.ofTexts texts) page left p = .ok (p.finished (fragmentOf p.html)) := by
  have hempty : (fragmentOf p.html).references.isEmpty = true := List.isEmpty_iff.2 h
  cases left with
  | zero => rw [passesFrom_zero, if_pos hempty]
  | succ left => rw [passesFrom_succ, if_pos hempty]

theorem passesFrom_zero_of_ne_nil {p : Progress} (h : (fragmentOf p.html).references ≠ []) :
    passesFrom project (.ofTexts texts) page 0 p = .error (.passLimit page.path p.splicing) := by
  rw [passesFrom_zero, if_neg fun hempty => h (List.isEmpty_iff.1 hempty)]

theorem passesFrom_succ_of_ne_nil {p : Progress} (h : (fragmentOf p.html).references ≠ [])
    (left : Nat) :
    passesFrom project (.ofTexts texts) page (left + 1) p =
      (Partial.spliceAll project (.ofTexts texts) page page.dir (fragmentOf p.html) >>=
        fun spliced => passesFrom project (.ofTexts texts) page left
          (p.spliced (fragmentOf p.html) spliced)) := by
  rw [passesFrom_succ, if_neg fun hempty => h (List.isEmpty_iff.1 hempty)]

/-- A loop that comes to an end after `k` passes that splice needs just as many: with more it ends in
the same way, with fewer it stops at the bound. -/
theorem passesFrom_ok {left : Nat} {p q : Progress}
    (h : passesFrom project (.ofTexts texts) page left p = .ok q) :
    ∃ k, q.passes = p.passes + k + 1 ∧ k ≤ left ∧
      (∀ left', k ≤ left' → passesFrom project (.ofTexts texts) page left' p = .ok q) ∧
      ∀ left', left' < k → passesFrom project (.ofTexts texts) page left' p =
        .error (.passLimit page.path (p.splicing + left')) := by
  induction left generalizing p with
  | zero =>
    by_cases hrefs : (fragmentOf p.html).references = []
    · rw [passesFrom_of_nil hrefs] at h
      cases h
      exact ⟨0, rfl, Nat.le_refl 0, fun left' _ => passesFrom_of_nil hrefs left',
        fun left' hlt => absurd hlt (Nat.not_lt_zero left')⟩
    · rw [passesFrom_zero_of_ne_nil hrefs] at h
      cases h
  | succ left ih =>
    by_cases hrefs : (fragmentOf p.html).references = []
    · rw [passesFrom_of_nil hrefs] at h
      cases h
      exact ⟨0, rfl, Nat.zero_le _, fun left' _ => passesFrom_of_nil hrefs left',
        fun left' hlt => absurd hlt (Nat.not_lt_zero left')⟩
    · -- One pass splices, and the rest of the loop has a threshold of its own.
      rw [passesFrom_succ_of_ne_nil hrefs] at h
      obtain ⟨spliced, hspliced, h⟩ := Except.bind_eq_ok h
      obtain ⟨k, hpasses, hk, habove, hbelow⟩ := ih h
      have hcount : (p.spliced (fragmentOf p.html) spliced).passes = p.passes + 1 := rfl
      have hsplicing : (p.spliced (fragmentOf p.html) spliced).splicing = p.splicing + 1 := rfl
      refine ⟨k + 1, by omega, by omega, fun left' hle => ?_, fun left' hlt => ?_⟩
      · obtain ⟨more, rfl⟩ : ∃ more, left' = more + 1 := ⟨left' - 1, by omega⟩
        rw [passesFrom_succ_of_ne_nil hrefs, hspliced, Except.ok_bind]
        exact habove more (by omega)
      · cases left' with
        | zero => exact passesFrom_zero_of_ne_nil hrefs
        | succ more =>
          rw [passesFrom_succ_of_ne_nil hrefs, hspliced, Except.ok_bind,
            hbelow more (by omega), hsplicing]
          have hsum : p.splicing + 1 + more = p.splicing + (more + 1) := by omega
          rw [hsum]

/-- A loop that fails does so at the bound, or in the same way wherever the bound is beyond. -/
theorem passesFrom_error {left : Nat} {p : Progress}
    (h : passesFrom project (.ofTexts texts) page left p = .error e) :
    e = .passLimit page.path (p.splicing + left) ∨
      ¬ e.IsPassLimit ∧ ∀ left', left ≤ left' →
        passesFrom project (.ofTexts texts) page left' p = .error e := by
  induction left generalizing p with
  | zero =>
    by_cases hrefs : (fragmentOf p.html).references = []
    · rw [passesFrom_of_nil hrefs] at h
      cases h
    · rw [passesFrom_zero_of_ne_nil hrefs] at h
      cases h
      exact .inl rfl
  | succ left ih =>
    by_cases hrefs : (fragmentOf p.html).references = []
    · rw [passesFrom_of_nil hrefs] at h
      cases h
    · rw [passesFrom_succ_of_ne_nil hrefs] at h
      obtain hsplice | ⟨spliced, hspliced, h⟩ := Except.bind_eq_error h
      · -- The bound is looked at before anything is spliced, so a larger one changes nothing.
        refine .inr ⟨Partial.spliceAll_error hsplice, fun left' hle => ?_⟩
        obtain ⟨more, rfl⟩ : ∃ more, left' = more + 1 := ⟨left' - 1, by omega⟩
        rw [passesFrom_succ_of_ne_nil hrefs, hsplice]
        rfl
      · obtain hlimit | ⟨hother, habove⟩ := ih h
        · left
          have hsplicing : (p.spliced (fragmentOf p.html) spliced).splicing = p.splicing + 1 := rfl
          have hsum : p.splicing + 1 + left = p.splicing + (left + 1) := by omega
          rw [hlimit, hsplicing, hsum]
        · refine .inr ⟨hother, fun left' hle => ?_⟩
          obtain ⟨more, rfl⟩ : ∃ more, left' = more + 1 := ⟨left' - 1, by omega⟩
          rw [passesFrom_succ_of_ne_nil hrefs, hspliced, Except.ok_bind]
          exact habove more (by omega)

/-! ## A page under different bounds -/

/-- The progress of a page that was merged, after its first pass. -/
def afterMerge (project : Project) (merged : Merged) : Progress where
  html := (withLinks project merged.resources merged.fragment).withoutSlots.render
  passes := 1
  partials := merged.partials
  splicing := if merged.partials > 0 then 1 else 0

/-- A page that was merged, when the loop has come to an end. -/
def Merged.compiled (merged : Merged) (done : Progress) : CompiledPage where
  html := done.html
  passes := done.passes
  partials := done.partials
  resources := merged.resources

theorem spliceAll_withMaxPasses (limit : Nat) (base : Path) (f : Fragment) :
    Partial.spliceAll (project.withMaxPasses limit) (.ofTexts texts) page base f =
      Partial.spliceAll project (.ofTexts texts) page base f := rfl

/-- The loop knows the bound only from the passes that are left to it. -/
theorem passesFrom_withMaxPasses (limit left : Nat) (p : Progress) :
    passesFrom (project.withMaxPasses limit) (.ofTexts texts) page left p =
      passesFrom project (.ofTexts texts) page left p := by
  induction left generalizing p with
  | zero => rw [passesFrom_zero, passesFrom_zero]
  | succ left ih =>
    rw [passesFrom_succ, passesFrom_succ, spliceAll_withMaxPasses]
    simp only [ih]

/-- What comes before the loop does not depend on the bound. -/
theorem resolve_withMaxPasses (limit : Nat) (text : String) :
    resolve (project.withMaxPasses limit) (.ofTexts texts) page text =
      (merged project page texts text >>= fun merged =>
        furtherPasses (project.withMaxPasses limit) (.ofTexts texts) page
            (afterMerge project merged) >>= fun done =>
          .ok (Merged.compiled merged done)) := rfl

theorem furtherPasses_withMaxPasses (limit : Nat) (merged : Merged) :
    furtherPasses (project.withMaxPasses limit) (.ofTexts texts) page (afterMerge project merged) =
      if merged.partials = 0 then .ok (afterMerge project merged)
      else passesFrom project (.ofTexts texts) page (limit - 1) (afterMerge project merged) := by
  unfold furtherPasses
  by_cases hnone : merged.partials = 0
  · have hzero : (afterMerge project merged).splicing = 0 := by
      rw [afterMerge, hnone]
      rfl
    rw [hzero, if_pos hnone]
    rfl
  · have hone : (afterMerge project merged).splicing = 1 := if_pos (Nat.pos_of_ne_zero hnone)
    rw [hone, if_neg hnone]
    exact passesFrom_withMaxPasses limit (limit - 1) (afterMerge project merged)

/-- How the result of a text depends on the bound. -/
structure Threshold (page : Page) (result : Nat → Except BuildError CompiledPage) : Prop where
  /-- A page that compiles with `k` passes that splice compiles with `k` or more of them allowed, and
  hits the bound with fewer. -/
  ok : ∀ limit c, 1 ≤ limit → result limit = .ok c → ∃ k, c.passes = k + 1 ∧ k ≤ limit ∧
    (∀ limit', 1 ≤ limit' → k ≤ limit' → result limit' = .ok c) ∧
    ∀ limit', 1 ≤ limit' → limit' < k → result limit' = .error (.passLimit page.path limit')
  /-- Any other failure stays the same if more passes are allowed. -/
  error : ∀ limit e, 1 ≤ limit → result limit = .error e → ¬ e.IsPassLimit →
    ∀ limit', limit ≤ limit' → result limit' = .error e
  /-- A failure at the bound names the page and the bound. -/
  passLimit : ∀ limit path count, 1 ≤ limit → result limit = .error (.passLimit path count) →
    path = page.path ∧ count = limit

theorem Threshold.const {r : Except BuildError CompiledPage}
    (hok : ∀ c, r = .ok c → c.passes = 1) (herror : ∀ e, r = .error e → ¬ e.IsPassLimit) :
    Threshold page fun _ => r where
  ok limit c hlimit h := by
    exact ⟨0, hok c h, Nat.zero_le _, fun _ _ _ => h, fun limit' _ hlt => absurd hlt (by omega)⟩
  error _ _ _ h _ _ _ := h
  passLimit limit path count _ h := absurd ⟨path, count, rfl⟩ (herror _ h)

/-- The loop, with as many passes left as the bound allows after the first one. -/
theorem Threshold.loop {p : Progress} (hpasses : p.passes = 1) (hsplicing : p.splicing = 1)
    (merged : Merged) :
    Threshold page fun limit =>
      passesFrom project (.ofTexts texts) page (limit - 1) p >>= fun done =>
        .ok (Merged.compiled merged done) where
  ok limit c hlimit h := by
    obtain ⟨q, hq, h⟩ := Except.bind_eq_ok h
    cases h
    obtain ⟨k, hcount, hk, habove, hbelow⟩ := passesFrom_ok hq
    have hc : (Merged.compiled merged q).passes = q.passes := rfl
    refine ⟨k + 1, by omega, by omega, fun limit' hpos hle => ?_, fun limit' hpos hlt => ?_⟩
    · show (passesFrom project _ page (limit' - 1) p >>= _) = _
      rw [habove (limit' - 1) (by omega)]
      rfl
    · show (passesFrom project _ page (limit' - 1) p >>= _) = _
      have hsum : p.splicing + (limit' - 1) = limit' := by omega
      rw [hbelow (limit' - 1) (by omega), hsum]
      rfl
  error limit e hlimit h hother limit' hle := by
    obtain hloop | ⟨_, _, h⟩ := Except.bind_eq_error h
    · obtain hbound | ⟨-, habove⟩ := passesFrom_error hloop
      · exact absurd ⟨_, _, hbound⟩ hother
      · show (passesFrom project _ page (limit' - 1) p >>= _) = _
        rw [habove (limit' - 1) (by omega)]
        rfl
    · cases h
  passLimit limit path count hlimit h := by
    obtain hloop | ⟨_, _, h⟩ := Except.bind_eq_error h
    · obtain hbound | ⟨hother, -⟩ := passesFrom_error hloop
      · obtain ⟨hpath, hcount⟩ := BuildError.passLimit.inj hbound
        exact ⟨hpath, by omega⟩
      · exact absurd ⟨path, count, rfl⟩ hother
    · cases h

theorem resolve_threshold (text : String) :
    Threshold page fun limit =>
      resolve (project.withMaxPasses limit) (.ofTexts texts) page text := by
  simp only [resolve_withMaxPasses]
  cases hmerged : merged project page texts text with
  | error e =>
    exact .const (fun c h => by cases h) fun e' h => by
      cases h
      exact merged_error hmerged
  | ok merged =>
    simp only [Except.ok_bind, furtherPasses_withMaxPasses]
    by_cases hnone : merged.partials = 0
    · -- Nothing was spliced in the first pass, and there is no other.
      simp only [if_pos hnone, Except.ok_bind]
      exact .const (fun c h => by cases h; rfl) fun e h => by cases h
    · simp only [if_neg hnone]
      exact .loop rfl (if_pos (Nat.pos_of_ne_zero hnone)) merged

/-! ## How often the buffer is read again -/

section AnyReader

variable {n : Type → Type} [Monad n] [MonadExcept BuildError n]
variable (project : Project) (supply : Supply n) (page : Page) (read : Progress → n Extraction)

/-- The loop with any reader of the buffer. -/
def passesBy : (left : Nat) → Progress → n Progress
  | 0, p => do
    let found ← read p
    if found.fragment.references.isEmpty then lastPass supply page p found
    else throw (.passLimit page.path p.splicing)
  | left + 1, p => do
    let found ← read p
    if found.fragment.references.isEmpty then lastPass supply page p found
    else passesBy left (← splicingPass project supply page p found)

/-- All passes after the first one, with any reader of the buffer. -/
def furtherPassesBy (p : Progress) : n Progress :=
  if p.splicing == 0 then pure p
  else passesBy project supply page read (project.config.embeds.maxPasses - p.splicing) p

end AnyReader

/-- A run that counts how often the buffer was read. -/
abbrev CountedM := ExceptT BuildError (StateM Nat)

/-- Answers from given texts; only reading the buffer counts. -/
def countedSupply (texts : Path → Option String) : Supply CountedM where
  layout? path := pure (texts path)
  partial? path := pure (texts path)
  tell _ := pure ()

/-- A run that reads no buffer. -/
def CountedM.silent : MonadRel CountedM (Except BuildError) where
  rel x y := ∀ count, x.run.run count = (y, count)
  pure _ _ := rfl
  bind {α β x y f g} hx hf count := by
    have hrun : (x >>= f).run.run count
        = (ExceptT.bindCont f (x.run.run count).1).run (x.run.run count).2 := rfl
    rw [hrun, hx count]
    cases y with
    | error e => rfl
    | ok a => exact hf a count

theorem countedSupply_agree (texts : Path → Option String) :
    (countedSupply texts).Agree CountedM.silent (.ofTexts texts) :=
  ⟨fun _ _ => rfl, fun _ _ => rfl, fun _ _ => rfl, fun _ _ => rfl⟩

/-- Reads the buffer in a given way and counts it. -/
def countedRead (read : String → Extraction) (p : Progress) : CountedM Extraction := do
  modify (· + 1)
  return read p.html

/-- The passes after the first one with any reader, and how often they read the buffer. -/
def countedPasses (project : Project) (page : Page) (texts : Path → Option String)
    (read : String → Extraction) (p : Progress) : Except BuildError Progress × Nat :=
  (furtherPassesBy project (countedSupply texts) page (countedRead read) p).run.run 0

/-- Whether a run that counts comes to the same end and reads the buffer at most so often. -/
def CountedM.Within {α : Type} (most : Nat) (x : CountedM α) (y : Except BuildError α) : Prop :=
  ∀ count, ∃ times, times ≤ most ∧ x.run.run count = (y, count + times)

namespace CountedM

variable {α β : Type} {x : CountedM α} {y : Except BuildError α}

theorem within_of_silent (h : silent.rel x y) (most : Nat) : Within most x y :=
  fun count => ⟨0, Nat.zero_le most, h count⟩

theorem Within.bind {f : α → CountedM β} {g : α → Except BuildError β} {first rest : Nat}
    (hx : Within first x y) (hf : ∀ a, Within rest (f a) (g a)) :
    Within (first + rest) (x >>= f) (y >>= g) := by
  intro count
  obtain ⟨times, htimes, hrun⟩ := hx count
  have hbind : (x >>= f).run.run count
      = (ExceptT.bindCont f (x.run.run count).1).run (x.run.run count).2 := rfl
  rw [hbind, hrun]
  cases y with
  | error e => exact ⟨times, by omega, rfl⟩
  | ok a =>
    obtain ⟨more, hmore, hrest⟩ := hf a (count + times)
    refine ⟨times + more, by omega, ?_⟩
    rw [← Nat.add_assoc]
    exact hrest

end CountedM

open CountedM (Within within_of_silent)

theorem countedRead_within (read : String → Extraction) (p : Progress) :
    Within 1 (countedRead read p) (.ok (read p.html)) :=
  fun _ => ⟨1, Nat.le_refl 1, rfl⟩

theorem passesBy_within (read : String → Extraction) (left : Nat) (p : Progress) :
    Within (1 + left) (passesBy project (countedSupply texts) page (countedRead read) left p)
      (passesBy project (.ofTexts texts) page (fun p => .ok (read p.html)) left p) := by
  have hagree := agree_of_supply (countedSupply_agree texts) project page
  induction left generalizing p with
  | zero =>
    refine (countedRead_within read p).bind fun found => ?_
    split
    · exact within_of_silent (lastPass_rel hagree p found) 0
    · exact within_of_silent (hagree.limit _) 0
  | succ left ih =>
    refine (countedRead_within read p).bind fun found => ?_
    split
    · exact within_of_silent (lastPass_rel hagree p found) _
    · -- Splicing does not read the buffer, so all further readings are those of the rest.
      have hsplice := within_of_silent (splicingPass_rel hagree p found) 0
      have hrest := hsplice.bind fun q => ih q
      rw [Nat.zero_add, Nat.add_comm] at hrest
      exact hrest

theorem passesBy_parse (left : Nat) (p : Progress) :
    passesBy project (.ofTexts texts) page
        (fun p => .ok (Template.extract .page (.parse p.html))) left p =
      passesFrom project (.ofTexts texts) page left p := by
  induction left generalizing p with
  | zero => rfl
  | succ left ih =>
    rw [passesBy, passesFrom]
    simp only [ih]
    rfl

/-- However the buffer is read, it is read again no more often than passes may splice; and with the
reader of pages these are the passes after the first one. -/
theorem countedPasses_within (hmax : 1 ≤ project.config.embeds.maxPasses) (p : Progress) :
    (countedPasses project page texts (fun html => Template.extract .page (.parse html)) p).1 =
        furtherPasses project (.ofTexts texts) page p ∧
      ∀ read, (countedPasses project page texts read p).2 ≤ project.config.embeds.maxPasses := by
  unfold countedPasses furtherPassesBy furtherPasses
  by_cases hzero : p.splicing = 0
  · simp only [hzero, beq_self_eq_true, if_true]
    exact ⟨rfl, fun _ => Nat.zero_le _⟩
  · simp only [beq_iff_eq, hzero, if_false]
    constructor
    · obtain ⟨times, -, hrun⟩ := @passesBy_within project page texts
        (fun html => Template.extract .page (.parse html))
        (project.config.embeds.maxPasses - p.splicing) p 0
      rw [hrun, passesBy_parse]
    · intro read
      obtain ⟨times, htimes, hrun⟩ := @passesBy_within project page texts read
        (project.config.embeds.maxPasses - p.splicing) p 0
      rw [hrun]
      show 0 + times ≤ _
      omega

/-! ## A page over a store -/

section Store

variable (ensureStubs : ResourceSet → StateM Store (Except FileError (List Path)))
variable (session : Session) (store : Store)

/-- What a page comes to over a store if so many passes may splice. -/
def resultWithin (project : Project) (page : Page) (limit : Nat) : Except BuildError CompiledPage :=
  ((compile (project.withMaxPasses limit) page Store.source ensureStubs).runOver session store).1.1

variable (project page)

theorem resultWithin_threshold (hcreate : project.config.assets.createMissing = false) :
    Threshold page (resultWithin ensureStubs session store project page) := by
  have hresult : resultWithin ensureStubs session store project page = fun limit =>
      resultOf (project.withMaxPasses limit) page (session.found store)
        (store.text? page.path) := by
    funext limit
    exact compile_result (project.withMaxPasses limit) page ensureStubs session store hcreate
  rw [hresult]
  cases store.text? page.path with
  | none =>
    refine .const (fun c h => by cases h) fun e h => ?_
    cases h
    rintro ⟨_, _, hlimit⟩
    cases hlimit
  | some text => exact resolve_threshold text

/-- The bound on the passes decides whether a page compiles, and nothing else about it. -/
theorem compile_threshold (hcreate : project.config.assets.createMissing = false) :
    Threshold page (resultWithin ensureStubs session store project page) ∧
      ∀ limit, 1 ≤ limit → ∀ texts p,
        (countedPasses (project.withMaxPasses limit) page texts
            (fun html => Template.extract .page (.parse html)) p).1 =
          furtherPasses (project.withMaxPasses limit) (.ofTexts texts) page p ∧
        ∀ read, (countedPasses (project.withMaxPasses limit) page texts read p).2 ≤ limit :=
  ⟨resultWithin_threshold project page ensureStubs session store hcreate,
    fun limit hlimit _ p => @countedPasses_within (project.withMaxPasses limit) _ _ hlimit p⟩

end Store

/-- The nested page compiles with two passes that splice; so it does with three, but not with one. -/
theorem compile_threshold_nested :
    nestedProject.config.assets.createMissing = false ∧
    resultWithin (fun _ => pure (.ok [])) {} nestedStore nestedProject nestedPage 2 =
      .ok nestedCompiled ∧
    resultWithin (fun _ => pure (.ok [])) {} nestedStore nestedProject nestedPage 3 =
      .ok nestedCompiled ∧
    resultWithin (fun _ => pure (.ok [])) {} nestedStore nestedProject nestedPage 1 =
      .error (.passLimit nestedPage.path 1) := by
  have htwo : resultWithin (fun _ => pure (.ok [])) {} nestedStore nestedProject nestedPage 2 =
      .ok nestedCompiled := Except.eq_ok_of_toOption (by decide +kernel)
  obtain ⟨hthreshold, -⟩ :=
    compile_threshold nestedProject nestedPage (fun _ => pure (.ok [])) {} nestedStore rfl
  obtain ⟨k, hpasses, -, habove, hbelow⟩ := hthreshold.ok 2 nestedCompiled (by decide) htwo
  have hk : k = 2 := Nat.succ.inj hpasses.symm
  subst hk
  exact ⟨rfl, htwo, habove 3 (by decide) (by decide), hbelow 1 (by decide) (by decide)⟩

end Page

end StaticSite
