/-
  Where a page stops at a missing partial.

  Under `error` nothing but a partial that is missing stops the splicing, and it is the
  first one of its pass that cannot be found.  All passes before it came to their end, so
  they are passes under any policy, and so is what is read next: this is how far a page
  comes that fails for a missing partial (`Page.resolve_missing`), and on the way there
  every partial of every pass was found.
-/

import StaticSite.Proofs.Depth
import StaticSite.Proofs.FirstPass
import StaticSite.Proofs.Listing

namespace StaticSite

open Template (Fragment Marker Reference Extraction Replacement fragmentOf)

/-! ## Partials that are found -/

namespace Partial

/-- Whether the file of every partial is found. -/
def AllFound (texts : Path → Option String) (partials : List Partial) : Prop :=
  ∀ p ∈ partials, (texts p.path).isSome

/-- Whether `target` is the first file among those of the partials that is not found. -/
def FirstMissing (texts : Path → Option String) (target : Path) (partials : List Partial) : Prop :=
  texts target = none ∧ ∃ before p after, partials = before ++ p :: after ∧
    AllFound texts before ∧ p.path = target

variable {texts : Path → Option String} {target : Path} {partials : List Partial}

theorem FirstMissing.append (h : FirstMissing texts target partials) (more : List Partial) :
    FirstMissing texts target (partials ++ more) := by
  obtain ⟨hnone, before, p, after, rfl, hbefore, hp⟩ := h
  exact ⟨hnone, before, p, after ++ more, by rw [List.append_assoc, List.cons_append], hbefore, hp⟩

theorem FirstMissing.after {found : List Partial} (h : FirstMissing texts target partials)
    (hfound : AllFound texts found) : FirstMissing texts target (found ++ partials) := by
  obtain ⟨hnone, before, p, after, rfl, hbefore, hp⟩ := h
  exact ⟨hnone, found ++ before, p, after, by rw [List.append_assoc],
    List.forall_mem_append.2 ⟨hfound, hbefore⟩, hp⟩

variable {project : Project} {page : Page} {base : Path}

theorem textFor_of_some {ref : Reference} {content : String}
    (h : texts (resolve project.root base ref.src) = some content) (policy : MissingPolicy) :
    textFor (project.withPolicy policy) (.ofTexts texts) page base ref =
      .ok (Replacement.expand content ref.replace) := by
  unfold textFor
  show (Except.ok (texts (resolve project.root base ref.src)) >>= _) = _
  rw [h]
  rfl

theorem textFor_of_none {ref : Reference}
    (h : texts (resolve project.root base ref.src) = none) :
    textFor (project.withPolicy .error) (.ofTexts texts) page base ref =
      .error (.missingReference page.path (resolve project.root base ref.src)) := by
  unfold textFor
  show (Except.ok (texts (resolve project.root base ref.src)) >>= _) = _
  rw [h]
  rfl

variable (project page base) in
/-- Either all texts are there, whatever the policy, or under `error` the first one that is not
there stops the rest. -/
theorem mapM_textFor (refs : List Reference) :
    (∃ answers, (∀ policy, refs.mapM
        (textFor (project.withPolicy policy) (.ofTexts texts) page base) = .ok answers) ∧
      AllFound texts (refs.map (ofReference project.root base))) ∨
    ∃ target, refs.mapM (textFor (project.withPolicy .error) (.ofTexts texts) page base) =
        .error (.missingReference page.path target) ∧
      FirstMissing texts target (refs.map (ofReference project.root base)) := by
  induction refs with
  | nil => exact .inl ⟨[], fun _ => rfl, nofun⟩
  | cons ref rest ih =>
    simp only [List.mapM_cons]
    cases htext : texts (resolve project.root base ref.src) with
    | none =>
      -- It is the first one that is missing: nothing stands before it.
      rw [textFor_of_none htext]
      exact .inr ⟨_, rfl, htext, [], _, _, rfl, nofun, rfl⟩
    | some content =>
      have hfound : AllFound texts [ofReference project.root base ref] :=
        List.forall_mem_singleton.2 (Option.isSome_iff_exists.2 ⟨content, htext⟩)
      obtain ⟨answers, hrest, hall⟩ | ⟨target, hrest, hmissing⟩ := ih
      · refine .inl ⟨Replacement.expand content ref.replace :: answers, fun policy => ?_,
          List.forall_mem_append.2 ⟨hfound, hall⟩⟩
        rw [textFor_of_some htext, hrest]
        rfl
      · refine .inr ⟨target, ?_, hmissing.after hfound⟩
        rw [textFor_of_some htext, hrest]
        rfl

section Splicing

variable {f g : Fragment}

/-- Splicing that comes to its end under `error` finds the file of every reference, and comes to the
same end under any policy. -/
theorem of_spliceAll_ok
    (h : spliceAll (project.withPolicy .error) (.ofTexts texts) page base f = .ok g) :
    AllFound texts (within project.root base f) ∧ ∀ policy,
      spliceAll (project.withPolicy policy) (.ofTexts texts) page base f = .ok g := by
  rw [spliceAll_eq_mapM] at h
  obtain ⟨answers, hok, hall⟩ | ⟨target, herror, -⟩ :=
    @mapM_textFor texts project page base f.references
  · refine ⟨hall, fun policy => ?_⟩
    rw [spliceAll_eq_mapM, hok, ← h, hok]
  · rw [herror] at h
    cases h

/-- Splicing that fails under `error` does so at the first file that is missing. -/
theorem of_spliceAll_error {e : BuildError}
    (h : spliceAll (project.withPolicy .error) (.ofTexts texts) page base f = .error e) :
    ∃ target, e = .missingReference page.path target ∧
      FirstMissing texts target (within project.root base f) := by
  rw [spliceAll_eq_mapM] at h
  obtain ⟨answers, hok, -⟩ | ⟨target, herror, hmissing⟩ :=
    @mapM_textFor texts project page base f.references
  · rw [hok] at h
    cases h
  · rw [herror] at h
    cases h
    exact ⟨target, rfl, hmissing⟩

end Splicing

end Partial

/-! ## Passes under both policies -/

namespace Pass

variable {project : Project} {page : Page} {texts : Path → Option String}

/-- A first pass under `error` finds all its partials and is one under any policy. -/
theorem First.of_strict {text : String} {resources : ResourceSet} {pass : Pass}
    (h : First (project.withPolicy .error) page texts text resources pass) :
    Partial.AllFound texts (pass.partials project) ∧
      ∀ policy, First (project.withPolicy policy) page texts text resources pass := by
  cases h with
  | alone hread hlayout hspliced =>
    obtain ⟨hall, hany⟩ := Partial.of_spliceAll_ok hspliced
    rw [partials_singleton]
    exact ⟨hall, fun policy => .alone hread hlayout (hany policy)⟩
  | inLayout hread hlayout hpath htext hframe hspliced hinner =>
    obtain ⟨hall, hany⟩ := Partial.of_spliceAll_ok hspliced
    obtain ⟨hall', hany'⟩ := Partial.of_spliceAll_ok hinner
    rw [Partial.within, Page.references_bodyOf] at hall'
    rw [partials_pair]
    exact ⟨List.forall_mem_append.2 ⟨hall, hall'⟩, fun policy =>
      .inLayout hread hlayout hpath htext hframe (hany policy) (hany' policy)⟩

theorem Next.of_strict {before after : Pass}
    (h : Next (project.withPolicy .error) page texts before after) :
    Partial.AllFound texts (after.partials project) ∧
      ∀ policy, Next (project.withPolicy policy) page texts before after := by
  obtain ⟨hread, spliced, hspliced, hwritten⟩ := h
  obtain ⟨hall, hany⟩ := Partial.of_spliceAll_ok hspliced
  refine ⟨?_, fun policy => ⟨hread, spliced, hany policy, hwritten⟩⟩
  rw [Pass.partials, hread, List.flatMap_singleton]
  exact hall

/-- In a chain of passes under `error`, every partial of every pass is found. -/
theorem allFound_of_isChain {first : Pass} {rest : List Pass}
    (hfirst : Partial.AllFound texts (first.partials project))
    (h : (first :: rest).IsChain (Next (project.withPolicy .error) page texts)) :
    ∀ pass ∈ first :: rest, Partial.AllFound texts (pass.partials project) :=
  List.IsChain.induction _ _ h (fun _ _ hnext _ => hnext.of_strict.1) fun _ => hfirst

end Pass

/-! ## How far a page comes -/

namespace Page

variable (project : Project) (page : Page) (texts : Path → Option String) (text : String) in
/-- How far a page comes that stops at a missing file: it went through passes that find all their
partials, and in what it reads next, this file is the first that is missing.  All of this is the
same under every policy. -/
def StopsAt (target : Path) : Prop :=
  ∃ passes reads,
    (∀ policy, Reads (project.withPolicy policy) page texts text passes reads) ∧
    (∀ pass ∈ passes, Partial.AllFound texts (pass.partials project)) ∧
    Partial.FirstMissing texts target
      (reads.flatMap fun read => Partial.within project.root read.1 read.2)

variable {project : Project} {page : Page} {texts : Path → Option String} {text : String}
variable {source target : Path}

/-- What is read next after passes under `error` is read under any policy. -/
theorem Reads.of_strict {passes : List Pass} {reads : List (Path × Fragment)}
    (h : Reads (project.withPolicy .error) page texts text passes reads) (policy : MissingPolicy) :
    Reads (project.withPolicy policy) page texts text passes reads := by
  cases h with
  | alone hread hlayout => exact .alone hread hlayout
  | inLayout hread hlayout hpath htext hframe =>
    exact .inLayout hread hlayout hpath htext hframe
  | buffer hfirst hnext =>
    exact .buffer (hfirst.of_strict.2 policy) (hnext.imp fun _ _ h => h.of_strict.2 policy)

/-- A page that is not merged stops at a file of the first pass. -/
theorem merged_missing
    (h : merged (project.withPolicy .error) page texts text =
      .error (.missingReference source target)) : StopsAt project page texts text target := by
  obtain ⟨roots, hcheck⟩ | ⟨path, hpath⟩ | ⟨before, base, f, after, hreads, hbefore, herror⟩ :=
    error_of_merged h
  · -- The check takes a missing file for one without references, and fails for other reasons only.
    obtain ⟨_, he⟩ | he := Partial.error_of_checkCycles hcheck <;> cases he
  · cases hpath
  · obtain ⟨_, he, hmissing⟩ := Partial.of_spliceAll_error herror
    cases he
    refine ⟨[], _, hreads.of_strict, nofun, ?_⟩
    rw [List.flatMap_append, List.flatMap_cons]
    refine (hmissing.append _).after fun p hp => ?_
    obtain ⟨read, hread, hp⟩ := List.mem_flatMap.1 hp
    obtain ⟨g, hspliced⟩ := hbefore read hread
    exact (Partial.of_spliceAll_ok hspliced).1 p hp

/-- A loop that fails for a missing file has gone through some passes before. -/
theorem passesFrom_missing {left : Nat} {p : Progress} {before : Pass}
    (hp : p.html = before.written.render)
    (h : passesFrom (project.withPolicy .error) (.ofTexts texts) page left p =
      .error (.missingReference source target)) :
    ∃ rest, (before :: rest).IsChain (Pass.Next (project.withPolicy .error) page texts) ∧
      Partial.FirstMissing texts target (Partial.within project.root page.dir
        ((before :: rest).getLast (List.cons_ne_nil before rest)).reread) := by
  induction left generalizing p before with
  | zero =>
    -- With no pass left, the loop ends or fails at the bound.
    rw [passesFrom_zero] at h
    split at h <;> cases h
  | succ left ih =>
    rw [passesFrom_succ, hp] at h
    split at h
    · cases h
    · obtain hsplice | ⟨spliced, hspliced, h⟩ := Except.bind_eq_error h
      · obtain ⟨_, he, hmissing⟩ := Partial.of_spliceAll_error hsplice
        cases he
        exact ⟨[], .singleton _, hmissing⟩
      · -- The pass found all its partials, so the missing one is met in a later pass.
        have hhtml : (p.spliced (fragmentOf before.written.render) spliced).html
            = (Pass.mk [(page.dir, before.reread)] spliced.withoutSlots).written.render := rfl
        obtain ⟨rest, hchain, hmissing⟩ := ih hhtml h
        refine ⟨_ :: rest, .cons_cons ⟨rfl, spliced, hspliced, rfl⟩ hchain, ?_⟩
        rw [List.getLast_cons (List.cons_ne_nil _ _)]
        exact hmissing

/-- A page that fails for a missing file stops at the first one that it comes to. -/
theorem resolve_missing
    (h : resolve (project.withPolicy .error) (.ofTexts texts) page text =
      .error (.missingReference source target)) : StopsAt project page texts text target := by
  rw [resolve_eq_merged] at h
  obtain hmerged | ⟨merged, hmerged, h⟩ := Except.bind_eq_error h
  · exact merged_missing hmerged
  obtain ⟨first, hfirst, hp⟩ := first_of_merge (layout_withPageAssets _ _ _) hmerged
  obtain hfurther | ⟨_, -, h⟩ := Except.bind_eq_error h
  · rw [show afterMerge (project.withPolicy .error) merged = Progress.afterFirst first from
      Except.ok.inj ((firstPass_ofTexts merged).symm.trans hp)] at hfurther
    by_cases hrefs : first.references = []
    · rw [furtherPasses_of_nil hrefs] at hfurther
      cases hfurther
    · rw [furtherPasses_of_ne_nil hrefs] at hfurther
      obtain ⟨rest, hchain, hmissing⟩ := passesFrom_missing rfl hfurther
      refine ⟨first :: rest, _, Reads.of_strict (.buffer hfirst hchain),
        Pass.allFound_of_isChain hfirst.of_strict.1 hchain, ?_⟩
      rw [List.flatMap_singleton]
      exact hmissing
  · cases h

end Page

end StaticSite
