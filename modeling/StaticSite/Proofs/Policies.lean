/-
  The two policies for partials that are missing.

  Under `error` a partial that is missing fails the page, under `warn` it counts as empty.
  Only the text of a reference is a place where the policy matters.  So two runs of one
  compilation, one under each policy, go through the same states until they come to a
  reference whose file is missing (`Page.Beside`); there the first one stops, and the other
  goes on with nothing in the place of the reference.  One lemma for each thing that a page
  asks for shows that it keeps the runs together, and the simulation does the rest
  (`Page.compile_policies`).
-/

import StaticSite.Proofs.FirstMissing

namespace StaticSite

open Template (Reference)

/-- The page and the file of a failure that is about a missing partial. -/
def BuildError.missing? : BuildError → Option (Path × Path)
  | .missingReference page target => some (page, target)
  | _ => none

theorem BuildError.eq_of_missing? {e : BuildError} {page target : Path}
    (h : e.missing? = some (page, target)) : e = .missingReference page target := by
  cases e <;> cases h
  rfl

/-! ## Runs that go on -/

/-- How a later state of a build comes after an earlier one: more was told and read, and the same
texts are found. -/
structure Session.Later (session : Session) (store : Store) (session' : Session)
    (store' : Store) : Prop where
  found : session'.found store' = session.found store
  notices : session.notices <+: session'.notices
  reads : store.reads <:+ store'.reads

namespace Session.Later

variable {session session' session'' : Session} {store store' store'' : Store}

theorem refl (session : Session) (store : Store) : session.Later store session store where
  found := rfl
  notices := List.prefix_rfl
  reads := List.suffix_rfl

theorem trans (h : session.Later store session' store')
    (h' : session'.Later store' session'' store'') : session.Later store session'' store'' where
  found := h'.found.trans h.found
  notices := h.notices.trans h'.notices
  reads := h.reads.trans h'.reads

end Session.Later

/-- A run of a build beside itself, from every state to a later one. -/
def BuildM.advances : MonadRel (BuildM (StateM Store)) (BuildM (StateM Store)) where
  rel x y := x = y ∧ ∀ (session : Session) (store : Store),
    session.Later store (x.runOver session store).1.2 (x.runOver session store).2
  pure _ := ⟨rfl, fun session store => .refl session store⟩
  bind {α β x y f g} hx hf := by
    obtain ⟨rfl, hx⟩ := hx
    refine ⟨congrArg (x >>= ·) (funext fun a => (hf a).1), fun session store => ?_⟩
    have hlater := hx session store
    rw [BuildM.runOver_bind]
    generalize x.runOver session store = before at hlater
    obtain ⟨⟨_ | a, session'⟩, store'⟩ := before
    · exact hlater
    · exact hlater.trans ((hf a).2 session' store')

namespace BuildM

theorem advances_tell (notices : List Notice) :
    advances.rel (tell notices) (tell notices) :=
  ⟨rfl, fun session store => { Session.Later.refl session store with
    notices := List.prefix_append _ _ }⟩

theorem advances_throw {α : Type} (e : BuildError) :
    advances.rel (throw e : BuildM (StateM Store) α) (throw e) :=
  ⟨rfl, fun session store => .refl session store⟩

theorem advances_readCached (path : Path) :
    advances.rel (readCached Store.source path) (readCached Store.source path) := by
  refine ⟨rfl, fun session store => ?_⟩
  obtain ⟨a, store', hlook, hrun⟩ := runOver_readCached session store path
  rw [hrun]
  have hledger := ((Ledger.start session store).look hlook).2 (session.notices ++ a.notices)
  refine ⟨hledger.found, List.prefix_append _ _, ?_⟩
  rw [hlook.reads]
  split
  · exact List.suffix_rfl
  · exact List.suffix_cons _ _

theorem advances_readExisting (path : Path) :
    advances.rel (readExisting Store.source path) (readExisting Store.source path) := by
  refine ⟨rfl, fun session store => ?_⟩
  rw [runOver_readExisting]
  split
  · exact (advances_readCached path).2 session store
  · exact .refl session store

theorem advances_readPage (path : Path) :
    advances.rel (readPage Store.source path) (readPage Store.source path) := by
  refine advances.bind ⟨rfl, fun session store => ?_⟩ fun reading =>
    advances.bind (advances_tell _) fun _ => advances.pure _
  -- The read is put down in the store; its texts stay.
  have hread : (Store.source.read path).run store = _ := Store.read_run store path
  rw [runOver_attempt, hread]
  exact ⟨rfl, List.prefix_rfl, List.suffix_cons _ _⟩

theorem advances_supply :
    (supply Store.source).Agree advances (supply Store.source) where
  layout? := advances_readExisting
  partial? := advances_readCached
  tell := advances_tell
  throw := advances_throw

end BuildM

/-! ## Two runs beside each other -/

section Beside

variable (project : Project) (page : Page)

/-- What happens where a run comes to a missing partial `p`, seen from the states in which the run
that stops there and the run that goes on end: from one state both are asked for the text of one
reference; the first run ends there, and the other takes nothing for it. -/
inductive Partial.Missed (session : Session) (store : Store) (p : Path)
    (stopped : Session × Store) (done : Session × Store) : Prop where
  | at (base : Path) (ref : Reference) {session₁ session₂ : Session} {store₁ store₂ : Store}
    (reached : session.Later store session₁ store₁)
    (target : p = resolve project.root base ref.src)
    (missing : session₁.found store₁ p = none)
    (stops : (textFor (project.withPolicy .error) (BuildM.supply Store.source) page base ref).runOver
      session₁ store₁ = ((.error (.missingReference page.path p), stopped.1), stopped.2))
    (skips : (textFor (project.withPolicy .warn) (BuildM.supply Store.source) page base ref).runOver
      session₁ store₁ = ((.ok "", session₂), store₂))
    (goesOn : session₂.Later store₂ done.1 done.2)

/-- The ends of two runs from one state, the first under `error` and the second under `warn`: they
are the same, or a partial was missing. -/
inductive Page.Beside {α : Type} (session : Session) (store : Store) :
    (Except BuildError α × Session) × Store → (Except BuildError α × Session) × Store → Prop where
  | same {result : Except BuildError α} {session' : Session} {store' : Store}
    (later : session.Later store session' store')
    (other : ∀ e, result = .error e → e.missing? = none) :
    Beside session store ((result, session'), store') ((result, session'), store')
  | parted {p : Path} {result : Except BuildError α} {stopped done : Session × Store}
    (missed : Partial.Missed project page session store p stopped done) :
    Beside session store ((.error (.missingReference page.path p), stopped.1), stopped.2)
      ((result, done.1), done.2)

variable {project page}

theorem Partial.Missed.from {session₀ session : Session} {store₀ store : Store} {p : Path}
    {stopped done : Session × Store} (h : Missed project page session store p stopped done)
    (hlater : session₀.Later store₀ session store) :
    Missed project page session₀ store₀ p stopped done := by
  obtain ⟨base, ref, hreached, htarget, hmissing, hstops, hskips, hgoesOn⟩ := h
  exact .at base ref (hlater.trans hreached) htarget hmissing hstops hskips hgoesOn

theorem Partial.Missed.until {session : Session} {store : Store} {p : Path}
    {stopped done last : Session × Store} (h : Missed project page session store p stopped done)
    (hlater : done.1.Later done.2 last.1 last.2) :
    Missed project page session store p stopped last := by
  obtain ⟨base, ref, hreached, htarget, hmissing, hstops, hskips, hgoesOn⟩ := h
  exact .at base ref hreached htarget hmissing hstops hskips (hgoesOn.trans hlater)

/-- Ends that are the same in all that they hold. -/
theorem Page.Beside.of_eq {α : Type} {session : Session} {store : Store}
    {last last' : (Except BuildError α × Session) × Store} (heq : last = last')
    (hlater : session.Later store last'.1.2 last'.2)
    (hother : ∀ e, last'.1.1 = .error e → e.missing? = none) :
    Beside project page session store last last' := by
  subst heq
  exact .same hlater hother

variable (project page) in
/-- Two runs that end beside each other, whatever the state they start from. -/
def Page.beside : MonadRel (BuildM (StateM Store)) (BuildM (StateM Store)) where
  rel x y := ∀ session store,
    Beside project page session store (x.runOver session store) (y.runOver session store) ∧
      session.Later store (y.runOver session store).1.2 (y.runOver session store).2
  pure _ session store := ⟨.same (.refl session store) nofun, .refl session store⟩
  bind {α β x y f g} hx hf session store := by
    obtain ⟨hbeside, hlater⟩ := hx session store
    rw [BuildM.runOver_bind, BuildM.runOver_bind]
    generalize x.runOver session store = last at hbeside
    generalize y.runOver session store = last' at hbeside hlater
    cases hbeside with
    | @same result session₁ store₁ hlater hother =>
      cases result with
      | error e => exact ⟨.same hlater fun e' he => hother e' (by cases he; rfl), hlater⟩
      | ok a =>
        -- Both go on from one state.
        obtain ⟨hrest, hlast⟩ := hf a session₁ store₁
        refine ⟨?_, hlater.trans hlast⟩
        dsimp only
        generalize (f a).runOver session₁ store₁ = last at hrest
        generalize (g a).runOver session₁ store₁ = last' at hrest hlast
        cases hrest with
        | same hlater' hother => exact .same (hlater.trans hlater') hother
        | parted hmissed => exact .parted (hmissed.from hlater)
    | @parted p result stopped done hmissed =>
      cases result with
      | error e => exact ⟨.parted hmissed, hlater⟩
      | ok a =>
        -- The first run has stopped, so what the second one does counts only for its end.
        obtain ⟨-, hlast⟩ := hf a done.1 done.2
        dsimp only
        generalize (g a).runOver done.1 done.2 = last' at hlast
        obtain ⟨⟨result, session'⟩, store'⟩ := last'
        exact ⟨@Beside.parted _ _ _ _ _ p result stopped (session', store') (hmissed.until hlast),
          hlater.trans hlast⟩

/-- Steps that do not know the policy stay together, if they cannot fail for a missing partial. -/
theorem Page.beside_of_advances {α : Type} {x y : BuildM (StateM Store) α}
    (h : BuildM.advances.rel x y)
    (hother : ∀ session store e, (y.runOver session store).1.1 = .error e → e.missing? = none) :
    (beside project page).rel x y := by
  obtain ⟨rfl, hlater⟩ := h
  exact fun session store =>
    ⟨.of_eq rfl (hlater session store) (hother session store), hlater session store⟩

end Beside

/-! ## What a page asks for -/

namespace Partial

variable (project : Project) (page : Page)

/-- The check for cycles does not fail for a missing partial. -/
theorem checkCycles_other {session : Session} {store : Store} {roots : List Partial} {e : BuildError}
    (h : ((checkCycles project (BuildM.supply Store.source) page roots).runOver session
      store).1.1 = .error e) : e.missing? = none := by
  have hcheck : checkOver project page session store project.maxDepth roots = .error e := h
  rw [checkOver_eq] at hcheck
  obtain ⟨_, rfl⟩ | rfl := error_of_checkCycles hcheck <;> rfl

variable (base : Path) (ref : Reference) {session : Session} {store : Store}

/-- What is told about a directive. -/
def directiveNotices (ref : Reference) : List Notice :=
  (ref.replace.map Template.Replacement.notices).getD []

/-- The text of a partial that is found does not depend on the policy. -/
theorem textFor_found {content : String}
    (h : session.found store (resolve project.root base ref.src) = some content) :
    ∃ session' store', ∀ policy,
      (textFor (project.withPolicy policy) (BuildM.supply Store.source) page base ref).runOver
          session store =
        ((.ok (Template.Replacement.expand content ref.replace), session'), store') := by
  obtain ⟨a, store', hlook, hrun⟩ :=
    BuildM.runOver_readCached session store (resolve project.root base ref.src)
  -- The policy is looked at only where no text comes back.
  have hanswer : a.text? = some content := hlook.answer.trans h
  rw [hanswer] at hrun
  refine ⟨{ session with
      cache := a.cache
      notices := session.notices ++ a.notices ++ [.splicing (resolve project.root base ref.src)]
        ++ directiveNotices ref }, store', fun policy => ?_⟩
  unfold textFor
  refine (BuildM.runOver_bind
    (BuildM.readCached Store.source (resolve project.root base ref.src)) _ _ _).trans ?_
  rw [hrun]
  rfl

/-- Where the file of a reference is missing, the two policies part. -/
theorem textFor_missing
    (h : session.found store (resolve project.root base ref.src) = none) :
    ∃ session' store',
      (textFor (project.withPolicy .error) (BuildM.supply Store.source) page base ref).runOver
          session store =
        ((.error (.missingReference page.path (resolve project.root base ref.src)), session'),
          store') ∧
      (textFor (project.withPolicy .warn) (BuildM.supply Store.source) page base ref).runOver
          session store =
        ((.ok "", { session' with notices := session'.notices ++
          [.missingReference page.path (resolve project.root base ref.src)] ++
            [.splicing (resolve project.root base ref.src)] ++ directiveNotices ref }), store') := by
  obtain ⟨a, store', hlook, hrun⟩ :=
    BuildM.runOver_readCached session store (resolve project.root base ref.src)
  have hanswer : a.text? = none := hlook.answer.trans h
  rw [hanswer] at hrun
  refine ⟨{ session with cache := a.cache, notices := session.notices ++ a.notices }, store', ?_, ?_⟩
  · unfold textFor
    refine (BuildM.runOver_bind
      (BuildM.readCached Store.source (resolve project.root base ref.src)) _ _ _).trans ?_
    rw [hrun]
    rfl
  · unfold textFor
    refine (BuildM.runOver_bind
      (BuildM.readCached Store.source (resolve project.root base ref.src)) _ _ _).trans ?_
    rw [hrun]
    -- A directive finds nothing to replace in the empty text.
    show ((Except.ok (Template.Replacement.expand "" ref.replace), _), _) = _
    rw [expand_empty]
    rfl

theorem textFor_advances (project : Project) (base : Path) (ref : Reference) :
    BuildM.advances.rel (textFor project (BuildM.supply Store.source) page base ref)
      (textFor project (BuildM.supply Store.source) page base ref) :=
  textFor_rel BuildM.advances_supply project page base ref

/-- The text of a reference keeps two runs beside each other. -/
theorem textFor_beside : (Page.beside project page).rel
    (textFor (project.withPolicy .error) (BuildM.supply Store.source) page base ref)
    (textFor (project.withPolicy .warn) (BuildM.supply Store.source) page base ref) := by
  intro session store
  have hlater := (textFor_advances page (project.withPolicy .warn) base ref).2 session store
  refine ⟨?_, hlater⟩
  cases hfound : session.found store (resolve project.root base ref.src) with
  | some content =>
    obtain ⟨session', store', hrun⟩ := textFor_found project page base ref hfound
    rw [hrun .error, hrun .warn]
    rw [hrun .warn] at hlater
    exact .same hlater nofun
  | none =>
    obtain ⟨session', store', hstops, hskips⟩ := textFor_missing project page base ref hfound
    rw [hstops, hskips]
    refine @Page.Beside.parted _ _ _ _ _ _ _ (session', store') (_, store') ?_
    exact .at base ref (.refl session store) rfl hfound hstops hskips (.refl _ _)

end Partial

namespace Page

variable (project : Project) (page : Page)

theorem agree_beside :
    Agree (beside project page) (project.withPolicy .error) .warn page
      (BuildM.supply Store.source) (BuildM.supply Store.source) where
  tell notices := beside_of_advances (BuildM.advances_tell notices) nofun
  check roots := beside_of_advances
    (Partial.checkCycles_rel BuildM.advances_supply project page roots)
    fun _ _ _ => Partial.checkCycles_other project page
  text base ref := Partial.textFor_beside project page base ref
  noLayout path := beside_of_advances (BuildM.advances_throw _) fun _ _ e he => by
    cases he
    rfl
  limit count := beside_of_advances (BuildM.advances_throw _) fun _ _ e he => by
    cases he
    rfl

/-- Whether there is a layout does not depend on the policy. -/
theorem layout_beside (path : Path) : (beside project page).rel
    (BuildM.readExisting Store.source path) (BuildM.readExisting Store.source path) :=
  beside_of_advances (BuildM.advances_readExisting path) fun session store e he => by
    rw [BuildM.runOver_readExisting] at he
    split at he
    · obtain ⟨a, store', -, hrun⟩ := BuildM.runOver_readCached session store path
      rw [hrun] at he
      cases he
    · cases he

theorem readPage_beside (path : Path) : (beside project page).rel
    (BuildM.readPage Store.source path) (BuildM.readPage Store.source path) :=
  beside_of_advances (BuildM.advances_readPage path) fun session store e he => by
    obtain ⟨notices, hrun⟩ := BuildM.runOver_readPage session store path
    rw [hrun] at he
    cases htext : store.text? path with
    | some text =>
      rw [htext] at he
      cases he
    | none =>
      rw [htext] at he
      cases he
      rfl

variable (ensureStubs : ResourceSet → StateM Store (Except FileError (List Path)))

theorem finish_beside (hcreate : project.config.assets.createMissing = false)
    (compiled : CompiledPage) : (beside project page).rel
      (finish (project.withPolicy .error) page ensureStubs compiled)
      (finish (project.withPolicy .warn) page ensureStubs compiled) := by
  have hcreate' (policy : MissingPolicy) :
      (project.withPolicy policy).config.assets.createMissing = false := hcreate
  unfold finish
  rw [hcreate', hcreate']
  refine (beside project page).bind ((beside project page).pure []) fun stubs => ?_
  exact (beside project page).bind ((agree_beside project page).tell _) fun _ =>
    (beside project page).pure _

/-- The compilation of a page over a store under a policy: how it ends, and the session and the
store after it. -/
def compileUnder (policy : MissingPolicy) (session : Session) (store : Store) :
    (Except BuildError CompiledPage × Session) × Store :=
  (compile (project.withPolicy policy) page Store.source ensureStubs).runOver session store

theorem compile_beside (hcreate : project.config.assets.createMissing = false)
    (session : Session) (store : Store) :
    Beside project page session store (compileUnder project page ensureStubs .error session store)
      (compileUnder project page ensureStubs .warn session store) := by
  unfold compileUnder
  rw [compile_eq, compile_eq]
  refine ((beside project page).bind ?_ (finish_beside project page ensureStubs hcreate) session
    store).1
  refine (beside project page).bind (readPage_beside project page page.path) fun text => ?_
  exact resolve_rel_of_layout (agree_beside project page) text fun layout _ _ =>
    layout_beside project page _

end Page

/-! ## Pages all of whose partials are there -/

/-- What is known of a page that compiled under `error`: it went through passes, and every partial
in each of them was found. -/
structure CompiledPage.Complete (c : CompiledPage) (project : Project) (page : Page)
    (texts : Path → Option String) (text : String) (first : Pass) (rest : List Pass) : Prop where
  starts : Pass.First project page texts text c.resources first
  goesOn : (first :: rest).IsChain (Pass.Next project page texts)
  html : c.html = ((first :: rest).getLast (List.cons_ne_nil _ _)).written.render
  length : c.passes = (first :: rest).length
  found : ∀ pass ∈ first :: rest, Partial.AllFound texts (pass.partials project)

namespace Page

variable {project : Project} {page : Page}

theorem complete_of_resolve {texts : Path → Option String} {text : String} {c : CompiledPage}
    (h : resolve (project.withPolicy .error) (.ofTexts texts) page text = .ok c) :
    ∃ first rest, c.Complete (project.withPolicy .error) page texts text first rest := by
  obtain ⟨first, hfirst, ⟨-, hhtml, hpasses, -⟩ | ⟨-, rest, last, hchain, -, hhtml, hpasses, -⟩⟩ :=
    resolve_eq_ok h
  · -- Nothing was left to splice after the first pass.
    exact ⟨first, [], {
      starts := hfirst
      goesOn := .singleton _
      html := hhtml
      length := hpasses
      found := List.forall_mem_singleton.2 hfirst.of_strict.1 }⟩
  · refine ⟨first, rest ++ [last], {
      starts := hfirst
      goesOn := hchain.next
      html := ?_
      length := ?_
      found := Pass.allFound_of_isChain hfirst.of_strict.1 hchain.next }⟩
    · rw [hhtml]
      congr 2
      rw [List.getLast_cons (List.append_ne_nil_of_right_ne_nil _ (List.cons_ne_nil _ _)),
        List.getLast_append_singleton]
    · rw [hpasses, List.length_cons, List.length_append]
      rfl

end Page

/-- A partial that is missing somewhere was missing from the start. -/
theorem Partial.Missed.missing {project : Project} {page : Page} {session : Session} {store : Store}
    {p : Path} {stopped done : Session × Store}
    (h : Missed project page session store p stopped done) : session.found store p = none := by
  obtain ⟨_, _, hreached, -, hmissing, -, -, -⟩ := h
  rw [← hreached.found, hmissing]

/-- What was told up to a missing partial is told by both runs; the one that goes on then says what
is missing, and that it splices it. -/
theorem Partial.Missed.told {project : Project} {page : Page} {session : Session} {store : Store}
    {p : Path} {stopped done : Session × Store}
    (h : Missed project page session store p stopped done) :
    stopped.1.notices ++ [.missingReference page.path p, .splicing p] <+: done.1.notices ∧
      stopped.2.reads <:+ done.2.reads := by
  obtain ⟨base, ref, -, rfl, hmissing, hstops, hskips, hgoesOn⟩ := h
  obtain ⟨session', store', hstops', hskips'⟩ := textFor_missing project page base ref hmissing
  rw [hstops'] at hstops
  rw [hskips'] at hskips
  cases hstops
  cases hskips
  refine ⟨.trans ?_ hgoesOn.notices, hgoesOn.reads⟩
  rw [List.append_assoc _ [_] [_]]
  exact List.prefix_append _ _

namespace Page

variable {project : Project} {page : Page}

/-- Only a page that cannot be read has no text to compile. -/
theorem exists_text_of_result {texts : Path → Option String} {text? : Option String}
    {result : Except BuildError CompiledPage} (h : result = resultOf project page texts text?)
    (hread : ∀ cause, result ≠ .error (.read page.path cause)) :
    ∃ text, text? = some text ∧ resolve project (.ofTexts texts) page text = result := by
  cases text? with
  | none => exact absurd h (hread _)
  | some text => exact ⟨text, rfl, h.symm⟩

/-- The two policies agree wherever nothing is missing.  A page that compiles under `error`, or
fails there for any other reason than a missing partial, does the same under `warn`, to the last
read; and if it compiles, every partial in every pass was found.  If it fails for a missing partial
`p`, then `p` cannot be found and is the first such file in the same place of the same pass for both;
the run under `warn` comes to the same reference in the same state, after all that was told and read
before, and takes nothing for it. -/
theorem compile_policies (hcreate : project.config.assets.createMissing = false)
    (ensureStubs : ResourceSet → StateM Store (Except FileError (List Path))) (session : Session)
    (store : Store) :
    let strict := compileUnder project page ensureStubs .error session store
    let lenient := compileUnder project page ensureStubs .warn session store
    (∀ c, strict.1.1 = .ok c → lenient = strict ∧
      ∃ text first rest, store.text? page.path = some text ∧
        c.Complete (project.withPolicy .error) page (session.found store) text first rest) ∧
    (∀ e, strict.1.1 = .error e → e.missing? = none → lenient = strict) ∧
    (∀ source p, strict.1.1 = .error (.missingReference source p) →
      source = page.path ∧ session.found store p = none ∧
      (∃ text, store.text? page.path = some text ∧
        StopsAt project page (session.found store) text p) ∧
      Partial.Missed project page session store p (strict.1.2, strict.2) (lenient.1.2, lenient.2) ∧
      strict.1.2.notices ++ [.missingReference page.path p, .splicing p]
        <+: lenient.1.2.notices ∧
      strict.2.reads <:+ lenient.2.reads) := by
  intro strict lenient
  have hresult : strict.1.1 = resultOf (project.withPolicy .error) page (session.found store)
      (store.text? page.path) := compile_result _ page ensureStubs session store hcreate
  have hbeside : Beside project page session store strict lenient :=
    compile_beside project page ensureStubs hcreate session store
  generalize strict = strict at hresult hbeside
  generalize lenient = lenient at hbeside
  cases hbeside with
  | same _ hother =>
    -- A run that parts from the other one fails, so these two went all the way together.
    refine ⟨fun c hc => ⟨rfl, ?_⟩, fun _ _ _ => rfl, fun source p hp => ?_⟩
    · rw [hc] at hresult
      obtain ⟨text, htext, hresolve⟩ := exists_text_of_result hresult nofun
      obtain ⟨first, rest, hcomplete⟩ := complete_of_resolve hresolve
      exact ⟨text, first, rest, htext, hcomplete⟩
    · cases hother _ hp
  | parted hmissed =>
    -- The failure is the one of the missing partial, and both runs came to it.
    refine ⟨nofun, fun e he hother => ?_, fun source p hp => ?_⟩
    · cases he
      cases hother
    · obtain ⟨htold, hread⟩ := hmissed.told
      cases hp
      obtain ⟨text, htext, hresolve⟩ := exists_text_of_result hresult nofun
      exact ⟨rfl, hmissed.missing, ⟨text, htext, resolve_missing hresolve⟩, hmissed, htold, hread⟩

/-! ### A partial with a reference to nothing -/

def absentStore : Store where
  files := [
    ((⟨"/p"⟩ : Path).components, "<embed type=ham/partial src=a>"),
    ((⟨"/a"⟩ : Path).components, "A<embed type=ham/partial src=b data-ham-replace=k:1>")]

/-- The page and the file of a result that is about a missing partial. -/
def missingOf? : Except BuildError CompiledPage → Option (Path × Path)
  | .error e => e.missing?
  | .ok _ => none

theorem eq_of_missingOf? {result : Except BuildError CompiledPage} {page target : Path}
    (h : missingOf? result = some (page, target)) :
    result = .error (.missingReference page target) := by
  cases result with
  | error e => rw [BuildError.eq_of_missing? h]
  | ok c => cases h

/-- The second pass under `error` stops; under `warn` the page goes on to its end. -/
theorem compile_policies_absent :
    nestedProject.config.assets.createMissing = false ∧
    let strict := compileUnder nestedProject nestedPage (fun _ => pure (.ok [])) .error {} absentStore
    let lenient := compileUnder nestedProject nestedPage (fun _ => pure (.ok [])) .warn {} absentStore
    strict.1.1 = .error (.missingReference nestedPage.path ⟨"/b"⟩) ∧
      lenient.1.1.toOption.isSome ∧
      Session.found {} absentStore ⟨"/b"⟩ = none ∧
      (∃ text, absentStore.text? nestedPage.path = some text ∧
        StopsAt nestedProject nestedPage (Session.found {} absentStore) text ⟨"/b"⟩) ∧
      Partial.Missed nestedProject nestedPage {} absentStore ⟨"/b"⟩ (strict.1.2, strict.2)
        (lenient.1.2, lenient.2) := by
  have hcreate : nestedProject.config.assets.createMissing = false := rfl
  have hstrict : (compileUnder nestedProject nestedPage (fun _ => pure (.ok [])) .error {}
      absentStore).1.1 = .error (.missingReference nestedPage.path ⟨"/b"⟩) :=
    eq_of_missingOf? (by decide +kernel)
  obtain ⟨-, -, hmissing⟩ := @compile_policies nestedProject nestedPage hcreate
    (fun _ => pure (.ok [])) {} absentStore
  obtain ⟨-, hnone, ⟨text, htext, hstops⟩, hmissed, -, -⟩ := hmissing _ _ hstrict
  exact ⟨hcreate, hstrict, by decide +kernel, hnone, ⟨text, htext, hstops⟩, hmissed⟩

end Page

end StaticSite
