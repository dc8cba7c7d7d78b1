/-
  Compilation over given texts.

  A store that nobody changes is a function from paths to texts, and a compilation over it
  is a function of these texts: `Supply.ofTexts` answers from the function and keeps no
  state, `Supply.logged` also keeps the paths that it was asked for.  A build over a store
  answers from its cache first.  A `Ledger` says what the cache holds and how often the
  store was read after some lookups; every lookup keeps the ledger, and so compiling over
  the store comes to what compiling over the texts comes to (`Page.compile_run`).
-/

import StaticSite.Proofs.Simulation

namespace StaticSite

/-! ## Supplies without a store -/

/-- Answers from given texts; a text that is not there is missing. -/
def Supply.ofTexts (texts : Path → Option String) : Supply (Except BuildError) where
  layout? path := .ok (texts path)
  partial? path := .ok (texts path)
  tell _ := .ok ()

theorem Supply.layout?_ofTexts (texts : Path → Option String) (path : Path) :
    (Supply.ofTexts texts).layout? path = .ok (texts path) := rfl

theorem Supply.partial?_ofTexts (texts : Path → Option String) (path : Path) :
    (Supply.ofTexts texts).partial? path = .ok (texts path) := rfl

theorem Supply.tell_ofTexts (texts : Path → Option String) (notices : List Notice) :
    (Supply.ofTexts texts).tell notices = .ok () := rfl

/-- A run that keeps the paths it asked for, in order. -/
abbrev LoggedM := ExceptT BuildError (StateM (List Path))

def LoggedM.lookup (texts : Path → Option String) (path : Path) : LoggedM (Option String) := do
  modify (· ++ [path])
  return texts path

/-- Answers from given texts and keeps the paths. -/
def Supply.logged (texts : Path → Option String) : Supply LoggedM where
  layout? := LoggedM.lookup texts
  partial? := LoggedM.lookup texts
  tell _ := pure ()

/-- A run comes to the same end whether the paths are kept or not. -/
def LoggedM.sameEnd : MonadRel LoggedM (Except BuildError) where
  rel x y := ∀ log, (x.run.run log).1 = y
  pure _ _ := rfl
  bind {α β x y f g} hx hf log := by
    have hrun : ((x >>= f).run.run log)
        = (ExceptT.bindCont f (x.run.run log).1).run (x.run.run log).2 := rfl
    rw [hrun, hx log]
    cases y with
    | error e => rfl
    | ok a => exact hf a _

theorem Supply.logged_agree (texts : Path → Option String) :
    (Supply.logged texts).Agree LoggedM.sameEnd (Supply.ofTexts texts) :=
  ⟨fun _ _ => rfl, fun _ _ => rfl, fun _ _ => rfl, fun _ _ => rfl⟩

/-! ## One read -/

theorem Store.text?_insert (store : Store) (p q : Path) (text : String) :
    (store.insert p text).text? q
      = if q.components = p.components then some text else store.text? q := by
  rw [text?, insert, List.lookup_cons]
  by_cases h : q.components = p.components
  · simp [h]
  · have hne : (q.components == p.components) = false := by simpa using h
    simp only [hne, if_neg h]
    rfl

theorem Store.read_run (store : Store) (path : Path) :
    (Store.read path).run store =
      ((match store.text? path with
        | some text => .ok { text }
        | none => .error (.notStored path)),
       { store with reads := path.components :: store.reads }) := by
  have htext : (Store.mk store.files (path.components :: store.reads)).text? path
      = store.text? path := rfl
  cases h : store.text? path with
  | none => simp [Store.read, StateT.run_bind, htext, h]; rfl
  | some text => simp [Store.read, StateT.run_bind, htext, h]; rfl

theorem Store.readCount_cons (store : Store) (path p : Path) :
    Store.readCount { store with reads := path.components :: store.reads } p
      = store.readCount p + if path.same p then 1 else 0 := by
  rw [Store.readCount, List.count_cons]
  rfl

namespace Cache

theorem text?_congr (cache : Cache) {p q : Path} (h : p.components = q.components) :
    cache.text? p = cache.text? q := by
  rw [text?, text?, h]

theorem text?_hit (cache : Cache) (path : Path) : cache.hit.text? path = cache.text? path := rfl

theorem text?_keep (cache : Cache) (path : Path) (text : String) (q : Path) :
    (cache.keep path text).text? q
      = if q.components = path.components then some text else cache.text? q := by
  simp only [text?, keep, List.lookup_cons]
  by_cases h : q.components = path.components
  · simp [h]
  · have hne : (q.components == path.components) = false := by simpa using h
    simp [hne, h]

theorem has_run (cache : Cache) (store : Store) (path : Path) :
    (cache.has Store.source path).run store
      = ((cache.text? path).isSome || (store.text? path).isSome, store) := by
  unfold has
  cases h : cache.text? path with
  | some text => simp; rfl
  | none => simp; rfl

/-- A text that is kept is not read again. -/
theorem read_kept {cache : Cache} {path : Path} {text : String}
    (hkept : cache.text? path = some text) (store : Store) :
    (cache.read Store.source path).run store
      = ({ text? := some text, cache := cache.hit }, store) := by
  simp [read, hkept]
  rfl

/-- A text that is not kept is read, and kept from then on. -/
theorem read_stored {cache : Cache} {store : Store} {path : Path} {text : String}
    (hkept : cache.text? path = none) (hstored : store.text? path = some text) :
    (cache.read Store.source path).run store
      = ({ text? := some text, cache := cache.keep path text },
         { store with reads := path.components :: store.reads }) := by
  have hread : (Store.source.read path).run store = _ := Store.read_run store path
  simp only [read, hkept, StateT.run_bind]
  rw [hread, hstored]
  rfl

/-- A read that fails leaves the cache as it is. -/
theorem read_missing {cache : Cache} {store : Store} {path : Path}
    (hkept : cache.text? path = none) (hstored : store.text? path = none) :
    (cache.read Store.source path).run store
      = ({ text? := none, cache, notices := [.readFailed path (.notStored path)] },
         { store with reads := path.components :: store.reads }) := by
  have hread : (Store.source.read path).run store = _ := Store.read_run store path
  simp only [read, hkept, StateT.run_bind]
  rw [hread, hstored]
  rfl

/-- What one lookup does: it answers with the text that the cache or the store has, keeps a text
that it found, and reads the store only if the cache has none. -/
structure Looked (cache : Cache) (store : Store) (path : Path) (a : Answer) (store' : Store) :
    Prop where
  answer : a.text? = (cache.text? path).or (store.text? path)
  kept : ∀ q, a.cache.text? q = if q.components = path.components
    then (cache.text? path).or (store.text? path) else cache.text? q
  files : store'.files = store.files
  reads : store'.reads = if (cache.text? path).isSome then store.reads
    else path.components :: store.reads

theorem read_looked (cache : Cache) (store : Store) (path : Path) :
    Looked cache store path ((cache.read Store.source path).run store).1
      ((cache.read Store.source path).run store).2 := by
  cases hc : cache.text? path with
  | some text =>
    rw [read_kept hc store]
    refine ⟨by simp [hc], fun q => ?_, rfl, by simp [hc]⟩
    by_cases hq : q.components = path.components
    · simp [hq, hc, text?_hit, cache.text?_congr hq]
    · simp [hq, text?_hit]
  | none =>
    -- The store decides, and only a text that it holds is kept.
    cases hs : store.text? path with
    | some text =>
      rw [read_stored hc hs]
      refine ⟨by simp [hc, hs], fun q => ?_, rfl, by simp [hc]⟩
      simp [text?_keep, hc, hs]
    | none =>
      rw [read_missing hc hs]
      refine ⟨by simp [hc, hs], fun q => ?_, rfl, by simp [hc]⟩
      by_cases hq : q.components = path.components
      · simp [hq, hc, hs, cache.text?_congr hq]
      · simp [hq]

end Cache

/-- What a session finds under a path: what its cache keeps, or else what the store holds. -/
def Session.found (session : Session) (store : Store) (path : Path) : Option String :=
  (session.cache.text? path).or (store.text? path)

theorem Session.found_congr (session : Session) (store : Store) {p q : Path}
    (h : p.components = q.components) : session.found store p = session.found store q := by
  rw [Session.found, Session.found, session.cache.text?_congr h, Store.text?, Store.text?, h]

/-! ## Steps of a build -/

namespace BuildM

variable {α β σ : Type}

/-- Two steps, one after the other unless the first one fails. -/
theorem run_bind (x : BuildM (StateM σ) α) (f : α → BuildM (StateM σ) β) (session : Session)
    (s : σ) : ((x >>= f).run.run session).run s =
      match (x.run.run session).run s with
      | ((.ok a, session'), s') => ((f a).run.run session').run s'
      | ((.error e, session'), s') => ((.error e, session'), s') := by
  have hrun : ((x >>= f).run.run session).run s =
      (let p := (x.run.run session).run s
       (((ExceptT.bindCont f p.1.1).run p.1.2).run p.2)) := rfl
  rw [hrun]
  generalize (x.run.run session).run s = p
  obtain ⟨⟨r, session'⟩, s'⟩ := p
  cases r <;> rfl

theorem run_attempt (why : FileError → BuildError) (x : StateM σ (Except FileError α))
    (session : Session) (s : σ) : ((attempt why x).run.run session).run s =
      (((x.run s).1.mapError why, session), (x.run s).2) := by
  have hlift : ((liftM x : BuildM (StateM σ) (Except FileError α)).run.run session).run s =
      ((.ok (x.run s).1, session), (x.run s).2) := rfl
  rw [attempt, run_bind, hlift]
  generalize x.run s = p
  obtain ⟨r, s'⟩ := p
  cases r <;> rfl

/-- Runs a step of a build over a store in memory. -/
def runOver (x : BuildM (StateM Store) α) (session : Session) (store : Store) :
    (Except BuildError α × Session) × Store :=
  (x.run.run session).run store

theorem runOver_tell (notices : List Notice) (session : Session) (store : Store) :
    runOver (tell notices) session store
      = ((.ok (), { session with notices := session.notices ++ notices }), store) := rfl

theorem runOver_bind (x : BuildM (StateM Store) α) (f : α → BuildM (StateM Store) β)
    (session : Session) (store : Store) :
    runOver (x >>= f) session store =
      match runOver x session store with
      | ((.ok a, session'), store') => runOver (f a) session' store'
      | ((.error e, session'), store') => ((.error e, session'), store') := by
  unfold runOver
  rw [run_bind]
  obtain ⟨⟨r, session'⟩, store'⟩ := (x.run.run session).run store
  cases r <;> rfl

theorem runOver_attempt (why : FileError → BuildError) (x : StateM Store (Except FileError α))
    (session : Session) (store : Store) :
    runOver (attempt why x) session store =
      (((x.run store).1.mapError why, session), (x.run store).2) :=
  run_attempt why x session store

theorem runOver_readCached (session : Session) (store : Store) (path : Path) :
    ∃ a store', Cache.Looked session.cache store path a store' ∧
      runOver (readCached Store.source path) session store =
        ((.ok a.text?, { session with
            cache := a.cache, notices := session.notices ++ a.notices }), store') :=
  ⟨_, _, Cache.read_looked session.cache store path, rfl⟩

theorem runOver_readExisting (session : Session) (store : Store) (path : Path) :
    runOver (readExisting Store.source path) session store =
      if (session.found store path).isSome
      then runOver (readCached Store.source path) session store
      else ((.ok none, session), store) := by
  have hhas := Cache.has_run session.cache store path
  have hsome : (session.found store path).isSome
      = ((session.cache.text? path).isSome || (store.text? path).isSome) := by
    simp [Session.found, Option.isSome_or]
  have hrun : runOver (readExisting Store.source path) session store =
      (let p := (session.cache.has Store.source path).run store
       runOver (if p.1 then readCached Store.source path else return none) session p.2) := rfl
  rw [hrun, hhas, hsome]
  cases (session.cache.text? path).isSome || (store.text? path).isSome <;> rfl

/-- A page is read from the store each time; nothing is kept of it. -/
theorem runOver_readPage (session : Session) (store : Store) (path : Path) :
    ∃ notices, runOver (readPage Store.source path) session store =
      (((match store.text? path with
          | some text => .ok text
          | none => .error (.read path (.notStored path))),
        { session with notices }),
       { store with reads := path.components :: store.reads }) := by
  have hread : (Store.source.read path).run store = _ := Store.read_run store path
  unfold readPage
  rw [runOver_bind, runOver_attempt, hread]
  cases store.text? path with
  | some text => exact ⟨session.notices ++ [], rfl⟩
  | none => exact ⟨session.notices, rfl⟩

end BuildM

/-! ## The ledger of a build -/

/-- Whether one of the paths names the place. -/
def Path.isAmong (path : Path) (paths : List Path) : Bool := paths.any (·.same path)

theorem Path.same_iff {p q : Path} : p.same q = true ↔ p.components = q.components := by
  simp [Path.same]

/-- What has changed since the first session and store, when the given paths were looked up: the
cache keeps the texts of these paths, and the store was read once for each that is not in the first
cache. -/
structure Ledger (session₀ : Session) (store₀ : Store) (log : List Path) (session : Session)
    (store : Store) : Prop where
  files : store.files = store₀.files
  cached : ∀ p, session.cache.text? p
    = (session₀.cache.text? p).or (if p.isAmong log then store₀.text? p else none)
  reads : ∀ p, (session₀.found store₀ p).isSome → store.readCount p
    = store₀.readCount p + if p.isAmong log ∧ session₀.cache.text? p = none then 1 else 0

theorem Path.isAmong_append (path : Path) (paths : List Path) (last : Path) :
    path.isAmong (paths ++ [last]) = (path.isAmong paths || last.same path) := by
  simp [Path.isAmong]

namespace Ledger

variable {session₀ session : Session} {store₀ store : Store} {log : List Path}

theorem start (session : Session) (store : Store) : Ledger session store [] session store where
  files := rfl
  cached p := by simp [Path.isAmong]
  reads p _ := by simp [Path.isAmong]

/-- Notices and events do not count. -/
theorem of_cache {session' : Session} (h : Ledger session₀ store₀ log session store)
    (hcache : session'.cache = session.cache) : Ledger session₀ store₀ log session' store :=
  ⟨h.files, fun p => by rw [hcache]; exact h.cached p, h.reads⟩

/-- A build finds the same texts all the time. -/
theorem found (h : Ledger session₀ store₀ log session store) :
    session.found store = session₀.found store₀ := by
  funext p
  have hstore : store.text? p = store₀.text? p := by rw [Store.text?, Store.text?, h.files]
  rw [Session.found, Session.found, h.cached p, hstore]
  split
  · rw [Option.or_assoc, Option.or_self]
  · rw [Option.or_none]

/-- A lookup of what is not there needs no read. -/
theorem lookMissing (h : Ledger session₀ store₀ log session store) {path : Path}
    (hnone : session₀.found store₀ path = none) :
    Ledger session₀ store₀ (log ++ [path]) session store := by
  refine ⟨h.files, fun p => ?_, fun p hp => ?_⟩
  · -- The store has no text there that the cache could keep.
    rw [Path.isAmong_append, h.cached p]
    cases hsame : path.same p with
    | false => rw [Bool.or_false]
    | true =>
      have hcomponents := Path.same_iff.1 hsame
      rw [session₀.found_congr store₀ hcomponents, Session.found, Option.or_eq_none_iff] at hnone
      rw [hnone.2, ite_self, ite_self]
  · -- Reads are counted for what is found only.
    have hsame : path.same p = false := by
      rw [Bool.eq_false_iff]
      intro hsame
      have hcomponents := Path.same_iff.1 hsame
      rw [← session₀.found_congr store₀ hcomponents, hnone] at hp
      cases hp
    rw [Path.isAmong_append, hsame, Bool.or_false]
    exact h.reads p hp

/-- One lookup, which answers with the text that was found at first. -/
theorem look (h : Ledger session₀ store₀ log session store) {path : Path} {a : Answer}
    {store' : Store} (hlook : Cache.Looked session.cache store path a store') :
    a.text? = session₀.found store₀ path ∧
      ∀ notices, Ledger session₀ store₀ (log ++ [path])
        { session with cache := a.cache, notices } store' := by
  have hanswer : a.text? = session₀.found store₀ path := by
    rw [hlook.answer, ← h.found, Session.found]
  refine ⟨hanswer, fun notices => ⟨hlook.files.trans h.files, fun p => ?_, fun p hp => ?_⟩⟩
  · rw [Path.isAmong_append, hlook.kept p, ← hlook.answer, hanswer]
    split
    · next hsame =>
      have hpath : path.same p = true := Path.same_iff.2 hsame.symm
      rw [← session₀.found_congr store₀ hsame, hpath, Bool.or_true, if_pos rfl, Session.found]
    · next hsame =>
      have hpath : path.same p = false :=
        Bool.eq_false_iff.2 fun h => hsame (Path.same_iff.1 h).symm
      rw [hpath, Bool.or_false]
      exact h.cached p
  · -- The store is asked only if neither the first cache nor an earlier lookup has the text.
    have hcached := h.cached p
    have hreads := h.reads p hp
    rw [Session.found] at hp
    rw [Path.isAmong_append, Store.readCount, hlook.reads]
    by_cases hsame : p.components = path.components
    · have hpath : path.same p = true := Path.same_iff.2 hsame.symm
      rw [session.cache.text?_congr hsame] at hcached
      rw [Store.readCount] at hreads
      cases hc : session₀.cache.text? p with
      | some text => simp_all
      | none => by_cases hlog : p.isAmong log <;> simp_all
    · have hpath : path.same p = false :=
        Bool.eq_false_iff.2 fun h => hsame (Path.same_iff.1 h).symm
      have hcount : ((if (session.cache.text? path).isSome then store.reads
          else path.components :: store.reads).count p.components) = store.readCount p := by
        split
        · rfl
        · exact List.count_cons_of_ne (fun h => hsame h.symm)
      rw [hcount, hpath, Bool.or_false]
      exact hreads

end Ledger

/-- A step over a store and a step that keeps the paths: both come to the same end, and the paths
account for what changed. -/
def Ledger.kept (session₀ : Session) (store₀ : Store) :
    MonadRel (BuildM (StateM Store)) LoggedM where
  rel x y := ∀ log session store, Ledger session₀ store₀ log session store →
    ∃ session' store', x.runOver session store = (((y.run.run log).1, session'), store') ∧
      Ledger session₀ store₀ (y.run.run log).2 session' store'
  pure _ _ session store h := ⟨session, store, rfl, h⟩
  bind {α β x y f g} hx hf log session store h := by
    obtain ⟨session₁, store₁, hrun, h₁⟩ := hx log session store h
    have hlog : (y >>= g).run.run log
        = (ExceptT.bindCont g (y.run.run log).1).run (y.run.run log).2 := rfl
    rw [BuildM.runOver_bind, hrun, hlog]
    cases (y.run.run log).1 with
    | error e => exact ⟨session₁, store₁, rfl, h₁⟩
    | ok a => exact hf a _ session₁ store₁ h₁

theorem Ledger.supply_agree (session₀ : Session) (store₀ : Store) :
    (BuildM.supply Store.source).Agree (Ledger.kept session₀ store₀)
      (.logged (session₀.found store₀)) := by
  have hcached (path : Path) : (Ledger.kept session₀ store₀).rel
      (BuildM.readCached Store.source path) (LoggedM.lookup (session₀.found store₀) path) := by
    intro log session store h
    obtain ⟨a, store', hlook, hrun⟩ := BuildM.runOver_readCached session store path
    obtain ⟨hanswer, h'⟩ := h.look hlook
    rw [hanswer] at hrun
    exact ⟨_, store', hrun, h' _⟩
  refine ⟨fun path log session store h => ?_, hcached, ?_, ?_⟩
  · -- A layout is looked up only if there is one.
    show ∃ _ _, BuildM.runOver (BuildM.readExisting Store.source path) session store = _ ∧ _
    rw [BuildM.runOver_readExisting, h.found]
    split
    · exact hcached path log session store h
    · next hmissing =>
      have hnone : session₀.found store₀ path = none := by simpa using hmissing
      exact ⟨session, store, by rw [← hnone]; rfl, h.lookMissing hnone⟩
  · exact fun notices log session store h =>
      ⟨_, store, BuildM.runOver_tell notices session store, h.of_cache rfl⟩
  · exact fun e log session store h => ⟨session, store, rfl, h⟩

/-! ## Compiling over a store -/

namespace Page

variable (project : Project) (page : Page)

/-- The paths that compiling a text looks up, in order. -/
def lookups (texts : Path → Option String) (text : String) : List Path :=
  ((resolve project (.logged texts) page text).run.run []).2

theorem resolve_logged (texts : Path → Option String) (text : String) (log : List Path) :
    ((resolve project (.logged texts) page text).run.run log).1
      = resolve project (.ofTexts texts) page text :=
  resolve_rel (Supply.logged_agree texts) project page text log

/-- No page has stubs before they are made. -/
theorem stubs_of_resolve {texts : Path → Option String} {text : String} {c : CompiledPage}
    (h : resolve project (.ofTexts texts) page text = .ok c) : c.stubs = [] := by
  obtain ⟨_, _, h⟩ := Except.bind_eq_ok h
  obtain ⟨_, _, h⟩ := Except.bind_eq_ok h
  obtain ⟨_, _, h⟩ := Except.bind_eq_ok h
  obtain ⟨_, _, h⟩ := Except.bind_eq_ok h
  cases h
  rfl

/-- The result of a page whose text may be missing; everything else is found in the texts. -/
def resultOf (texts : Path → Option String) (text? : Option String) :
    Except BuildError CompiledPage :=
  match text? with
  | none => .error (.read page.path (.notStored page.path))
  | some text => resolve project (.ofTexts texts) page text

theorem stubs_of_result {texts : Path → Option String} {text? : Option String} {c : CompiledPage}
    (h : resultOf project page texts text? = .ok c) : c.stubs = [] := by
  cases text? with
  | none => cases h
  | some text => exact stubs_of_resolve project page h

/-- The paths that compiling a page looks up, apart from the page itself. -/
def lookupsOf (texts : Path → Option String) (text? : Option String) : List Path :=
  (text?.map (lookups project page texts)).getD []

/-- The page itself is read from the store each time, everything else is what the session finds. -/
theorem readPage_resolve_run (session : Session) (store : Store) :
    ∃ session' store',
      (BuildM.readPage Store.source page.path >>= fun text =>
        resolve project (BuildM.supply Store.source) page text).runOver session store =
        ((resultOf project page (session.found store) (store.text? page.path), session'), store') ∧
      Ledger session { store with reads := page.path.components :: store.reads }
        (lookupsOf project page (session.found store) (store.text? page.path)) session' store' := by
  obtain ⟨notices, hread⟩ := BuildM.runOver_readPage session store page.path
  have hstart : Ledger session { store with reads := page.path.components :: store.reads } []
      { session with notices } { store with reads := page.path.components :: store.reads } :=
    (Ledger.start _ _).of_cache rfl
  rw [BuildM.runOver_bind, hread]
  cases store.text? page.path with
  | none => exact ⟨_, _, rfl, hstart⟩
  | some text =>
    obtain ⟨session', store', hrun, hledger⟩ :=
      resolve_rel (Ledger.supply_agree _ _) project page text _ _ _ hstart
    rw [resolve_logged] at hrun
    exact ⟨session', store', hrun, hledger⟩

section Compile

section Finish

variable {m : Type → Type} [Monad m] (source : Source m)
variable (ensureStubs : ResourceSet → m (Except FileError (List Path)))

/-- The end of a compilation: the stubs of the page, and what is told about it. -/
def finish (compiled : CompiledPage) : BuildM m CompiledPage := do
  let stubs ←
    if project.config.assets.createMissing
    then BuildM.attempt .io (ensureStubs compiled.resources)
    else pure []
  BuildM.tell [.resolved page.path compiled.partials compiled.passes]
  return { compiled with stubs }

theorem compile_eq [LawfulMonad m] :
    compile project page source ensureStubs =
      ((BuildM.readPage source page.path >>= fun text =>
        resolve project (BuildM.supply source) page text) >>= finish project page ensureStubs) := by
  rw [bind_assoc]
  rfl

end Finish

variable (ensureStubs : ResourceSet → StateM Store (Except FileError (List Path)))
variable (session : Session) (store : Store)

/-- What compiling a page over a store comes to, and which paths it looked up. -/
theorem compile_run (hcreate : project.config.assets.createMissing = false) :
    ∃ session' store',
      (compile project page Store.source ensureStubs).runOver session store =
        ((resultOf project page (session.found store) (store.text? page.path), session'), store') ∧
      Ledger session { store with reads := page.path.components :: store.reads }
        (lookupsOf project page (session.found store) (store.text? page.path)) session' store' := by
  obtain ⟨session', store', hrun, hledger⟩ := readPage_resolve_run project page session store
  rw [compile_eq, BuildM.runOver_bind, hrun]
  cases hresult : resultOf project page (session.found store) (store.text? page.path) with
  | error e => exact ⟨session', store', rfl, hledger⟩
  | ok c =>
    -- No stubs are made, so the page comes out as it was resolved.
    have hstubs := stubs_of_result project page hresult
    have hsame : { c with stubs := [] } = c := by rw [← hstubs]
    simp only [finish, hcreate]
    show ∃ _ _, ((Except.ok { c with stubs := [] }, _), _) = _ ∧ _
    rw [hsame]
    exact ⟨_, store', rfl, hledger.of_cache rfl⟩

theorem compile_result (hcreate : project.config.assets.createMissing = false) :
    ((compile project page Store.source ensureStubs).runOver session store).1.1 =
      resultOf project page (session.found store) (store.text? page.path) := by
  obtain ⟨session', store', hrun, -⟩ := compile_run project page ensureStubs session store hcreate
  exact congrArg (·.1.1) hrun

/-- A page that does not compile gets no stubs. -/
theorem compile_error {e : BuildError}
    (h : resultOf project page (session.found store) (store.text? page.path) = .error e) :
    ((compile project page Store.source ensureStubs).runOver session store).1.1 = .error e := by
  obtain ⟨session', store', hrun, -⟩ := readPage_resolve_run project page session store
  rw [compile_eq, BuildM.runOver_bind, hrun, h]

end Compile

end Page

end StaticSite
