/-
  Compiling many pages in one build.

  The pages of a build share a cache.  A `History` says what the cache keeps and how often
  each file was read after some pages: only texts of the store are kept, and only those
  that were looked up.  One page more keeps the history, whether it compiles or fails; so
  each page comes to what it would come to alone, and a file is read once for each time it
  is a page and once more if it was looked up (`Page.compileAll_run`).
-/

import StaticSite.Proofs.Texts

namespace StaticSite

/-- What a build knows after it has compiled pages over a store and has looked up paths. -/
structure History (start : Store) (pages : List Page) (log : List Path) (session : Session)
    (store : Store) : Prop where
  files : store.files = start.files
  cached : ∀ p, session.cache.text? p = if p.isAmong log then start.text? p else none
  reads : ∀ p, (start.text? p).isSome → store.readCount p
    = start.readCount p + pages.countP (·.path.same p) + if p.isAmong log then 1 else 0

theorem Path.isAmong_append_list (path : Path) (paths more : List Path) :
    path.isAmong (paths ++ more) = (path.isAmong paths || path.isAmong more) := List.any_append

namespace History

variable {start store store' : Store} {pages : List Page} {log : List Path}
variable {session session' : Session}

/-- A build that has not done anything yet. -/
theorem fresh (store : Store) : History store [] [] {} store where
  files := rfl
  cached _ := rfl
  reads _ _ := rfl

/-- A build finds the texts of the store all the time. -/
theorem found (h : History start pages log session store) :
    session.found store = start.text? := by
  funext p
  have hstore : store.text? p = start.text? p := by rw [Store.text?, Store.text?, h.files]
  rw [Session.found, h.cached p, hstore]
  split
  · exact Option.or_self
  · exact Option.none_or

/-- Reading one page more, and looking up some paths for it. -/
theorem page {page : Page} {more : List Path} (h : History start pages log session store)
    (hledger : Ledger session { store with reads := page.path.components :: store.reads } more
      session' store') :
    History start (pages ++ [page]) (log ++ more) session' store' := by
  have htexts (p : Path) : store.text? p = start.text? p := by
    rw [Store.text?, Store.text?, h.files]
  refine ⟨hledger.files.trans h.files, fun p => ?_, fun p hp => ?_⟩
  · have hread : Store.text? { store with reads := page.path.components :: store.reads } p
        = start.text? p := htexts p
    -- What the page adds to the cache are texts of the store.
    rw [hledger.cached p, h.cached p, hread, Path.isAmong_append_list]
    cases p.isAmong log <;> cases p.isAmong more <;> simp
  · have hfound : (Session.found session
        { store with reads := page.path.components :: store.reads } p).isSome := by
      have hsame : Session.found session
        { store with reads := page.path.components :: store.reads } p = session.found store p := rfl
      rw [hsame, h.found]
      exact hp
    rw [hledger.reads p hfound, Store.readCount_cons, h.reads p hp, h.cached p,
      Path.isAmong_append_list, List.countP_append, List.countP_singleton]
    -- The paths of the page cost a read only where the earlier ones did not.
    have hsome : start.text? p ≠ none := Option.isSome_iff_ne_none.1 hp
    cases p.isAmong log with
    | true =>
      simp only [if_true, Bool.true_or, hsome, and_false, if_false]
      omega
    | false =>
      simp only [Bool.false_or, Bool.false_eq_true, if_false, and_true]
      omega

end History

namespace Page

variable (project : Project)
variable (ensureStubs : ResourceSet → StateM Store (Except FileError (List Path)))

/-- Compiles pages one after the other in one build; a page that fails does not end the build. -/
def compileAll (pages : List Page) :
    StateT Session (StateM Store) (List (Except BuildError CompiledPage)) :=
  pages.mapM fun page => (compile project page Store.source ensureStubs).run

/-- The paths that a page looks up over the texts of a store, apart from the page itself. -/
def lookupsIn (store : Store) (page : Page) : List Path :=
  lookupsOf project page store.text? (store.text? page.path)

/-- One page in a build comes to what it comes to over the store alone. -/
theorem compile_history {start store : Store} {pages : List Page} {log : List Path}
    {session : Session} (h : History start pages log session store)
    (hcreate : project.config.assets.createMissing = false) (page : Page) :
    ∃ session' store',
      (compile project page Store.source ensureStubs).runOver session store =
        ((resultOf project page start.text? (start.text? page.path), session'), store') ∧
      History start (pages ++ [page]) (log ++ lookupsIn project start page) session' store' := by
  obtain ⟨session', store', hrun, hledger⟩ :=
    compile_run project page ensureStubs session store hcreate
  have htext : store.text? page.path = start.text? page.path := by
    rw [Store.text?, Store.text?, h.files]
  rw [h.found, htext] at hrun hledger
  exact ⟨session', store', hrun, h.page hledger⟩

theorem compileAll_cons (page : Page) (rest : List Page) (session : Session) (store : Store) :
    ((compileAll project ensureStubs (page :: rest)).run session).run store =
      (let one := (compile project page Store.source ensureStubs).runOver session store
       let others := ((compileAll project ensureStubs rest).run one.1.2).run one.2
       ((one.1.1 :: others.1.1, others.1.2), others.2)) := by
  rw [compileAll, List.mapM_cons]
  rfl

/-- Pages after other pages of the same build. -/
theorem compileAll_history {start : Store} (hcreate : project.config.assets.createMissing = false)
    (more : List Page) {store : Store} {pages : List Page} {log : List Path} {session : Session}
    (h : History start pages log session store) :
    ∃ session' store',
      ((compileAll project ensureStubs more).run session).run store =
        ((more.map fun page => resultOf project page start.text? (start.text? page.path), session'),
          store') ∧
      History start (pages ++ more) (log ++ more.flatMap (lookupsIn project start)) session'
        store' := by
  induction more generalizing store pages log session with
  | nil =>
    rw [List.append_nil, List.flatMap_nil, List.append_nil]
    exact ⟨session, store, rfl, h⟩
  | cons page rest ih =>
    -- The others start from the history that the first page leaves.
    obtain ⟨session₁, store₁, hrun₁, h₁⟩ := compile_history project ensureStubs h hcreate page
    obtain ⟨session₂, store₂, hrun₂, h₂⟩ := ih h₁
    refine ⟨session₂, store₂, ?_, ?_⟩
    · rw [compileAll_cons, hrun₁]
      simp only [hrun₂]
      rfl
    · rw [List.append_assoc, List.append_assoc] at h₂
      exact h₂

/-- Every page of a build comes to what it comes to in a build of its own over the same store, and
each file is read once for each time it is compiled as a page, and once more if any page looks it
up. -/
theorem compileAll_run (hcreate : project.config.assets.createMissing = false)
    (pages : List Page) (store : Store) :
    ∃ session' store',
      ((compileAll project ensureStubs pages).run {}).run store =
        ((pages.map fun page =>
            ((compile project page Store.source ensureStubs).runOver {} store).1.1,
          session'), store') ∧
      ∀ p, (store.text? p).isSome → store'.readCount p
        = store.readCount p + pages.countP (·.path.same p)
          + if p.isAmong (pages.flatMap (lookupsIn project store)) then 1 else 0 := by
  obtain ⟨session', store', hrun, hhistory⟩ :=
    compileAll_history project ensureStubs hcreate pages (History.fresh store)
  refine ⟨session', store', ?_, hhistory.reads⟩
  rw [hrun]
  congr 3
  funext page
  rw [compile_result project page ensureStubs {} store hcreate, (History.fresh store).found]

/-! ### Two pages that refer to one file -/

def sharedProject : Project where
  root := ⟨"/"⟩
  config := { assets := { createMissing := false } }
  version := none

def sharedStore : Store where
  files := [
    ((⟨"/p"⟩ : Path).components, "<embed type=ham/partial src=a>"),
    ((⟨"/q"⟩ : Path).components, "<embed type=ham/partial src=a>"),
    ((⟨"/a"⟩ : Path).components, "A")]

def sharedPages : List Page := [.ofPath sharedProject ⟨"/p"⟩, .ofPath sharedProject ⟨"/q"⟩]

/-- The file is read once, for both pages. -/
theorem compileAll_run_shared :
    sharedProject.config.assets.createMissing = false ∧
    ((compileAll sharedProject (fun _ => pure (.ok [])) sharedPages).run {}
      |>.run sharedStore).2.readCount ⟨"/a"⟩ = 1 := by
  refine ⟨rfl, ?_⟩
  obtain ⟨session', store', hrun, hreads⟩ :=
    compileAll_run sharedProject (fun _ => pure (.ok [])) rfl sharedPages sharedStore
  have hstored : (sharedStore.text? ⟨"/a"⟩).isSome := by decide +kernel
  have hcount : sharedPages.countP (·.path.same ⟨"/a"⟩) = 0 := by decide +kernel
  have hlooked : (⟨"/a"⟩ : Path).isAmong (sharedPages.flatMap (lookupsIn sharedProject sharedStore))
      = true := by decide +kernel
  rw [hrun, hreads _ hstored, hcount, hlooked]
  rfl

end Page

end StaticSite
