/-
  What a cache recalls over a run.

  A cache is asked for texts and for the presence of files, while the store below it is
  read and written past the cache.  A `Moment` is the cache and the store, with everything
  that was asked so far and what was replied.  The replies alone tell what the cache does
  next: a path that was found keeps the text that was found first (`firstFound?`), any
  other path is looked up in the store as it is now.

  `Moment.Recorded` ties the cache, the reads of the store and the statistics to the
  replies.  Each request keeps it (`Recorded.after`), so every run does (`run_recorded`);
  the main result is `run_recalls`.
-/

import StaticSite.Proofs.Texts

namespace StaticSite

namespace Cache

/-! ## Requests and replies -/

/-- What may be asked of a cache, and what may happen to the store below it. -/
inductive Request where
  | read (path : Path)
  | has (path : Path)
  /-- A read of the store itself. -/
  | readStore (path : Path)
  | write (path : Path) (text : String)

/-- A request that was carried out, with what was replied. -/
inductive Exchange where
  | read (path : Path) (text? : Option String)
  | has (path : Path) (there : Bool)
  | readStore (path : Path)
  | write (path : Path) (text : String)
  deriving DecidableEq

namespace Exchange

/-- The text that was found for a path. -/
def found? (path : Path) : Exchange → Option String
  | .read q (some text) => if q.same path then some text else none
  | _ => none

/-- Whether a path was looked up in vain. -/
def isMissing (path : Path) : Exchange → Bool
  | .read q none => q.same path
  | _ => false

def isStoreRead (path : Path) : Exchange → Bool
  | .readStore q => q.same path
  | _ => false

def written? (path : Path) : Exchange → Option String
  | .write q text => if q.same path then some text else none
  | _ => none

/-- The place at which a text was found. -/
def place? : Exchange → Option (List Path.Component)
  | .read q (some _) => some q.components
  | _ => none

theorem found?_eq_none {e : Exchange} (h : e.place? = none) (path : Path) :
    e.found? path = none := by
  cases e with
  | read q text? =>
    cases text? with
    | none => rfl
    | some text => cases h
  | _ => rfl

end Exchange

section Log

variable (log : List Exchange) (path : Path)

/-- The text that was found first for a path. -/
def firstFound? : Option String := log.findSome? (·.found? path)

/-- The text that was written last to a path. -/
def lastWritten? : Option String := log.reverse.findSome? (·.written? path)

def missingCount : Nat := log.countP (·.isMissing path)

def storeReads : Nat := log.countP (·.isStoreRead path)

/-- The places at which a text was found, one for each time. -/
def foundPlaces : List (List Path.Component) := log.filterMap Exchange.place?

variable (last : Exchange)

theorem firstFound?_append :
    firstFound? (log ++ [last]) path = (firstFound? log path).or (last.found? path) := by
  simp [firstFound?, List.findSome?_append]

theorem lastWritten?_append :
    lastWritten? (log ++ [last]) path = (last.written? path).or (lastWritten? log path) := by
  rw [lastWritten?, List.reverse_append, List.findSome?_append]
  simp [lastWritten?]

theorem missingCount_append :
    missingCount (log ++ [last]) path
      = missingCount log path + if last.isMissing path then 1 else 0 := by
  simp [missingCount, List.countP_append, List.countP_singleton]

theorem storeReads_append :
    storeReads (log ++ [last]) path
      = storeReads log path + if last.isStoreRead path then 1 else 0 := by
  simp [storeReads, List.countP_append, List.countP_singleton]

theorem foundPlaces_append :
    foundPlaces (log ++ [last]) = foundPlaces log ++ last.place?.toList := by
  cases h : last.place? <;> simp [foundPlaces, List.filterMap_append, h]

variable {log path}

theorem mem_foundPlaces :
    path.components ∈ foundPlaces log ↔ (firstFound? log path).isSome := by
  have hplace (e : Exchange) :
      e.place? = some path.components ↔ (e.found? path).isSome := by
    cases e with
    | read q text? => cases text? <;> simp [Exchange.place?, Exchange.found?, Path.same]
    | _ => simp [Exchange.place?, Exchange.found?]
  simp only [foundPlaces, firstFound?, List.mem_filterMap, List.findSome?_isSome_iff, hplace]

end Log

/-! ## Runs -/

/-- A cache and the store below it, after what was asked so far. -/
structure Moment where
  log : List Exchange := []
  cache : Cache := {}
  store : Store

/-- Carries out one request. -/
def Moment.after (m : Moment) : Request → Moment
  | .read path =>
    let (answer, store) := (m.cache.read Store.source path).run m.store
    { log := m.log ++ [.read path answer.text?], cache := answer.cache, store }
  | .has path =>
    let (there, store) := (m.cache.has Store.source path).run m.store
    { m with log := m.log ++ [.has path there], store }
  | .readStore path =>
    let (_, store) := (Store.read path).run m.store
    { m with log := m.log ++ [.readStore path], store }
  | .write path text =>
    { m with log := m.log ++ [.write path text], store := m.store.insert path text }

/-- Carries out requests, from a cache that is new. -/
def run (start : Store) (requests : List Request) : Moment :=
  requests.foldl Moment.after { store := start }

/-- What holds at every moment of a run. -/
structure Moment.Recorded (start : Store) (m : Moment) : Prop where
  /-- The store has what was written to it. -/
  stored : ∀ p, m.store.text? p = (lastWritten? m.log p).or (start.text? p)
  /-- The cache has what was found first. -/
  cached : ∀ p, m.cache.text? p = firstFound? m.log p
  /-- A path is read when it is looked up in vain, and once when it is found. -/
  reads : ∀ p, m.store.readCount p = start.readCount p + storeReads m.log p
    + (missingCount m.log p + if (firstFound? m.log p).isSome then 1 else 0)
  misses : m.cache.stats.misses = (foundPlaces m.log).toFinset.card
  answers : m.cache.stats.hits + m.cache.stats.misses = (foundPlaces m.log).length

variable {start : Store} {m : Moment}

theorem recorded_start (start : Store) : Moment.Recorded start { store := start } where
  stored p := by simp [lastWritten?]
  cached p := by simp [firstFound?, text?]
  reads p := by simp [storeReads, missingCount, firstFound?]
  misses := by simp [foundPlaces]
  answers := by simp [foundPlaces]

namespace Moment

/-! ### Reads through the cache -/

section Read

variable {path : Path} (h : m.Recorded start)
include h

/-- A path that was found gets the text that was found first, any other path what the store has. -/
theorem after_read_log : (m.after (.read path)).log
    = m.log ++ [.read path ((firstFound? m.log path).or (m.store.text? path))] := by
  have hanswer := (read_looked m.cache m.store path).answer
  rw [h.cached path] at hanswer
  rw [← hanswer]
  rfl

theorem recorded_kept {text : String} (hkept : m.cache.text? path = some text) :
    (m.after (.read path)).Recorded start := by
  have hrun := read_kept hkept m.store
  -- The path was found before, so what is found now is not the first text.
  have hfirst (p : Path) :
      firstFound? (m.log ++ [.read path (some text)]) p = firstFound? m.log p := by
    rw [firstFound?_append, Exchange.found?]
    split
    · next hsame =>
      rw [← h.cached p, ← m.cache.text?_congr (Path.same_iff.1 hsame), hkept]
      rfl
    · exact Option.or_none
  have hmem : path.components ∈ foundPlaces m.log := by
    rw [mem_foundPlaces, ← h.cached path, hkept]
    rfl
  simp only [after, hrun]
  refine ⟨fun p => ?_, fun p => ?_, fun p => ?_, ?_, ?_⟩
  · rw [lastWritten?_append]
    exact h.stored p
  · rw [hfirst]
    exact h.cached p
  · rw [hfirst, storeReads_append, missingCount_append]
    exact h.reads p
  · have hplaces : (foundPlaces m.log ++ [path.components]).toFinset
        = (foundPlaces m.log).toFinset := by
      ext place
      simp only [List.mem_toFinset, List.mem_append, List.mem_singleton, or_iff_left_iff_imp]
      exact fun heq => heq ▸ hmem
    rw [foundPlaces_append, Exchange.place?, Option.toList_some, hplaces]
    exact h.misses
  · have hanswers := h.answers
    rw [foundPlaces_append, Exchange.place?, List.length_append]
    simp only [hit, Option.toList_some, List.length_singleton]
    omega

theorem recorded_found {text : String} (hkept : m.cache.text? path = none)
    (hstored : m.store.text? path = some text) : (m.after (.read path)).Recorded start := by
  have hrun := read_stored hkept hstored
  have hnew {p : Path} (hsame : path.same p) : firstFound? m.log p = none := by
    rw [← h.cached p, ← m.cache.text?_congr (Path.same_iff.1 hsame), hkept]
  have hmem : path.components ∉ foundPlaces m.log := by
    rw [mem_foundPlaces, ← h.cached path, hkept]
    simp
  simp only [after, hrun]
  refine ⟨fun p => ?_, fun p => ?_, fun p => ?_, ?_, ?_⟩
  · rw [lastWritten?_append]
    exact h.stored p
  · rw [firstFound?_append, Exchange.found?, text?_keep, h.cached p]
    by_cases hsame : path.same p
    · rw [if_pos (Path.same_iff.1 hsame).symm, if_pos hsame, hnew hsame, Option.none_or]
    · rw [if_neg fun heq => hsame (Path.same_iff.2 heq.symm), if_neg hsame, Option.or_none]
  · have hreads := h.reads p
    rw [firstFound?_append, Exchange.found?, storeReads_append, missingCount_append,
      Store.readCount_cons]
    simp only [Exchange.isStoreRead, Exchange.isMissing]
    by_cases hsame : path.same p
    · rw [hnew hsame] at hreads ⊢
      simp only [hsame, if_true, Option.none_or, Option.isSome_some, Option.isSome_none,
        Bool.false_eq_true, if_false] at hreads ⊢
      omega
    · simp only [hsame, Bool.false_eq_true, if_false, Option.or_none]
      omega
  · rw [foundPlaces_append, Exchange.place?, Option.toList_some, List.toFinset_append,
      List.toFinset_cons, List.toFinset_nil, insert_empty_eq, Finset.union_comm,
      ← Finset.insert_eq, Finset.card_insert_of_notMem (by simpa using hmem), ← h.misses]
    rfl
  · have hanswers := h.answers
    rw [foundPlaces_append, Exchange.place?, List.length_append]
    simp only [keep, Option.toList_some, List.length_singleton]
    omega

end Read

/-! ### Requests that find nothing -/

/-- An exchange that finds no text leaves the cache as it is; what it does to the store is told by
its text and its reads. -/
theorem recorded_quiet (h : m.Recorded start) {e : Exchange} {store : Store}
    (hplace : e.place? = none)
    (hstored : ∀ p, store.text? p = (e.written? p).or (m.store.text? p))
    (hreads : ∀ p, store.readCount p = m.store.readCount p
      + ((if e.isStoreRead p then 1 else 0) + if e.isMissing p then 1 else 0)) :
    Recorded start { log := m.log ++ [e], cache := m.cache, store } := by
  have hfirst (p : Path) : firstFound? (m.log ++ [e]) p = firstFound? m.log p := by
    rw [firstFound?_append, e.found?_eq_none hplace, Option.or_none]
  have hplaces : foundPlaces (m.log ++ [e]) = foundPlaces m.log := by
    rw [foundPlaces_append, hplace, Option.toList_none, List.append_nil]
  refine ⟨fun p => ?_, fun p => ?_, fun p => ?_, ?_, ?_⟩
  · rw [hstored, h.stored p, lastWritten?_append, Option.or_assoc]
  · rw [hfirst]
    exact h.cached p
  · rw [hreads, h.reads p, hfirst, storeReads_append, missingCount_append]
    omega
  · rw [hplaces]
    exact h.misses
  · rw [hplaces]
    exact h.answers

theorem recorded_missing (h : m.Recorded start) {path : Path}
    (hkept : m.cache.text? path = none) (hstored : m.store.text? path = none) :
    (m.after (.read path)).Recorded start := by
  have hrun := read_missing hkept hstored
  simp only [after, hrun]
  refine recorded_quiet h rfl (fun p => ?_) fun p => ?_
  · rfl
  · rw [Store.readCount_cons]
    by_cases hsame : path.same p <;> simp [Exchange.isStoreRead, Exchange.isMissing, hsame]

theorem after_has (h : m.Recorded start) (path : Path) :
    m.after (.has path) = { m with log := m.log ++
      [.has path ((firstFound? m.log path).isSome || (m.store.text? path).isSome)] } := by
  have hrun := has_run m.cache m.store path
  simp only [after, hrun, h.cached path]

theorem recorded_has (h : m.Recorded start) (path : Path) :
    (m.after (.has path)).Recorded start := by
  rw [after_has h]
  exact recorded_quiet h rfl (fun _ => rfl) fun _ => rfl

theorem recorded_readStore (h : m.Recorded start) (path : Path) :
    (m.after (.readStore path)).Recorded start := by
  have hrun := Store.read_run m.store path
  simp only [after, hrun]
  refine recorded_quiet h rfl (fun _ => rfl) fun p => ?_
  rw [Store.readCount_cons]
  by_cases hsame : path.same p <;> simp [Exchange.isStoreRead, Exchange.isMissing, hsame]

theorem recorded_write (h : m.Recorded start) (path : Path) (text : String) :
    (m.after (.write path text)).Recorded start := by
  refine recorded_quiet h rfl (fun p => ?_) fun _ => rfl
  rw [Store.text?_insert, Exchange.written?]
  by_cases hsame : path.same p
  · rw [if_pos (Path.same_iff.1 hsame).symm, if_pos hsame, Option.some_or]
  · rw [if_neg fun heq => hsame (Path.same_iff.2 heq.symm), if_neg hsame, Option.none_or]

/-! ### Runs -/

/-- One request keeps the record. -/
theorem Recorded.after (h : m.Recorded start) (request : Request) :
    (m.after request).Recorded start := by
  cases request with
  | read path =>
    cases hkept : m.cache.text? path with
    | some text => exact recorded_kept h hkept
    | none =>
      cases hstored : m.store.text? path with
      | some text => exact recorded_found h hkept hstored
      | none => exact recorded_missing h hkept hstored
  | has path => exact recorded_has h path
  | readStore path => exact recorded_readStore h path
  | write path text => exact recorded_write h path text

end Moment

theorem run_append (start : Store) (requests more : List Request) :
    run start (requests ++ more) = more.foldl Moment.after (run start requests) :=
  List.foldl_append

/-- Every run keeps the record. -/
theorem run_recorded (start : Store) (requests : List Request) :
    (run start requests).Recorded start := by
  have hfold (m : Moment) (h : m.Recorded start) :
      (requests.foldl Moment.after m).Recorded start := by
    induction requests generalizing m with
    | nil => exact h
    | cons request rest ih => exact ih _ (h.after request)
  exact hfold _ (recorded_start start)

theorem Moment.exists_log_after (m : Moment) (request : Request) :
    ∃ e, (m.after request).log = m.log ++ [e] := by
  cases request <;> exact ⟨_, rfl⟩

/-- What was found first stays what was found first. -/
theorem firstFound?_run_append {start : Store} {requests : List Request} {path : Path}
    {text : String} (h : firstFound? (run start requests).log path = some text)
    (more : List Request) : firstFound? (run start (requests ++ more)).log path = some text := by
  rw [run_append]
  generalize run start requests = m at h ⊢
  induction more generalizing m with
  | nil => exact h
  | cons request rest ih =>
    obtain ⟨e, hlog⟩ := m.exists_log_after request
    refine ih (m.after request) ?_
    rw [hlog, firstFound?_append, h, Option.some_or]

/-- A run of lookups, tests, writes and reads of the store, at any moment of it.  A read replies
with the text that was found first, whatever was written since, or else with what the store has
now; a read that finds nothing leaves the cache as it is.  A path is there if it was found or is
stored, and asking changes nothing.  The reads of the store and the statistics follow from the
replies. -/
theorem run_recalls (start : Store) (requests : List Request) :
    let m := run start requests
    (∀ p, m.store.text? p = (lastWritten? m.log p).or (start.text? p)) ∧
    (∀ p, (m.after (.read p)).log
      = m.log ++ [.read p ((firstFound? m.log p).or (m.store.text? p))]) ∧
    (∀ p, (firstFound? m.log p).or (m.store.text? p) = none →
      (m.after (.read p)).cache = m.cache) ∧
    (∀ p text more, firstFound? m.log p = some text →
      let later := run start (requests ++ more)
      (later.after (.read p)).log = later.log ++ [.read p (some text)]) ∧
    (∀ p, m.after (.has p) = { m with log := m.log ++
      [.has p ((firstFound? m.log p).isSome || (m.store.text? p).isSome)] }) ∧
    (∀ p, m.store.readCount p = start.readCount p + storeReads m.log p
      + (missingCount m.log p + if (firstFound? m.log p).isSome then 1 else 0)) ∧
    m.cache.stats.misses = (foundPlaces m.log).toFinset.card ∧
    m.cache.stats.hits + m.cache.stats.misses = (foundPlaces m.log).length := by
  intro m
  have h : m.Recorded start := run_recorded start requests
  refine ⟨h.stored, fun p => Moment.after_read_log h, fun p hnone => ?_,
    fun p text more hfound => ?_, Moment.after_has h, h.reads, h.misses, h.answers⟩
  · obtain ⟨hkept, hstored⟩ := Option.or_eq_none_iff.1 hnone
    have hrun := read_missing ((h.cached p).trans hkept) hstored
    simp only [Moment.after, hrun]
  · intro later
    have hlater : later.Recorded start := run_recorded start (requests ++ more)
    rw [Moment.after_read_log hlater, firstFound?_run_append hfound more, Option.some_or]

/-- A file that was found keeps its text, however its path is spelled. -/
example : (run {} [.write ⟨"/a"⟩ "1", .read ⟨"/a"⟩, .write ⟨"/a"⟩ "2", .read ⟨"//a/"⟩]).log.getLast?
    = some (.read ⟨"//a/"⟩ (some "1")) := by decide +kernel

end Cache

end StaticSite
