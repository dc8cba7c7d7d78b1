/-
  Walks over a file system that changes.

  A walk lists a directory when it gets there, and its visits may make files.  Told from
  outside it is a tour: visits one after the other, each to something that is there by then
  (`Tour`).  If no visit takes anything away, a walk that comes to its end has visited all
  that was below its root when it started, and nothing twice; a walk that fails has made the
  first visits of such a tour (`walk_tells`).
-/

import StaticSite.Disk.Walk
import StaticSite.Proofs.Below

open StaticSite.Path (IsName)

namespace StaticSite

open FileSystem (disk asking)

/-- What is listed below a path is what is in the directory that the names lead to. -/
theorem FileSystem.list_below {fs : FileSystem} {root : Path} {place : Place}
    (hroot : fs.foot root = .ok place) {names : List String} (hnames : ∀ name ∈ names, IsName name)
    {entries : List (String × EntryKind)} (h : fs.list (root.below names) = .ok entries) :
    entries = fs.children (place ++ names) := by
  obtain ⟨⟨place', entry⟩, hfind, hentries⟩ := Except.bind_eq_ok h
  obtain rfl := follow_below hroot hnames (find_eq_ok.1 hfind).1
  cases entry with
  | file content mode => cases hentries
  | directory mode => exact (Except.ok.inj hentries).symm

/-- How steps that may fail run from state to state, if a state holds a file system. -/
structure Machine (n : Type → Type) [Monad n] [MonadLiftT (StateM FileSystem) n]
    (σ ε : Type) where
  files : σ → FileSystem
  run : {α : Type} → n α → σ → Except ε α × σ
  run_pure : ∀ {α : Type} (a : α) (s : σ), run (pure a) s = (.ok a, s)
  run_bind : ∀ {α β : Type} (x : n α) (f : α → n β) (s : σ), run (x >>= f) s =
    match run x s with
    | (.ok a, s₁) => run (f a) s₁
    | (.error e, s₁) => (.error e, s₁)
  run_asking : ∀ {α : Type} (f : FileSystem → α) (s : σ),
    run (liftM (asking f)) s = (.ok (f (files s)), s)

/-- A visit of a walk: where it went from the root of the walk, and what it came back with. -/
structure Visit (α : Type) where
  names : List String
  kind : EntryKind
  found : List α

namespace Machine

variable {n : Type → Type} [Monad n] [MonadLiftT (StateM FileSystem) n] {σ ε : Type}
  (M : Machine n σ ε)

/-- Two steps come to an end if both of them do. -/
theorem ok_of_bind {α β : Type} {x : n α} {f : α → n β} {b : β} {s s' : σ}
    (h : M.run (x >>= f) s = (.ok b, s')) :
    ∃ a s₁, M.run x s = (.ok a, s₁) ∧ M.run (f a) s₁ = (.ok b, s') := by
  rw [M.run_bind] at h
  rcases hran : M.run x s with ⟨_ | a, s₁⟩
  · rw [hran] at h
    cases h
  · rw [hran] at h
    exact ⟨a, s₁, rfl, h⟩

/-- Whether a step keeps the file system sound and takes nothing away. -/
def Keeps {α : Type} (x : n α) : Prop :=
  ∀ s, (M.files s).IsSound → (M.files (M.run x s).2).IsSound ∧
    FileSystem.Evolved (M.files s) (M.files (M.run x s).2)

section Keeps

variable {M} {α β : Type}

theorem Keeps.of_same {x : n α} (h : ∀ s, M.files (M.run x s).2 = M.files s) : M.Keeps x := by
  intro s hsound
  rw [h s]
  exact ⟨hsound, .refl _⟩

theorem Keeps.pure (a : α) : M.Keeps (pure a) := .of_same fun s => by rw [M.run_pure]

theorem Keeps.bind {x : n α} {f : α → n β} (hx : M.Keeps x) (hf : ∀ a, M.Keeps (f a)) :
    M.Keeps (x >>= f) := by
  intro s hsound
  obtain ⟨hsound₁, hevolved₁⟩ := hx s hsound
  rw [M.run_bind]
  rcases hran : M.run x s with ⟨_ | a, s₁⟩
  · rw [hran] at hsound₁ hevolved₁
    exact ⟨hsound₁, hevolved₁⟩
  · rw [hran] at hsound₁ hevolved₁
    obtain ⟨hsound₂, hevolved₂⟩ := hf a s₁ hsound₁
    exact ⟨hsound₂, hevolved₁.trans hevolved₂⟩

/-- What a step that keeps a file system leads to. -/
theorem Keeps.evolved {x : n α} (h : M.Keeps x) {s s' : σ} {result : Except ε α}
    (hsound : (M.files s).IsSound) (hran : M.run x s = (result, s')) :
    (M.files s').IsSound ∧ FileSystem.Evolved (M.files s) (M.files s') := by
  have hkept := h s hsound
  rw [hran] at hkept
  exact hkept

theorem Keeps.mapM [LawfulMonad n] {f : α → n β} (hf : ∀ a, M.Keeps (f a)) (as : List α) :
    M.Keeps (as.mapM f) := by
  induction as with
  | nil =>
    rw [List.mapM_nil]
    exact .pure _
  | cons a as ih =>
    rw [List.mapM_cons]
    exact .bind (hf a) fun _ => .bind ih fun _ => .pure _

end Keeps

/-! ## Tours -/

section Tours

variable {α : Type} (visit : Walked → n (List α)) (root : Path) (place : Place)

/-- Visits one after the other.  Names lead from the root, which is at the given place. -/
inductive Tour : σ → List (Visit α) → σ → Prop where
  | done (s : σ) : Tour s [] s
  | visit {s s₁ s' : σ} {v : Visit α} {vs : List (Visit α)}
    (there : (M.files s).kind? (place ++ v.names) = some v.kind)
    (ran : M.run (visit ⟨root.below v.names, v.kind⟩) s = (.ok v.found, s₁))
    (rest : Tour s₁ vs s') : Tour s (v :: vs) s'

variable {M visit root place} {s s₁ s' : σ} {vs ws : List (Visit α)}

theorem Tour.append (h : M.Tour visit root place s vs s₁) (h' : M.Tour visit root place s₁ ws s') :
    M.Tour visit root place s (vs ++ ws) s' := by
  induction h with
  | done => exact h'
  | visit there ran _ ih => exact .visit there ran (ih h')

theorem Tour.single {v : Visit α} (there : (M.files s).kind? (place ++ v.names) = some v.kind)
    (ran : M.run (visit ⟨root.below v.names, v.kind⟩) s = (.ok v.found, s')) :
    M.Tour visit root place s [v] s' := .visit there ran (.done s')

theorem Tour.evolved (hvisit : ∀ e, M.Keeps (visit e)) (h : M.Tour visit root place s vs s')
    (hsound : (M.files s).IsSound) :
    (M.files s').IsSound ∧ FileSystem.Evolved (M.files s) (M.files s') := by
  induction h with
  | done => exact ⟨hsound, .refl _⟩
  | visit _ ran _ ih =>
    obtain ⟨hsound₁, hevolved₁⟩ := hvisit _ _ hsound
    rw [ran] at hsound₁ hevolved₁
    obtain ⟨hsound', hevolved'⟩ := ih hsound₁
    exact ⟨hsound', hevolved₁.trans hevolved'⟩

/-- What a tour has visited is there when it ends. -/
theorem Tour.kinds (hvisit : ∀ e, M.Keeps (visit e)) (h : M.Tour visit root place s vs s')
    (hsound : (M.files s).IsSound) :
    ∀ v ∈ vs, (M.files s').kind? (place ++ v.names) = some v.kind := by
  induction h with
  | done => exact fun _ hv => absurd hv List.not_mem_nil
  | visit there ran rest ih =>
    obtain ⟨hsound₁, hevolved₁⟩ := (hvisit _).evolved hsound ran
    obtain ⟨-, hevolved'⟩ := rest.evolved hvisit hsound₁
    refine List.forall_mem_cons.2 ⟨?_, ih hsound₁⟩
    exact hevolved'.kinds _ _ (hevolved₁.kinds _ _ there)

end Tours

/-! ## Where a tour goes -/

/-- Whether a place, told by its names, is below one of several starts. -/
def IsBelow (starts : List (List String)) (names : List String) : Prop :=
  ∃ start ∈ starts, ∃ rest, names = start ++ rest ∧ ∀ name ∈ rest, IsName name

/-- Places below some starts, none of them twice. -/
structure Apart (starts tour : List (List String)) : Prop where
  distinct : tour.Nodup
  below : ∀ names ∈ tour, IsBelow starts names

theorem Apart.nil (starts : List (List String)) : Apart starts [] :=
  ⟨List.nodup_nil, fun _ h => absurd h List.not_mem_nil⟩

theorem Apart.single (names : List String) : Apart [names] [names] := by
  refine ⟨List.nodup_singleton names, fun other hother => ?_⟩
  rw [List.mem_singleton.1 hother]
  exact ⟨names, List.mem_singleton_self _, [], (List.append_nil _).symm,
    fun _ h => absurd h List.not_mem_nil⟩

theorem Apart.sublist {starts tour tour' : List (List String)} (h : Apart starts tour)
    (hsub : tour'.Sublist tour) : Apart starts tour' :=
  ⟨h.distinct.sublist hsub, fun names hnames => h.below names (hsub.subset hnames)⟩

/-- What is below the place where no names lead to has proper names. -/
theorem Apart.isName {tour : List (List String)} (h : Apart [[]] tour) {names : List String}
    (hnames : names ∈ tour) : ∀ name ∈ names, IsName name := by
  obtain ⟨start, hstart, rest, rfl, hrest⟩ := h.below names hnames
  rwa [List.mem_singleton.1 hstart, List.nil_append]

/-- The start itself, and then places in it. -/
theorem Apart.cons {names : List String} {entries : List (String × EntryKind)}
    {tour : List (List String)} (hnames : ∀ e ∈ entries, IsName e.1)
    (h : Apart (entries.map fun e => names ++ [e.1]) tour) : Apart [names] (names :: tour) := by
  have hdeeper : ∀ other ∈ tour, ∃ e ∈ entries, ∃ rest,
      other = names ++ e.1 :: rest ∧ ∀ name ∈ rest, IsName name := by
    intro other hother
    obtain ⟨start, hstart, rest, rfl, hrest⟩ := h.below other hother
    obtain ⟨e, he, rfl⟩ := List.mem_map.1 hstart
    exact ⟨e, he, rest, by simp, hrest⟩
  refine ⟨List.nodup_cons.2 ⟨fun hmem => ?_, h.distinct⟩, fun other hother => ?_⟩
  · obtain ⟨e, -, rest, heq, -⟩ := hdeeper names hmem
    simp at heq
  · obtain rfl | hother := List.mem_cons.1 hother
    · exact (Apart.single other).below other (List.mem_singleton_self _)
    · obtain ⟨e, he, rest, rfl, hrest⟩ := hdeeper other hother
      exact ⟨names, List.mem_singleton_self _, e.1 :: rest, rfl,
        List.forall_mem_cons.2 ⟨hnames e he, hrest⟩⟩

/-- Below one entry of a directory, and then below the entries that come after it. -/
theorem Apart.append {names : List String} {e : String × EntryKind}
    {entries : List (String × EntryKind)} (hnew : e.1 ∉ entries.map (·.1))
    {tour tour' : List (List String)} (h : Apart [names ++ [e.1]] tour)
    (h' : Apart (entries.map fun e => names ++ [e.1]) tour') :
    Apart ((e :: entries).map fun e => names ++ [e.1]) (tour ++ tour') := by
  refine ⟨List.nodup_append.2 ⟨h.distinct, h'.distinct, ?_⟩, fun other hother => ?_⟩
  · rintro here hhere there hthere rfl
    obtain ⟨start, hstart, rest, rfl, -⟩ := h.below here hhere
    obtain ⟨start', hstart', rest', heq, -⟩ := h'.below _ hthere
    obtain rfl := List.mem_singleton.1 hstart
    obtain ⟨e', he', rfl⟩ := List.mem_map.1 hstart'
    simp only [List.append_assoc, List.append_cancel_left_eq, List.singleton_append,
      List.cons.injEq] at heq
    exact hnew (List.mem_map.2 ⟨e', he', heq.1.symm⟩)
  · obtain hother | hother := List.mem_append.1 hother
    · obtain ⟨start, hstart, hrest⟩ := h.below other hother
      exact ⟨start, by rw [List.mem_singleton.1 hstart]; exact List.mem_cons_self, hrest⟩
    · obtain ⟨start, hstart, hrest⟩ := h'.below other hother
      exact ⟨start, List.mem_cons_of_mem _ hstart, hrest⟩

/-! ## Walks -/

section Walks

variable {α : Type} (fail : Path → FileError → n (List α)) (visit : Walked → n (List α))
  (root : Path) (place : Place)

/-- Whether a tour visits all that was below some starts, as what it was. -/
def Covers (s : σ) (place : Place) (starts : List (List String))
    (vs : List (Visit α)) : Prop :=
  ∀ start ∈ starts, ∀ rest kind, (M.files s).kind? (place ++ (start ++ rest)) = some kind →
    ∃ v ∈ vs, v.names = start ++ rest ∧ v.kind = kind

variable {M} in
/-- What is below a directory is the directory itself, or below one of its entries. -/
theorem Covers.directory {s s₁ : σ} {place : Place} {names : List String}
    {vs : List (Visit α)} {here : List α} (hsound : (M.files s).IsSound)
    (hthere : (M.files s).kind? (place ++ names) = some .directory)
    (hevolved : FileSystem.Evolved (M.files s) (M.files s₁))
    (h : M.Covers s₁ place (((M.files s).children (place ++ names)).map fun e => names ++ [e.1]) vs) :
    M.Covers s place [names] (⟨names, .directory, here⟩ :: vs) := by
  intro start hstart rest kind hkind
  obtain rfl := List.mem_singleton.1 hstart
  cases rest with
  | nil =>
    rw [List.append_nil, hthere] at hkind
    exact ⟨_, List.mem_cons_self, (List.append_nil _).symm, Option.some.inj hkind⟩
  | cons name rest =>
    obtain ⟨first, hfirst⟩ : ∃ first,
        (M.files s).kind? (place ++ start ++ [name]) = some first := by
      by_cases hrest : rest = []
      · subst hrest
        exact ⟨kind, by rw [List.append_assoc]; exact hkind⟩
      · have hsplit : place ++ (start ++ name :: rest) = place ++ start ++ [name] ++ rest := by simp
        rw [hsplit] at hkind
        exact ⟨.directory, FileSystem.isDirectory_iff.1
          (hsound.tree.above hrest (FileSystem.isSome_of_kind? hkind))⟩
    -- The first name is one of the entries that were listed.
    have hmem : (name, first) ∈ (M.files s).children (place ++ start) :=
      hsound.mem_children.2 hfirst
    obtain ⟨v, hv, hnames, hsame⟩ := h (start ++ [name]) (List.mem_map.2 ⟨_, hmem, rfl⟩) rest kind
      (hevolved.kinds _ _ (by rw [List.append_assoc]; exact hkind))
    exact ⟨v, List.mem_cons_of_mem _ hv, by rw [hnames]; simp, hsame⟩

/-- How a walk stops: in a visit to the last place of its tour, or on its way. -/
inductive Stops : σ → List (List String) → ε → σ → Prop where
  | visit {s s' : σ} {names : List String} {kind : EntryKind} {e : ε}
    (there : (M.files s).kind? (place ++ names) = some kind)
    (ran : M.run (visit ⟨root.below names, kind⟩) s = (.error e, s')) : Stops s [names] e s'
  | walk {s : σ} {path : Path} {cause : FileError} {e : ε}
    (ran : M.run (fail path cause) s = (.error e, s)) : Stops s [] e s

/-- What a run of a walk tells: a tour to its end, or the first visits of one. -/
def Tells (starts : List (List String)) (s : σ) :
    Except ε (List α) × σ → Prop
  | (.ok found, s') => ∃ vs, M.Tour visit root place s vs s' ∧ Apart starts (vs.map (·.names)) ∧
      M.Covers s place starts vs ∧ found = vs.flatMap (·.found)
  | (.error e, s') => ∃ vs s₁ last, M.Tour visit root place s vs s₁ ∧
      Apart starts (vs.map (·.names) ++ last) ∧ M.Stops fail visit root place s₁ last e s'

variable {M fail visit root place}

theorem tells_visit {s : σ} {names : List String} {kind : EntryKind}
    (hsound : (M.files s).IsSound) (there : (M.files s).kind? (place ++ names) = some kind)
    (hkind : kind = .file) :
    M.Tells fail visit root place [names] s (M.run (visit ⟨root.below names, kind⟩) s) := by
  rcases hran : M.run (visit ⟨root.below names, kind⟩) s with ⟨result, s'⟩
  cases result with
  | error e => exact ⟨[], s, [names], .done s, Apart.single names, .visit there hran⟩
  | ok found =>
    refine ⟨[⟨names, kind, found⟩], .single there hran, Apart.single names, ?_, by simp⟩
    intro start hstart rest kind' hthere
    obtain rfl := List.mem_singleton.1 hstart
    by_cases hrest : rest = []
    · subst hrest
      rw [List.append_nil, there] at hthere
      exact ⟨_, List.mem_singleton_self _, (List.append_nil _).symm, Option.some.inj hthere⟩
    · -- There is nothing below a file.
      rw [← List.append_assoc] at hthere
      have hdir := hsound.tree.above hrest (FileSystem.isSome_of_kind? hthere)
      rw [FileSystem.isDirectory_iff, there, hkind] at hdir
      cases hdir

/-- A directory that was visited is told by its own visit and by what the walks below it tell. -/
theorem tells_directory {names : List String} {here : List α} {s s₁ : σ}
    (hsound : (M.files s).IsSound)
    (hthere : (M.files s).kind? (place ++ names) = some .directory)
    (hran : M.run (visit ⟨root.below names, .directory⟩) s = (.ok here, s₁))
    (hevolved : FileSystem.Evolved (M.files s) (M.files s₁))
    (ran : Except ε (List (List α)) × σ) :
    M.Tells fail visit root place
        (((M.files s).children (place ++ names)).map fun e => names ++ [e.1]) s₁
        (match ran with
          | (.ok below, s') => (.ok below.flatten, s')
          | (.error e, s') => (.error e, s')) →
      M.Tells fail visit root place [names] s
        (match ran with
          | (.error e, s') => (.error e, s')
          | (.ok below, s') => (.ok (here ++ below.flatten), s')) := by
  intro hbelow
  have hfirst : M.Tour visit root place s [⟨names, .directory, here⟩] s₁ := .single hthere hran
  have hproper : ∀ e ∈ (M.files s).children (place ++ names), IsName e.1 :=
    fun e he => hsound.isName_of_mem_children he
  obtain ⟨result, s'⟩ := ran
  cases result with
  | error e =>
    obtain ⟨vs, s₂, last, htour, hapart, hstops⟩ := hbelow
    exact ⟨_ :: vs, s₂, last, hfirst.append htour, Apart.cons hproper hapart, hstops⟩
  | ok below =>
    obtain ⟨vs, htour, hapart, hcovers, hfound⟩ := hbelow
    exact ⟨_ :: vs, hfirst.append htour, Apart.cons hproper hapart,
      Covers.directory hsound hthere hevolved hcovers, by rw [hfound]; rfl⟩

/-- A walk from a directory lists it, visits it, and goes on with what it listed. -/
theorem run_walkFrom (depth : Nat) (path : Path) (s : σ) :
    M.run (disk.walkFrom fail visit (depth + 1) path .directory) s =
      match M.run (visit ⟨path, .directory⟩) s with
      | (.error e, s₁) => (.error e, s₁)
      | (.ok here, s₁) =>
        match (M.files s).list path with
        | .error cause => M.run (fail path cause) s₁
        | .ok entries =>
          match M.run (entries.mapM fun e =>
            disk.walkFrom fail visit depth (path.join ⟨e.1⟩) e.2) s₁ with
          | (.error e, s') => (.error e, s')
          | (.ok below, s') => (.ok (here ++ below.flatten), s') := by
  have hlist : M.run (liftM (disk.list path)) s = (.ok ((M.files s).list path), s) :=
    M.run_asking _ s
  rw [Disk.walkFrom, M.run_bind, hlist]
  dsimp only
  rw [M.run_bind]
  rcases M.run (visit ⟨path, .directory⟩) s with ⟨_ | here, s₁⟩
  · rfl
  · dsimp only
    cases (M.files s).list path with
    | error cause => rfl
    | ok entries =>
      dsimp only
      rw [M.run_bind]
      generalize M.run (List.mapM _ _) s₁ = ran
      obtain ⟨_ | below, s'⟩ := ran
      · rfl
      · dsimp only
        rw [M.run_pure]

variable [LawfulMonad n]

theorem run_mapM_cons {β γ : Type} (f : β → n γ) (b : β) (bs : List β) (s : σ) :
    M.run ((b :: bs).mapM f) s = match M.run (f b) s with
      | (.ok c, s₁) =>
        match M.run (bs.mapM f) s₁ with
        | (.ok cs, s₂) => (.ok (c :: cs), s₂)
        | (.error e, s₂) => (.error e, s₂)
      | (.error e, s₁) => (.error e, s₁) := by
  rw [List.mapM_cons, M.run_bind]
  rcases M.run (f b) s with ⟨c | c, s₁⟩
  · rfl
  · dsimp only
    rw [M.run_bind]
    rcases M.run (bs.mapM f) s₁ with ⟨cs | cs, s₂⟩
    · rfl
    · dsimp only
      rw [M.run_pure]

/-- Walks below the entries of a directory, one after the other. -/
theorem tells_entries (hvisit : ∀ e, M.Keeps (visit e)) {names : List String}
    (walk : String × EntryKind → n (List α)) {entries : List (String × EntryKind)}
    (hdistinct : (entries.map (·.1)).Nodup)
    (hwalk : ∀ e ∈ entries, ∀ s, (M.files s).IsSound → (M.files s).foot root = .ok place →
      (M.files s).kind? (place ++ (names ++ [e.1])) = some e.2 →
      M.Tells fail visit root place [names ++ [e.1]] s (M.run (walk e) s))
    {s : σ} (hsound : (M.files s).IsSound) (hroot : (M.files s).foot root = .ok place)
    (hthere : ∀ e ∈ entries, (M.files s).kind? (place ++ (names ++ [e.1])) = some e.2) :
    M.Tells fail visit root place (entries.map fun e => names ++ [e.1]) s
      (match M.run (entries.mapM walk) s with
        | (.ok below, s') => (.ok below.flatten, s')
        | (.error e, s') => (.error e, s')) := by
  induction entries generalizing s with
  | nil =>
    rw [List.mapM_nil, M.run_pure]
    exact ⟨[], .done s, Apart.nil _, fun _ h => absurd h List.not_mem_nil, rfl⟩
  | cons e entries ih =>
    obtain ⟨hnew, hdistinct⟩ := List.nodup_cons.1 hdistinct
    have hfirst := hwalk e List.mem_cons_self s hsound hroot (hthere e List.mem_cons_self)
    rw [run_mapM_cons]
    rcases hran : M.run (walk e) s with ⟨result, s₁⟩
    rw [hran] at hfirst
    cases result with
    | error cause =>
      obtain ⟨vs, s₂, last, htour, hapart, hstops⟩ := hfirst
      have hapart := Apart.append hnew hapart (Apart.nil _)
      rw [List.append_nil] at hapart
      exact ⟨vs, s₂, last, htour, hapart, hstops⟩
    | ok found =>
      obtain ⟨vs, htour, hapart, hcovers, rfl⟩ := hfirst
      obtain ⟨hsound₁, hevolved⟩ := htour.evolved hvisit hsound
      have hrest := ih hdistinct (fun e he => hwalk e (List.mem_cons_of_mem _ he)) hsound₁
        (hevolved.foot hroot)
        fun e he => hevolved.kinds _ _ (hthere e (List.mem_cons_of_mem _ he))
      dsimp only
      rcases hran' : M.run (entries.mapM walk) s₁ with ⟨result', s'⟩
      rw [hran'] at hrest
      cases result' with
      | error cause =>
        obtain ⟨ws, s₂, last, htour', hapart', hstops⟩ := hrest
        refine ⟨vs ++ ws, s₂, last, htour.append htour', ?_, hstops⟩
        rw [List.map_append, List.append_assoc]
        exact Apart.append hnew hapart hapart'
      | ok below =>
        obtain ⟨ws, htour', hapart', hcovers', hbelow⟩ := hrest
        refine ⟨vs ++ ws, htour.append htour', ?_, ?_, ?_⟩
        · rw [List.map_append]
          exact Apart.append hnew hapart hapart'
        · intro start hstart rest kind hkind
          obtain rfl | hstart := List.mem_cons.1 hstart
          · obtain ⟨v, hv, hsame⟩ := hcovers _ (List.mem_singleton_self _) rest kind hkind
            exact ⟨v, List.mem_append_left _ hv, hsame⟩
          · -- What was there before the first entry was walked is there still.
            obtain ⟨v, hv, hsame⟩ := hcovers' start hstart rest kind (hevolved.kinds _ _ hkind)
            exact ⟨v, List.mem_append_right _ hv, hsame⟩
        · rw [List.flatten_cons, hbelow, List.flatMap_append]

/-- A walk from a place that is there tells a tour below it. -/
theorem walkFrom_tells (hvisit : ∀ e, M.Keeps (visit e))
    (hfail : ∀ path cause s, ∃ e, M.run (fail path cause) s = (.error e, s))
    (depth : Nat) {names : List String} (hnames : ∀ name ∈ names, IsName name) {kind : EntryKind}
    {s : σ} (hsound : (M.files s).IsSound) (hroot : (M.files s).foot root = .ok place)
    (hthere : (M.files s).kind? (place ++ names) = some kind) :
    M.Tells fail visit root place [names] s
      (M.run (disk.walkFrom fail visit depth (root.below names) kind) s) := by
  induction depth generalizing names kind s with
  | zero =>
    cases kind with
    | file => exact tells_visit hsound hthere rfl
    | directory =>
      obtain ⟨e, hran⟩ := hfail (root.below names) .nameTooLong s
      rw [Disk.walkFrom, hran]
      exact ⟨[], s, [], .done s, Apart.nil _, .walk hran⟩
  | succ depth ih =>
    cases kind with
    | file => exact tells_visit hsound hthere rfl
    | directory =>
      rw [run_walkFrom]
      have hkept := hvisit ⟨root.below names, .directory⟩ s hsound
      rcases hran : M.run (visit ⟨root.below names, .directory⟩) s with ⟨result, s₁⟩
      rw [hran] at hkept
      cases result with
      | error e => exact ⟨[], s, [names], .done s, Apart.single names, .visit hthere hran⟩
      | ok here =>
        dsimp only
        cases hlisting : (M.files s).list (root.below names) with
        | error cause =>
          obtain ⟨e, hran'⟩ := hfail (root.below names) cause s₁
          dsimp only
          rw [hran']
          exact ⟨[⟨names, .directory, here⟩], s₁, [], .single hthere hran, Apart.single names,
            .walk hran'⟩
        | ok entries =>
          obtain rfl := FileSystem.list_below hroot hnames hlisting
          -- What was listed before the visit is there after it, as what it was.
          have hlisted : ∀ e ∈ (M.files s).children (place ++ names),
              (M.files s₁).kind? (place ++ (names ++ [e.1])) = some e.2 := fun e he => by
            rw [← List.append_assoc]
            exact hkept.2.kinds _ _ (hsound.mem_children.1 he)
          refine tells_directory hsound hthere hran hkept.2 _ ?_
          refine tells_entries hvisit _ (hsound.nodup_children (place ++ names))
            (fun e he s' hsound' hroot' hthere' => ?_) hkept.1 (hkept.2.foot hroot) hlisted
          rw [← Path.below_concat]
          refine ih ?_ hsound' hroot' hthere'
          exact List.forall_mem_append.2
            ⟨hnames, List.forall_mem_singleton.2 (hsound.isName_of_mem_children he)⟩

/-- What a walk tells: nothing if there is nothing at its root, and else a tour of all that is at
or below it. -/
theorem walk_tells (root : Path) (hvisit : ∀ e, M.Keeps (visit e))
    (hfail : ∀ path cause s, ∃ e, M.run (fail path cause) s = (.error e, s))
    {s : σ} (hsound : (M.files s).IsSound) :
    (∃ cause e, M.run (fail root cause) s = (.error e, s) ∧
        M.run (disk.walk fail visit root) s = (.error e, s)) ∨
      ∃ place, (M.files s).follow root = .ok place ∧
        M.Tells fail visit root place [[]] s (M.run (disk.walk fail visit root) s) := by
  have hkind : M.run (liftM (disk.kind root)) s
      = (.ok (((M.files s).find root).map fun found => found.2.kind), s) := M.run_asking _ s
  rw [Disk.walk, M.run_bind, hkind]
  cases hfind : (M.files s).find root with
  | error cause =>
    obtain ⟨e, hran⟩ := hfail root cause s
    exact .inl ⟨cause, e, hran, hran⟩
  | ok found =>
    obtain ⟨place, entry⟩ := found
    obtain ⟨hfollow, hentry⟩ := FileSystem.find_eq_ok.1 hfind
    refine .inr ⟨place, hfollow, ?_⟩
    have hthere : (M.files s).kind? (place ++ []) = some entry.kind := by
      rw [List.append_nil, FileSystem.kind?, hentry]
      rfl
    exact walkFrom_tells hvisit hfail _ (fun _ h => absurd h List.not_mem_nil) hsound
      (FileSystem.foot_of_follow hfollow) hthere

/-! ## The bound of a walk -/

theorem walkFrom_keeps (hvisit : ∀ e, M.Keeps (visit e))
    (hfail : ∀ path cause s, ∃ e, M.run (fail path cause) s = (.error e, s)) (depth : Nat)
    (path : Path) (kind : EntryKind) : M.Keeps (disk.walkFrom fail visit depth path kind) := by
  have hfail (path : Path) (cause : FileError) : M.Keeps (fail path cause) := .of_same fun s => by
    obtain ⟨e, hran⟩ := hfail path cause s
    rw [hran]
  induction depth generalizing path kind with
  | zero =>
    cases kind with
    | file => exact hvisit _
    | directory => exact hfail _ _
  | succ depth ih =>
    cases kind with
    | file => exact hvisit _
    | directory =>
      have hlist : M.Keeps (liftM (disk.list path) : n (Except FileError (List (String × EntryKind)))) :=
        .of_same fun s => by
          have hran : M.run (liftM (disk.list path)) s = (.ok ((M.files s).list path), s) :=
            M.run_asking _ s
          rw [hran]
      refine .bind hlist fun listing => .bind (hvisit _) fun here => ?_
      cases listing with
      | error cause => exact hfail _ _
      | ok entries => exact .bind (.mapM (fun e => ih _ _) entries) fun _ => .pure _

/-- Steps that run alike from every state that can come up run alike one after the other. -/
theorem run_mapM_congr {β γ : Type} {f g : β → n γ} (hf : ∀ b, M.Keeps (f b)) {bs : List β}
    (h : ∀ b ∈ bs, ∀ s, (M.files s).IsSound → M.run (f b) s = M.run (g b) s) {s : σ}
    (hsound : (M.files s).IsSound) : M.run (bs.mapM f) s = M.run (bs.mapM g) s := by
  induction bs generalizing s with
  | nil => rw [List.mapM_nil, List.mapM_nil]
  | cons b bs ih =>
    rw [run_mapM_cons, run_mapM_cons, ← h b List.mem_cons_self s hsound]
    rcases hran : M.run (f b) s with ⟨_ | c, s₁⟩
    · rfl
    · dsimp only
      rw [ih (fun b hb => h b (List.mem_cons_of_mem _ hb)) ((hf b).evolved hsound hran).1]

/-- Whether a bound lies beyond all levels that can be listed: every level makes a path longer,
and a path that is too long cannot be listed. -/
def IsBeyond (depth : Nat) (path : Path) : Prop :=
  0 < depth ∧ (path.text.utf8ByteSize ≤ FileSystem.maxPath → path.text ≠ "" →
    FileSystem.maxPath + 1 < depth + path.text.utf8ByteSize)

theorem isBeyond_maxLevels {depth : Nat} (h : Disk.maxLevels ≤ depth) (path : Path) :
    IsBeyond depth path := by
  have hlevels : Disk.maxLevels = FileSystem.maxPath + 1 := rfl
  refine ⟨by omega, fun _ hne => ?_⟩
  have hsize : path.text.utf8ByteSize ≠ 0 := fun hzero =>
    hne (String.utf8ByteSize_eq_zero_iff.1 hzero)
  omega

/-- Two bounds that lie beyond all levels make no difference to a walk. -/
theorem walkFrom_beyond (hvisit : ∀ e, M.Keeps (visit e))
    (hfail : ∀ path cause s, ∃ e, M.run (fail path cause) s = (.error e, s))
    {depth depth' : Nat} {path : Path} (kind : EntryKind) (h : IsBeyond depth path)
    (h' : IsBeyond depth' path) {s : σ} (hsound : (M.files s).IsSound) :
    M.run (disk.walkFrom fail visit depth path kind) s
      = M.run (disk.walkFrom fail visit depth' path kind) s := by
  induction depth generalizing depth' path kind s with
  | zero => exact absurd h.1 (Nat.lt_irrefl 0)
  | succ depth ih =>
    obtain ⟨depth', rfl⟩ := Nat.exists_eq_succ_of_ne_zero (Nat.pos_iff_ne_zero.1 h'.1)
    cases kind with
    | file => rfl
    | directory =>
      rw [run_walkFrom, run_walkFrom]
      rcases hran : M.run (visit ⟨path, .directory⟩) s with ⟨_ | here, s₁⟩
      · rfl
      · have hsound₁ := ((hvisit _).evolved hsound hran).1
        dsimp only
        cases hlisting : (M.files s).list path with
        | error cause => rfl
        | ok entries =>
          obtain ⟨⟨place, entry⟩, hfind, hentries⟩ := Except.bind_eq_ok hlisting
          obtain ⟨steps, hsteps, -⟩ := Except.bind_eq_ok (FileSystem.find_eq_ok.1 hfind).1
          obtain ⟨hne, hsize, -⟩ := FileSystem.text_of_pieces hsteps
          have hroom := h.2 hsize hne
          have hroom' := h'.2 hsize hne
          have hnames : ∀ e ∈ entries, IsName e.1 := by
            cases entry with
            | file content mode => cases hentries
            | directory mode =>
              cases hentries
              exact fun e he => hsound.isName_of_mem_children he
          have hbelow : M.run (entries.mapM fun e =>
                disk.walkFrom fail visit depth (path.join ⟨e.1⟩) e.2) s₁
              = M.run (entries.mapM fun e =>
                disk.walkFrom fail visit depth' (path.join ⟨e.1⟩) e.2) s₁ := by
            refine run_mapM_congr (fun e => walkFrom_keeps hvisit hfail _ _ _) (fun e he s hs => ?_)
              hsound₁
            have hlonger := Path.size_join path (hnames e he)
            exact ih e.2 ⟨by omega, fun _ _ => by omega⟩ ⟨by omega, fun _ _ => by omega⟩ hs
          dsimp only
          rw [hbelow]

end Walks

end Machine

end StaticSite
