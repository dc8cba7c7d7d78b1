/-
  How the operations of a disk change a file system.

  A file system is sound if it is a tree, lists no place twice and has proper names only
  (`IsSound`); then what it lists in a directory is what can be found there
  (`mem_children`).  Every operation is one `put` at a place that was reached, and takes
  nothing away: a directory stays a directory and a file stays a file (`Evolved`).  So the
  file system stays sound, and a path that leads somewhere leads there ever after
  (`Evolved.follow`).
-/

import StaticSite.Proofs.Stubs

open StaticSite.Path (IsName)

namespace StaticSite

instance (name : String) : Decidable (IsName name) :=
  decidable_of_iff (name ≠ "" ∧ name ≠ "." ∧ name ≠ ".." ∧ '/' ∉ name.toList)
    ⟨fun ⟨h, h', h'', hslash⟩ => ⟨h, h', h'', hslash⟩,
      fun h => ⟨h.ne_empty, h.ne_dot, h.ne_dots, h.no_slash⟩⟩

namespace FileSystem

variable {fs fs' fs'' : FileSystem}

/-! ## Kinds of entries -/

/-- What kind of entry is at a place. -/
def kind? (fs : FileSystem) (place : Place) : Option EntryKind := (fs.entry? place).map (·.kind)

theorem isDirectory_iff {place : Place} :
    fs.IsDirectory place ↔ fs.kind? place = some .directory := by
  unfold IsDirectory kind?
  cases fs.entry? place with
  | none => simp
  | some entry => cases entry <;> simp [Entry.kind]

/-- Whether there is a file at a place. -/
def IsFile (fs : FileSystem) (place : Place) : Prop := fs.kind? place = some .file

theorem isFile_iff {place : Place} :
    fs.IsFile place ↔ ∃ content mode, fs.entry? place = some (.file content mode) := by
  unfold IsFile kind?
  cases fs.entry? place with
  | none => simp
  | some entry => cases entry <;> simp [Entry.kind]

theorem isSome_of_kind? {place : Place} {kind : EntryKind} (h : fs.kind? place = some kind) :
    (fs.entry? place).isSome := by
  obtain ⟨entry, hentry, -⟩ := Option.map_eq_some_iff.1 h
  rw [hentry]
  rfl

/-! ## Sound file systems -/

/-- A tree that lists every place once, with proper names. -/
structure IsSound (fs : FileSystem) : Prop where
  tree : fs.IsTree
  names : ∀ e ∈ fs.entries, ∀ name ∈ e.1, IsName name
  distinct : (fs.entries.map (·.1)).Nodup

theorem mem_entries {place : Place} {entry : Entry} (hne : place ≠ [])
    (h : fs.entry? place = some entry) : (place, entry) ∈ fs.entries := by
  have hlookup : fs.entries.lookup place = some entry := by
    cases place with
    | nil => exact absurd rfl hne
    | cons name rest => exact h
  obtain ⟨before, after, heq, -⟩ := List.lookup_eq_some_iff.1 hlookup
  rw [heq]
  exact List.mem_append_right _ List.mem_cons_self

namespace IsSound

variable (h : fs.IsSound)
include h

theorem entry?_of_mem {place : Place} {entry : Entry} (hne : place ≠ [])
    (hmem : (place, entry) ∈ fs.entries) : fs.entry? place = some entry := by
  obtain ⟨before, after, heq⟩ := List.append_of_mem hmem
  have hdistinct := h.distinct
  rw [heq, List.map_append, List.map_cons, List.nodup_append] at hdistinct
  -- The place is not listed before, so the look-up finds this entry.
  have hlookup : fs.entries.lookup place = some entry := by
    rw [List.lookup_eq_some_iff]
    refine ⟨before, after, heq, fun e he => bne_iff_ne.2 ?_⟩
    rintro rfl
    exact hdistinct.2.2 e.1 (List.mem_map_of_mem he) e.1 List.mem_cons_self rfl
  cases place with
  | nil => exact absurd rfl hne
  | cons name rest => exact hlookup

theorem isName {place : Place} (hsome : (fs.entry? place).isSome) :
    ∀ name ∈ place, IsName name := by
  by_cases hne : place = []
  · rw [hne]
    exact fun _ hname => (List.not_mem_nil hname).elim
  · obtain ⟨entry, hentry⟩ := Option.isSome_iff_exists.1 hsome
    exact h.names _ (mem_entries hne hentry)

end IsSound

/-! ## Listings -/

theorem nameIn?_eq_some {directory place : Place} {name : String} :
    nameIn? directory place = some name ↔ place = directory ++ [name] := by
  unfold nameIn?
  cases hprefix : directory.isPrefixOf? place with
  | none =>
    have hnot : ∀ rest, directory ++ rest ≠ place := fun rest heq => by
      rw [List.isPrefixOf?_eq_some_iff_append_eq.2 heq] at hprefix
      cases hprefix
    simpa using fun heq => hnot _ heq.symm
  | some rest =>
    have hrest := List.isPrefixOf?_eq_some_iff_append_eq.1 hprefix
    subst hrest
    match rest with
    | [] => simp
    | [other] => simp
    | _ :: _ :: _ => simp

/-- A directory lists exactly what can be found in it. -/
theorem IsSound.mem_children (h : fs.IsSound) {directory : Place} {name : String}
    {kind : EntryKind} :
    (name, kind) ∈ fs.children directory ↔ fs.kind? (directory ++ [name]) = some kind := by
  have hne : directory ++ [name] ≠ [] := by simp
  have hlisted : (name, kind) ∈ fs.children directory ↔
      ∃ entry, (directory ++ [name], entry) ∈ fs.entries ∧ entry.kind = kind := by
    simp only [children, List.mem_mergeSort, List.mem_filterMap, Option.map_eq_some_iff,
      nameIn?_eq_some, Prod.mk.injEq, Prod.exists]
    constructor
    · rintro ⟨_, entry, hmem, _, rfl, rfl, hkind⟩
      exact ⟨entry, hmem, hkind⟩
    · rintro ⟨entry, hmem, hkind⟩
      exact ⟨_, entry, hmem, name, rfl, rfl, hkind⟩
  rw [hlisted, kind?, Option.map_eq_some_iff]
  exact exists_congr fun entry =>
    and_congr_left' ⟨h.entry?_of_mem hne, mem_entries hne⟩

/-- No name is listed twice. -/
theorem IsSound.nodup_children (h : fs.IsSound) (directory : Place) :
    ((fs.children directory).map (·.1)).Nodup := by
  have hsorted : (fs.children directory).Perm _ := List.mergeSort_perm _ _
  rw [(hsorted.map _).nodup_iff, List.map_filterMap, List.Nodup, List.pairwise_filterMap]
  have hdistinct := h.distinct
  rw [List.Nodup, List.pairwise_map] at hdistinct
  refine hdistinct.imp fun {e e'} hne name hname name' hname' heq => hne ?_
  simp only [Option.map_map, Option.map_eq_some_iff, nameIn?_eq_some, Function.comp_apply,
    exists_eq_right] at hname hname'
  rw [hname, hname', heq]

/-- What is listed are proper names. -/
theorem IsSound.isName_of_mem_children (h : fs.IsSound) {directory : Place} {name : String}
    {kind : EntryKind} (hmem : (name, kind) ∈ fs.children directory) : IsName name :=
  h.isName (isSome_of_kind? (h.mem_children.1 hmem)) name (by simp)

/-! ## Nothing goes away -/

/-- What was a directory is one still, and what was a file is one still. -/
structure Evolved (fs fs' : FileSystem) : Prop where
  current : fs'.current = fs.current
  kinds : ∀ place kind, fs.kind? place = some kind → fs'.kind? place = some kind

namespace Evolved

theorem refl (fs : FileSystem) : Evolved fs fs := ⟨rfl, fun _ _ h => h⟩

theorem trans (h : Evolved fs fs') (h' : Evolved fs' fs'') : Evolved fs fs'' :=
  ⟨h'.current.trans h.current, fun place kind hkind => h'.kinds _ _ (h.kinds place kind hkind)⟩

variable (h : Evolved fs fs')
include h

theorem isDirectory {place : Place} (hdir : fs.IsDirectory place) : fs'.IsDirectory place :=
  isDirectory_iff.2 (h.kinds _ _ (isDirectory_iff.1 hdir))

theorem start (path : Path) : fs'.start path = fs.start path := by
  rw [FileSystem.start, FileSystem.start, h.current]

theorem step {place q : Place} {piece : String} (hstep : fs.step place piece = .ok q) :
    fs'.step place piece = .ok q := by
  obtain ⟨mode, hmode⟩ := (step_eq_ok hstep).1
  obtain ⟨mode', hmode'⟩ := h.isDirectory ⟨mode, hmode⟩
  rw [← hstep]
  simp only [FileSystem.step, hmode, hmode']

theorem foldlM {steps : List String} {start place : Place}
    (hsteps : steps.foldlM fs.step start = .ok place) :
    steps.foldlM fs'.step start = .ok place := by
  induction steps generalizing start with
  | nil => exact hsteps
  | cons piece rest ih =>
    obtain ⟨q, hq, hrest⟩ := Except.bind_eq_ok hsteps
    rw [List.foldlM_cons, h.step hq]
    exact ih hrest

/-- A path leads where it led before. -/
theorem follow {path : Path} {place : Place} (hplace : fs.follow path = .ok place) :
    fs'.follow path = .ok place := by
  obtain ⟨steps, hsteps, hplace⟩ := Except.bind_eq_ok hplace
  rw [FileSystem.follow, hsteps, h.start path]
  exact h.foldlM hplace

end Evolved

theorem Grown.evolved {IsNew : Entry → Prop} (h : Grown IsNew fs fs') : Evolved fs fs' := by
  refine ⟨h.current, fun place kind hkind => ?_⟩
  obtain heq | ⟨hnone, -⟩ := h.entries place
  · rwa [kind?, heq]
  · rw [kind?, hnone] at hkind
    cases hkind

/-! ## Places -/

/-- A place where an entry can be: its names are proper, and steps have led to it. -/
structure IsPlace (fs : FileSystem) (place : Place) : Prop where
  names : ∀ name ∈ place, IsName name
  reached : fs.IsReached place

theorem isBack_or_isName {piece : String} (hslash : '/' ∉ piece.toList) :
    Path.IsBack piece ∨ IsName piece := by
  by_cases hback : Path.IsBack piece
  · exact .inl hback
  · simp only [Path.IsBack, not_or] at hback
    exact .inr ⟨hback.1, hback.2.1, hback.2.2, hslash⟩

theorem no_slash_of_pieces {path : Path} {steps : List String} (h : pieces path = .ok steps) :
    ∀ piece ∈ steps, '/' ∉ piece.toList := by
  rw [← pieces_eq_ok h]
  intro piece hpiece
  obtain ⟨cs, hcs, rfl⟩ := List.mem_map.1 hpiece
  rw [String.toList_ofList]
  exact Text.not_mem_of_mem_splitAt hcs

namespace IsSound

variable (h : fs.IsSound)
include h

theorem isPlace_foldlM {steps : List String} (hslash : ∀ piece ∈ steps, '/' ∉ piece.toList)
    {start place : Place} (hstart : fs.IsDirectory start)
    (hsteps : steps.foldlM fs.step start = .ok place) : fs.IsPlace place := by
  refine ⟨?_, h.tree.isReached (.inl hstart) hsteps⟩
  have hnames := h.isName hstart.isSome
  clear hstart
  induction steps generalizing start with
  | nil =>
    cases hsteps
    exact hnames
  | cons piece rest ih =>
    obtain ⟨q, hq, hrest⟩ := Except.bind_eq_ok hsteps
    refine ih (fun p hp => hslash p (List.mem_cons_of_mem _ hp)) hrest ?_
    have hdir := (step_eq_ok hq).1
    obtain hback | hname := isBack_or_isName (hslash piece List.mem_cons_self)
    · rw [step_back hdir hback] at hq
      cases hq
      unfold back
      split
      · exact fun name hname => hnames name (List.mem_of_mem_dropLast hname)
      · exact hnames
    · obtain ⟨-, -, rfl⟩ := (step_name hname).1 hq
      exact List.forall_mem_append.2 ⟨hnames, List.forall_mem_singleton.2 hname⟩

theorem isPlace_follow {path : Path} {place : Place} (hplace : fs.follow path = .ok place) :
    fs.IsPlace place := by
  obtain ⟨steps, hsteps, hplace⟩ := Except.bind_eq_ok hplace
  exact h.isPlace_foldlM (no_slash_of_pieces hsteps) (h.tree.start path) hplace

end IsSound

/-! ## One entry -/

theorem kind?_put {place : Place} {entry : Entry}
    (hkind : ∀ old, fs.entry? place = some old → entry.kind = old.kind) {q : Place}
    {kind : EntryKind} (h : fs.kind? q = some kind) : kind? (fs.put place entry) q = some kind := by
  by_cases hq : q = place
  · subst hq
    by_cases hroot : q = []
    · subst hroot
      exact h
    · obtain ⟨old, hold, rfl⟩ := Option.map_eq_some_iff.1 h
      rw [kind?, entry?_put_self hroot, Option.map_some, hkind old hold]
  · rwa [kind?, entry?_put_of_ne hq]

/-- An entry of the same kind, or a new one. -/
theorem evolved_put {place : Place} {entry : Entry}
    (hkind : ∀ old, fs.entry? place = some old → entry.kind = old.kind) :
    Evolved fs (fs.put place entry) := ⟨rfl, fun _ _ h => kind?_put hkind h⟩

theorem IsSound.put (h : fs.IsSound) {place : Place} (hplace : fs.IsPlace place) {entry : Entry}
    (hkind : ∀ old, fs.entry? place = some old → entry.kind = old.kind) :
    (fs.put place entry).IsSound where
  tree := by
    have hevolved : Evolved fs (fs.put place entry) := evolved_put hkind
    refine ⟨fun q name hsome => hevolved.isDirectory ?_, hevolved.isDirectory h.tree.current⟩
    by_cases hq : q ++ [name] = place
    · -- The entry is in the directory from which it was reached.
      obtain hdir | ⟨above, name', rfl, habove⟩ := hplace.reached
      · exact h.tree.nested q name (hq ▸ hdir.isSome)
      · rw [(List.append_inj' hq rfl).1]
        exact habove
    · rw [entry?_put_of_ne hq] at hsome
      exact h.tree.nested q name hsome
  names := by
    refine List.forall_mem_cons.2 ⟨hplace.names, fun e he => ?_⟩
    exact h.names e (List.mem_of_mem_filter he)
  distinct := by
    refine List.nodup_cons.2 ⟨?_, h.distinct.sublist (List.filter_sublist.map _)⟩
    simp

/-! ## Operations -/

/-- File systems that stay sound and lose nothing. -/
def evolving : Frame where
  holds := IsSound
  change := Evolved
  refl := .refl
  trans := .trans

theorem withoutSlashes_append (steps : List String) :
    ∃ slashes, steps = withoutSlashes steps ++ slashes ∧ ∀ piece ∈ slashes, piece = "" := by
  refine ⟨(steps.reverse.takeWhile (· == "")).reverse, ?_, fun piece hpiece => ?_⟩
  · rw [withoutSlashes, ← List.reverse_append, List.takeWhile_append_dropWhile,
      List.reverse_reverse]
  · have hempty := List.mem_takeWhile_imp (List.mem_reverse.1 hpiece)
    exact beq_iff_eq.1 hempty

/-- Slashes at the end of a path stay in the directory that it leads to. -/
theorem foldlM_slashes {place : Place} (hdir : fs.IsDirectory place) {slashes : List String}
    (h : ∀ piece ∈ slashes, piece = "") : slashes.foldlM fs.step place = .ok place := by
  induction slashes with
  | nil => rfl
  | cons piece rest ih =>
    obtain rfl := h piece List.mem_cons_self
    rw [List.foldlM_cons, step_back hdir (.inl rfl)]
    exact ih fun p hp => h p (List.mem_cons_of_mem _ hp)

/-- A directory that was made is where its path leads from then on. -/
theorem makeDirectory_eq_put {path : Path} (hmade : fs.makeDirectory path = .ok fs') :
    ∃ (steps : List String) (place : Place), (∀ piece ∈ steps, '/' ∉ piece.toList) ∧
      steps.foldlM fs.step (fs.start path) = .ok place ∧ fs.entry? place = none ∧
      fs' = fs.put place (.directory directoryMode) ∧ fs'.follow path = .ok place := by
  obtain ⟨steps, hsteps, hmade⟩ := Except.bind_eq_ok hmade
  obtain ⟨place, hplace, hmade⟩ := Except.bind_eq_ok hmade
  obtain ⟨slashes, heq, hslashes⟩ := withoutSlashes_append steps
  have hno := no_slash_of_pieces hsteps
  split at hmade
  · cases hmade
  · next hfree =>
    rw [Bool.or_eq_true, not_or, Option.not_isSome_iff_eq_none] at hfree
    cases hmade
    refine ⟨_, place, fun piece hpiece => hno piece (heq ▸ List.mem_append_left _ hpiece), hplace,
      hfree.2, rfl, ?_⟩
    have hroot : place ≠ [] := by
      rintro rfl
      cases hfree.2
    have hevolved : Evolved fs (fs.put place (.directory directoryMode)) :=
      evolved_put fun old hold => by
        rw [hfree.2] at hold
        cases hold
    rw [follow, hsteps, hevolved.start path]
    show steps.foldlM _ _ = _
    rw [heq, List.foldlM_append, hevolved.foldlM hplace]
    exact foldlM_slashes ⟨directoryMode, entry?_put_self hroot _⟩ hslashes

theorem copyMode_eq_put {source target : Path} (h : fs.copyMode source target = .ok fs') :
    ∃ from' entry place old, fs.find source = .ok (from', entry) ∧
      fs.find target = .ok (place, old) ∧ fs' = fs.put place (old.withMode entry.mode) := by
  obtain ⟨⟨from', entry⟩, hsource, h⟩ := Except.bind_eq_ok h
  obtain ⟨⟨place, old⟩, htarget, h⟩ := Except.bind_eq_ok h
  exact ⟨from', entry, place, old, hsource, htarget, (Except.ok.inj h).symm⟩

theorem find_eq_ok {path : Path} {place : Place} {entry : Entry} :
    fs.find path = .ok (place, entry) ↔
      fs.follow path = .ok place ∧ fs.entry? place = some entry := by
  constructor
  · intro h
    obtain ⟨q, hq, h⟩ := Except.bind_eq_ok h
    split at h
    · next hentry =>
      cases h
      exact ⟨hq, hentry⟩
    · cases h
  · rintro ⟨hfollow, hentry⟩
    rw [find, hfollow, Except.ok_bind, hentry]
    rfl

/-- A file that is copied holds what its source held, with its mode; a file that is copied onto
itself is emptied first. -/
theorem copyFile_eq_put {source target : Path} (h : fs.copyFile source target = .ok fs') :
    ∃ from' content mode place, fs.find source = .ok (from', .file content mode) ∧
      fs.follow target = .ok place ∧ place ≠ [] ∧
      (∀ old, fs.entry? place = some old → old.kind = .file) ∧
      fs' = fs.put place (.file (if from' = place then [] else content) mode) := by
  obtain ⟨⟨from', found⟩, hsource, h⟩ := Except.bind_eq_ok h
  cases found with
  | directory mode => cases h
  | file content mode =>
    obtain ⟨⟨place, opened⟩, hopen, h⟩ := Except.bind_eq_ok h
    obtain ⟨hfollow, hroot, kept, rfl, hbefore⟩ := openNew_eq_ok hopen
    refine ⟨from', content, mode, place, hsource, hfollow, hroot, fun old hold => ?_, ?_⟩
    · obtain ⟨hnone, -⟩ | ⟨content', hcontent⟩ := hbefore
      · rw [hnone] at hold
        cases hold
      · rw [hcontent] at hold
        cases hold
        rfl
    · by_cases hsame : from' = place
      · subst hsame
        simp only [entry?_put_self hroot, put_put] at h
        rw [if_pos rfl]
        exact (Except.ok.inj h).symm
      · simp only [entry?_put_of_ne hsame, (find_eq_ok.1 hsource).2, put_put] at h
        rw [if_neg hsame]
        exact (Except.ok.inj h).symm

/-- A file that is written was one before, or is new. -/
theorem writeBytes_evolved (h : fs.IsSound) {path : Path} {content : List UInt8}
    (hwrite : fs.writeBytes path content = .ok fs') : fs'.IsSound ∧ Evolved fs fs' := by
  obtain ⟨place, mode, hfollow, -, rfl, hbefore⟩ := writeBytes_eq_ok hwrite
  have hkind : ∀ old, fs.entry? place = some old →
      Entry.kind (.file content mode) = old.kind := fun old hold => by
    obtain ⟨hnone, -⟩ | ⟨before, hbefore⟩ := hbefore
    · rw [hnone] at hold
      cases hold
    · rw [hbefore] at hold
      cases hold
      rfl
  exact ⟨h.put (h.isPlace_follow hfollow) hkind, evolved_put hkind⟩

/-! ## Operations keep a file system sound -/

namespace Evolving

theorem makeDirectory (path : Path) : evolving.Keeps (disk.makeDirectory path) := by
  refine .changing fun fs fs' hsound hmade => ?_
  obtain ⟨steps, place, hslash, hsteps, hfree, rfl, -⟩ := makeDirectory_eq_put hmade
  have hplace := hsound.isPlace_foldlM hslash (hsound.tree.start path) hsteps
  have hkind : ∀ old, fs.entry? place = some old →
      Entry.kind (.directory directoryMode) = old.kind := fun old hold => by
    rw [hfree] at hold
    cases hold
  exact ⟨hsound.put hplace hkind, evolved_put hkind⟩

theorem makeDirectories (path : Path) : evolving.Keeps (disk.makeDirectories path) :=
  .makeDirectories makeDirectory path

theorem write (path : Path) (text : String) : evolving.Keeps (disk.write path text) :=
  .changing fun _ _ hsound hwrite => writeBytes_evolved hsound hwrite

theorem copyFile (source target : Path) : evolving.Keeps (disk.copyFile source target) := by
  refine .changing fun fs fs' hsound hcopy => ?_
  obtain ⟨_, content, mode, place, -, hfollow, -, hbefore, rfl⟩ := copyFile_eq_put hcopy
  exact ⟨hsound.put (hsound.isPlace_follow hfollow) fun old hold => (hbefore old hold).symm,
    evolved_put fun old hold => (hbefore old hold).symm⟩

theorem copyMode (source target : Path) : evolving.Keeps (disk.copyMode source target) := by
  refine .changing fun fs fs' hsound hcopy => ?_
  obtain ⟨_, entry, place, old, -, htarget, rfl⟩ := copyMode_eq_put hcopy
  obtain ⟨hfollow, hold⟩ := find_eq_ok.1 htarget
  have hkind : ∀ old', fs.entry? place = some old' →
      (old.withMode entry.mode).kind = old'.kind := fun old' hold' => by
    rw [hold] at hold'
    cases hold'
    cases old <;> rfl
  exact ⟨hsound.put (hsound.isPlace_follow hfollow) hkind, evolved_put hkind⟩

/-- The stub is written once its directories are there. -/
theorem write_after (path : Path) {x : StateM FileSystem (Except FileError Unit)}
    (hx : evolving.Keeps x) :
    evolving.Keeps (x >>= fun made => match made with
      | .error cause => return .error cause
      | .ok () => disk.write path "") := by
  refine .bind hx fun made => ?_
  cases made with
  | error cause => exact .of_same fun _ => rfl
  | ok _ => exact write path ""

theorem create (path : Path) : evolving.Keeps (Stub.create disk path) := by
  unfold Stub.create
  split
  · exact write_after path (makeDirectories _)
  · exact write_after path (.of_same fun _ => rfl)

/-- Making stubs for any paths. -/
theorem createMissing (paths : List Path) : evolving.Keeps (Stub.createMissing disk paths) := by
  induction paths with
  | nil => exact .of_same fun _ => rfl
  | cons path rest ih =>
    refine .bind (.of_same fun fs => congrArg (·.2) (has_run fs path)) fun found => ?_
    split
    · exact ih
    · refine .bind (create path) fun made => ?_
      cases made with
      | error cause => exact .of_same fun _ => rfl
      | ok _ => exact .bind ih fun _ => .of_same fun _ => rfl

end Evolving

end FileSystem

end StaticSite
