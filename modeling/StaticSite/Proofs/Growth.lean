/-
  How a file system grows.

  A file system is a tree if every entry is in a directory (`IsTree`).  It grows if entries
  are made where nothing was and nothing else changes (`Grown`).  Making a directory, and
  the directories above it, makes a tree grow by directories; one bound on the runs covers
  all of them (`MakesDirectories`).

  A path that is written without detours leads the same way in a tree before and after it
  has grown, so what it leads to later was found before if it was there
  (`IsTree.find_of_grown`).  Without this, `a/../b` may be found only after `a` is made.
-/

import StaticSite.FileSystem
import StaticSite.Proofs.Components
import StaticSite.Proofs.Simulation

namespace StaticSite

namespace FileSystem

variable {fs fs' fs'' : FileSystem}

/-! ## Entries -/

theorem entry?_put_of_ne {place q : Place} (h : q ≠ place) (entry : Entry) :
    entry? (fs.put place entry) q = fs.entry? q := by
  cases q with
  | nil => rfl
  | cons name rest =>
    have hfilter (entries : List (Place × Entry)) :
        (entries.filter (·.1 != place)).lookup (name :: rest) = entries.lookup (name :: rest) := by
      induction entries with
      | nil => rfl
      | cons e entries ih =>
        obtain ⟨at', e⟩ := e
        rw [List.filter_cons]
        by_cases hat : at' = place
        · subst hat
          have hne : ((name :: rest) == at') = false := by simpa using h
          simp [List.lookup_cons, hne, ih]
        · simp [List.lookup_cons, hat, ih]
    have hne : ((name :: rest) == place) = false := by simpa using h
    simp only [put, entry?, List.lookup_cons, hne]
    exact hfilter fs.entries

theorem entry?_put_self {place : Place} (h : place ≠ []) (entry : Entry) :
    entry? (fs.put place entry) place = some entry := by
  cases place with
  | nil => exact absurd rfl h
  | cons name rest => simp [put, entry?]

/-- Nothing else is new when an entry is put at a place. -/
theorem eq_of_isSome_put {place q : Place} {entry : Entry} (hput : fs' = fs.put place entry)
    (hfree : fs.entry? q = none) (hsome : (fs'.entry? q).isSome) : q = place := by
  by_contra hne
  rw [hput, entry?_put_of_ne hne, hfree] at hsome
  cases hsome

/-- Whether there is a directory at a place. -/
def IsDirectory (fs : FileSystem) (place : Place) : Prop :=
  ∃ mode, fs.entry? place = some (.directory mode)

theorem isDirectory_nil (fs : FileSystem) : fs.IsDirectory [] := ⟨directoryMode, rfl⟩

instance (fs : FileSystem) (place : Place) : Decidable (fs.IsDirectory place) :=
  decidable_of_iff ((fs.entry? place).map (·.kind) = some .directory) (by
    cases h : fs.entry? place with
    | none => simp [IsDirectory, h]
    | some entry => cases entry <;> simp [IsDirectory, h, Entry.kind])

/-- Every entry is in a directory, and so is whoever uses the file system. -/
structure IsTree (fs : FileSystem) : Prop where
  nested : ∀ place name, (fs.entry? (place ++ [name])).isSome → fs.IsDirectory place
  current : fs.IsDirectory fs.current

/-- Whether a file system is a tree can be seen of the entries that it lists. -/
theorem isTree_of_entries (h : ∀ e ∈ fs.entries, fs.IsDirectory e.1.dropLast)
    (hcurrent : fs.IsDirectory fs.current) : fs.IsTree := by
  refine ⟨fun place name hsome => ?_, hcurrent⟩
  obtain ⟨entry, hentry⟩ := Option.isSome_iff_exists.1 hsome
  have hlookup : fs.entries.lookup (place ++ [name]) = some entry := by
    cases place <;> exact hentry
  obtain ⟨before, after, heq, -⟩ := List.lookup_eq_some_iff.1 hlookup
  have hdir := h (place ++ [name], entry) (by rw [heq]; simp)
  rwa [List.dropLast_concat] at hdir

theorem IsDirectory.isSome {place : Place} (h : fs.IsDirectory place) :
    (fs.entry? place).isSome := by
  obtain ⟨mode, hmode⟩ := h
  rw [hmode]
  rfl

/-- What is above an entry is a directory. -/
theorem IsTree.above (h : fs.IsTree) {place rest : Place} (hrest : rest ≠ [])
    (hsome : (fs.entry? (place ++ rest)).isSome) : fs.IsDirectory place := by
  induction rest using List.reverseRecOn with
  | nil => exact absurd rfl hrest
  | append_singleton rest name ih =>
    rw [← List.append_assoc] at hsome
    have hdir := h.nested _ _ hsome
    by_cases hnil : rest = []
    · rwa [hnil, List.append_nil] at hdir
    · exact ih hnil hdir.isSome

theorem IsTree.dropLast (h : fs.IsTree) {place : Place} (hdir : fs.IsDirectory place) :
    fs.IsDirectory place.dropLast := by
  induction place using List.reverseRecOn with
  | nil => exact hdir
  | append_singleton place name _ =>
    rw [List.dropLast_concat]
    exact h.nested _ _ hdir.isSome

/-! ## Steps -/

/-- A step leads on from a directory: nowhere else, to the directory above or to a name in it. -/
theorem step_eq_ok {place q : Place} {piece : String} (h : fs.step place piece = .ok q) :
    fs.IsDirectory place ∧ (q = place ∨ q = place.dropLast ∨ q = place ++ [piece]) := by
  unfold step at h
  cases hentry : fs.entry? place with
  | none => simp [hentry] at h
  | some entry =>
    rw [hentry] at h
    cases entry with
    | file content mode => cases h
    | directory mode =>
      refine ⟨⟨mode, hentry⟩, ?_⟩
      simp only at h
      split at h
      · exact .inl (Except.ok.inj h).symm
      · split at h
        · exact .inr (.inl (Except.ok.inj h).symm)
        · split at h
          · cases h
          · exact .inr (.inr (Except.ok.inj h).symm)

/-- A place that steps lead to: a directory, or a name in one. -/
def IsReached (fs : FileSystem) (place : Place) : Prop :=
  fs.IsDirectory place ∨ ∃ above name, place = above ++ [name] ∧ fs.IsDirectory above

theorem IsTree.isReached (h : fs.IsTree) {steps : List String} {start place : Place}
    (hstart : fs.IsReached start) (hsteps : steps.foldlM fs.step start = .ok place) :
    fs.IsReached place := by
  induction steps generalizing start with
  | nil =>
    cases hsteps
    exact hstart
  | cons piece rest ih =>
    obtain ⟨q, hq, hrest⟩ := Except.bind_eq_ok hsteps
    refine ih ?_ hrest
    obtain ⟨hdir, rfl | rfl | rfl⟩ := step_eq_ok hq
    · exact .inl hdir
    · exact .inl (h.dropLast hdir)
    · exact .inr ⟨start, piece, rfl, hdir⟩

theorem IsTree.start (h : fs.IsTree) (path : Path) : fs.IsDirectory (fs.start path) := by
  unfold FileSystem.start
  split
  · exact fs.isDirectory_nil
  · exact h.current

/-- A new entry at a place that was reached and is free keeps the tree. -/
theorem IsTree.put (h : fs.IsTree) {place : Place} (hreached : fs.IsReached place)
    (hfree : fs.entry? place = none) (entry : Entry) : (fs.put place entry).IsTree := by
  have hkept {q : Place} (hq : fs.IsDirectory q) : (fs.put place entry).IsDirectory q := by
    obtain ⟨mode, hmode⟩ := hq
    refine ⟨mode, ?_⟩
    rw [entry?_put_of_ne, hmode]
    rintro rfl
    rw [hfree] at hmode
    cases hmode
  refine ⟨fun q name hsome => hkept ?_, hkept h.current⟩
  by_cases hq : q ++ [name] = place
  · -- The new entry is in the directory from which it was reached.
    obtain hdir | ⟨above, name', rfl, habove⟩ := hreached
    · rw [← hq] at hfree hdir
      exact h.nested q name hdir.isSome
    · rw [(List.append_inj' hq rfl).1]
      exact habove
  · rw [entry?_put_of_ne hq] at hsome
    exact h.nested q name hsome

/-! ## Growth -/

/-- Entries were made where nothing was, and nothing else has changed. -/
structure Grown (IsNew : Entry → Prop) (fs fs' : FileSystem) : Prop where
  current : fs'.current = fs.current
  entries : ∀ place, fs'.entry? place = fs.entry? place ∨
    fs.entry? place = none ∧ ∃ entry, fs'.entry? place = some entry ∧ IsNew entry

namespace Grown

variable {IsNew : Entry → Prop}

theorem refl (fs : FileSystem) : Grown IsNew fs fs := ⟨rfl, fun _ => .inl rfl⟩

theorem trans (h : Grown IsNew fs fs') (h' : Grown IsNew fs' fs'') : Grown IsNew fs fs'' := by
  refine ⟨h'.current.trans h.current, fun place => ?_⟩
  obtain heq' | ⟨hnone, hnew⟩ := h'.entries place
  · rw [heq']
    exact h.entries place
  · obtain heq | ⟨hfree, -⟩ := h.entries place
    · exact .inr ⟨heq.symm.trans hnone, hnew⟩
    · exact .inr ⟨hfree, hnew⟩

theorem mono {IsNew' : Entry → Prop} (h : Grown IsNew fs fs')
    (himp : ∀ entry, IsNew entry → IsNew' entry) : Grown IsNew' fs fs' := by
  refine ⟨h.current, fun place => (h.entries place).imp_right ?_⟩
  rintro ⟨hnone, entry, hentry, hnew⟩
  exact ⟨hnone, entry, hentry, himp entry hnew⟩

end Grown

/-- A new entry at a place that was reached and is free: the file system has grown. -/
theorem grown_put {IsNew : Entry → Prop} {place : Place} (hfree : fs.entry? place = none)
    {entry : Entry} (hnew : IsNew entry) : Grown IsNew fs (fs.put place entry) := by
  refine ⟨rfl, fun q => ?_⟩
  by_cases hq : q = place
  · subst hq
    have hne : q ≠ [] := by
      rintro rfl
      cases hfree
    exact .inr ⟨hfree, entry, entry?_put_self hne _, hnew⟩
  · exact .inl (entry?_put_of_ne hq _)

/-! ## Making directories -/

def IsNewDirectory (entry : Entry) : Prop := entry = .directory directoryMode

theorem makeDirectory_eq_ok (h : fs.IsTree) {path : Path}
    (hmade : fs.makeDirectory path = .ok fs') : fs'.IsTree ∧ Grown IsNewDirectory fs fs' := by
  obtain ⟨steps, -, hmade⟩ := Except.bind_eq_ok hmade
  obtain ⟨place, hplace, hmade⟩ := Except.bind_eq_ok hmade
  have hreached : fs.IsReached place := h.isReached (.inl (h.start path)) hplace
  split at hmade
  · cases hmade
  · next hfree =>
    rw [Bool.or_eq_true, not_or, Option.not_isSome_iff_eq_none] at hfree
    cases hmade
    exact ⟨h.put hreached hfree.2 _, grown_put hfree.2 rfl⟩

theorem changing_run (f : FileSystem → Except FileError FileSystem) (fs : FileSystem) :
    (changing f).run fs = match f fs with
      | .ok fs' => (.ok (), fs')
      | .error cause => (.error cause, fs) := by
  simp only [changing]
  cases h : f fs <;> simp [h] <;> rfl

theorem changing_eq_ok {f : FileSystem → Except FileError FileSystem}
    (h : (changing f).run fs = (.ok (), fs')) : f fs = .ok fs' := by
  rw [changing_run] at h
  cases hf : f fs with
  | error cause =>
    rw [hf] at h
    cases h
  | ok fs₁ =>
    rw [hf] at h
    cases h
    rfl

/-- A property of file systems, with a way in which they may change. -/
structure Frame where
  holds : FileSystem → Prop
  change : FileSystem → FileSystem → Prop
  refl : ∀ fs, change fs fs
  trans : ∀ {fs fs' fs''}, change fs fs' → change fs' fs'' → change fs fs''

namespace Frame

variable (F : Frame)

/-- What runs on the disk keeps the property and changes no more than allowed. -/
def Keeps {α : Type} (x : StateM FileSystem α) : Prop :=
  ∀ fs : FileSystem, F.holds fs → F.holds (x.run fs).2 ∧ F.change fs (x.run fs).2

variable {F}

theorem Keeps.of_same {α : Type} {x : StateM FileSystem α}
    (h : ∀ fs : FileSystem, (x.run fs).2 = fs) : F.Keeps x := by
  intro fs hfs
  rw [h fs]
  exact ⟨hfs, F.refl fs⟩

theorem Keeps.bind {α β : Type} {x : StateM FileSystem α} {f : α → StateM FileSystem β}
    (hx : F.Keeps x) (hf : ∀ a, F.Keeps (f a)) : F.Keeps (x >>= f) := by
  intro fs hfs
  obtain ⟨hfs₁, hchange₁⟩ := hx fs hfs
  obtain ⟨hfs₂, hchange₂⟩ := hf (x.run fs).1 (x.run fs).2 hfs₁
  exact ⟨hfs₂, F.trans hchange₁ hchange₂⟩

/-- An attempt that fails changes nothing. -/
theorem Keeps.changing {f : FileSystem → Except FileError FileSystem}
    (h : ∀ fs fs', F.holds fs → f fs = .ok fs' → F.holds fs' ∧ F.change fs fs') :
    F.Keeps (changing f) := by
  intro fs hfs
  rw [changing_run]
  cases hf : f fs with
  | ok fs' => exact h fs fs' hfs hf
  | error cause => exact ⟨hfs, F.refl fs⟩

theorem Keeps.unlessThere (path : Path) (attempt : Except FileError Unit) :
    F.Keeps (disk.unlessThere path attempt) := by
  cases attempt with
  | ok _ => exact .of_same fun _ => rfl
  | error cause =>
    refine .bind (.of_same fun _ => rfl) fun there => ?_
    split <;> exact .of_same fun _ => rfl

theorem Keeps.makeDirectoriesUp (h : ∀ path, F.Keeps (disk.makeDirectory path)) (parents : Nat)
    (path : Path) : F.Keeps (disk.makeDirectoriesUp parents path) := by
  induction parents generalizing path with
  | zero => exact .bind (h path) (.unlessThere path)
  | succ parents ih =>
    refine .bind (h path) fun attempt => ?_
    split
    · split
      · exact .of_same fun _ => rfl
      · refine .bind (ih _) fun made => ?_
        cases made with
        | error cause => exact .of_same fun _ => rfl
        | ok _ => exact .bind (h path) (.unlessThere path)
    · exact .unlessThere path _

/-- Whatever one new directory keeps is kept when its parents are made too. -/
theorem Keeps.makeDirectories (h : ∀ path, F.Keeps (disk.makeDirectory path)) (path : Path) :
    F.Keeps (disk.makeDirectories path) := by
  unfold Disk.makeDirectories
  split
  · exact .of_same fun _ => rfl
  · exact .makeDirectoriesUp h _ path

end Frame

/-- A tree that grows by directories. -/
def makingDirectories : Frame where
  holds := IsTree
  change := Grown IsNewDirectory
  refl := .refl
  trans := .trans

/-- What runs on the disk makes directories at most. -/
abbrev MakesDirectories {α : Type} (x : StateM FileSystem α) : Prop := makingDirectories.Keeps x

theorem makesDirectories_makeDirectories (path : Path) :
    MakesDirectories (disk.makeDirectories path) :=
  .makeDirectories (fun _ => .changing fun _ _ htree hmade => makeDirectory_eq_ok htree hmade) path

/-! ## Following straight paths -/

/-- Where a piece that leads to no name leads from a directory. -/
def back (place : Place) (piece : String) : Place :=
  if piece == ".." then place.dropLast else place

theorem step_back {place : Place} (hdir : fs.IsDirectory place) {piece : String}
    (hback : Path.IsBack piece) : fs.step place piece = .ok (back place piece) := by
  obtain ⟨mode, hmode⟩ := hdir
  obtain rfl | rfl | rfl := hback <;> simp [step, hmode, back]

theorem IsTree.isDirectory_back (h : fs.IsTree) {place : Place} (hdir : fs.IsDirectory place)
    (piece : String) : fs.IsDirectory (back place piece) := by
  unfold back
  split
  · exact h.dropLast hdir
  · exact hdir

/-- Going back ends at a directory. -/
theorem IsTree.isDirectory_backs (h : fs.IsTree) {place : Place} (hdir : fs.IsDirectory place)
    (pieces : List String) : fs.IsDirectory (pieces.foldl back place) := by
  induction pieces generalizing place with
  | nil => exact hdir
  | cons piece rest ih => exact ih (h.isDirectory_back hdir piece)

/-- In a tree nothing is in the way of going back. -/
theorem IsTree.foldlM_backs (h : fs.IsTree) {place : Place} (hdir : fs.IsDirectory place)
    {pieces : List String} (hbacks : ∀ piece ∈ pieces, Path.IsBack piece) :
    pieces.foldlM fs.step place = .ok (pieces.foldl back place) := by
  induction pieces generalizing place with
  | nil => rfl
  | cons piece rest ih =>
    rw [List.foldlM_cons, step_back hdir (hbacks piece List.mem_cons_self), Except.ok_bind,
      ih (h.isDirectory_back hdir piece) fun q hq => hbacks q (List.mem_cons_of_mem _ hq),
      List.foldl_cons]

/-- A step to a name, from a directory and if the name is not too long. -/
theorem step_name {place q : Place} {name : String} (hname : Path.IsName name) :
    fs.step place name = .ok q ↔
      fs.IsDirectory place ∧ name.utf8ByteSize ≤ maxName ∧ q = place ++ [name] := by
  have hhere : (name == "" || name == ".") = false := by simp [hname.ne_empty, hname.ne_dot]
  have hup : (name == "..") = false := by simpa using hname.ne_dots
  unfold step
  cases hentry : fs.entry? place with
  | none => simp [IsDirectory, hentry]
  | some entry =>
    cases entry with
    | file content mode => simp [IsDirectory, hentry]
    | directory mode =>
      have hdir : fs.IsDirectory place := ⟨mode, hentry⟩
      simp only [hhere, hup, Bool.false_eq_true, if_false, hdir, true_and]
      split
      · next hlong => simp [Nat.not_le.2 hlong]
      · next hlong => simp [Nat.not_lt.1 hlong, eq_comm]

/-- The way to an entry is the same in a tree and in any other file system in which it leads
there. -/
theorem IsTree.foldlM_names (h : fs.IsTree) {names : List String}
    (hnames : ∀ name ∈ names, Path.IsName name) {start place : Place}
    (hplace : names.foldlM fs'.step start = .ok place) (hsome : (fs.entry? place).isSome) :
    names.foldlM fs.step start = .ok place ∧ place = start ++ names := by
  induction names generalizing start with
  | nil =>
    cases hplace
    exact ⟨rfl, (List.append_nil _).symm⟩
  | cons name rest ih =>
    have hname := hnames name List.mem_cons_self
    obtain ⟨q, hq, hrest⟩ := Except.bind_eq_ok hplace
    obtain ⟨-, hlong, rfl⟩ := (step_name hname).1 hq
    obtain ⟨hfollow, heq⟩ := ih (fun n hn => hnames n (List.mem_cons_of_mem _ hn)) hrest
    rw [List.append_assoc, List.singleton_append] at heq
    have hdir : fs.IsDirectory start := by
      rw [heq] at hsome
      exact h.above (List.cons_ne_nil _ _) hsome
    refine ⟨?_, heq⟩
    rw [List.foldlM_cons, (step_name hname).2 ⟨hdir, hlong, rfl⟩]
    exact hfollow

theorem pieces_eq_ok {path : Path} {steps : List String} (h : pieces path = .ok steps) :
    Text.split '/' path.text = steps := by
  unfold pieces at h
  split at h
  · cases h
  · split at h
    · cases h
    · split at h
      · cases h
      · exact Except.ok.inj h

/-- What a straight path leads to later was found before if it was there. -/
theorem IsTree.find_of_grown (h : fs.IsTree) (h' : fs'.IsTree) (hcurrent : fs'.current = fs.current)
    {path : Path} (hstraight : path.IsStraight) {place : Place}
    (hplace : fs'.follow path = .ok place) {entry : Entry} (hentry : fs.entry? place = some entry) :
    fs.find path = .ok (place, entry) := by
  obtain ⟨steps, hsteps, hplace⟩ := Except.bind_eq_ok hplace
  obtain ⟨backs, names, heq, hbacks, hnames⟩ := hstraight
  rw [pieces_eq_ok hsteps] at heq
  have hstart : fs'.start path = fs.start path := by
    rw [FileSystem.start, FileSystem.start, hcurrent]
  -- Both go back to the same directory, and from there the names lead down the same way.
  have hfollow : steps.foldlM fs.step (fs.start path) = .ok place := by
    rw [heq, List.foldlM_append, hstart,
      h'.foldlM_backs (hstart ▸ h'.start path) hbacks, Except.ok_bind] at hplace
    rw [heq, List.foldlM_append, h.foldlM_backs (h.start path) hbacks, Except.ok_bind]
    exact (h.foldlM_names hnames hplace (by rw [hentry]; rfl)).1
  have hfound : fs.follow path = .ok place := by
    rw [follow, hsteps]
    exact hfollow
  rw [find, hfound, Except.ok_bind, hentry]
  rfl

end FileSystem

end StaticSite
