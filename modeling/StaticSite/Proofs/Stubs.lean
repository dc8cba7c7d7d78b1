/-
  Stubs on a file system.

  A stub is made only for a path that leads nowhere.  If the path is written without
  detours, its place is free even after the directories above it have been made, so in a
  tree no stub takes the place of anything (`create_grown`), and making stubs makes the
  tree grow by directories and empty files (`createMissing_grown`), whether all of them
  come to be or not.  If one of them cannot be made, those before it stay
  (`createMissing_error`).
-/

import StaticSite.Build.Stub
import StaticSite.Proofs.Growth

namespace StaticSite

namespace FileSystem

variable {fs fs' : FileSystem}

/-! ## Writing -/

theorem put_put (fs : FileSystem) (place : Place) (entry entry' : Entry) :
    (fs.put place entry).put place entry' = fs.put place entry' := by
  simp [put, List.filter_filter]

theorem withoutSlashes_of_endsInDirectory {pieces : List String}
    (h : endsInDirectory pieces = false) : withoutSlashes pieces = pieces := by
  induction pieces using List.reverseRecOn with
  | nil => rfl
  | append_singleton before last _ =>
    have hlast : (last == "") = false := by
      simp only [endsInDirectory, List.getLast?_concat, Bool.or_eq_false_iff] at h
      exact h.1.1
    rw [withoutSlashes, List.reverse_append, List.reverse_singleton, List.singleton_append,
      List.dropWhile_cons_of_neg (by rw [hlast]; exact Bool.false_ne_true), List.reverse_cons,
      List.reverse_reverse]

/-- A file that is opened is where its path leads; it is emptied, or made if nothing is there. -/
theorem openNew_eq_ok {path : Path} {mode : Nat} {place : Place}
    (h : fs.openNew path mode = .ok (place, fs')) :
    fs.follow path = .ok place ∧ place ≠ [] ∧ ∃ kept, fs' = fs.put place (.file [] kept) ∧
      (fs.entry? place = none ∧ kept = mode ∨
        ∃ content, fs.entry? place = some (.file content kept)) := by
  obtain ⟨steps, hsteps, h⟩ := Except.bind_eq_ok h
  obtain ⟨place', hplace, h⟩ := Except.bind_eq_ok h
  have hend : endsInDirectory steps = false := by
    by_contra htrue
    rw [Bool.not_eq_false] at htrue
    rw [htrue] at h
    cases h
  rw [withoutSlashes_of_endsInDirectory hend] at hplace
  rw [hend] at h
  have hfollow : fs.follow path = .ok place' := by
    rw [follow, hsteps]
    exact hplace
  have hroot : place' ≠ [] := by
    rintro rfl
    cases h
  cases hentry : fs.entry? place' with
  | none =>
    simp only [hentry] at h
    cases h
    exact ⟨hfollow, hroot, mode, rfl, .inl ⟨hentry, rfl⟩⟩
  | some entry =>
    cases entry with
    | directory _ =>
      simp only [hentry] at h
      cases h
    | file content kept =>
      simp only [hentry] at h
      cases h
      exact ⟨hfollow, hroot, kept, rfl, .inr ⟨content, hentry⟩⟩

/-- A file that is written holds the text; its mode stays. -/
theorem writeBytes_eq_ok {path : Path} {content : List UInt8}
    (h : fs.writeBytes path content = .ok fs') :
    ∃ place mode, fs.follow path = .ok place ∧ place ≠ [] ∧
      fs' = fs.put place (.file content mode) ∧
      (fs.entry? place = none ∧ mode = fileMode ∨
        ∃ old, fs.entry? place = some (.file old mode)) := by
  obtain ⟨⟨place, opened⟩, hopen, h⟩ := Except.bind_eq_ok h
  obtain ⟨hfollow, hroot, kept, rfl, hbefore⟩ := openNew_eq_ok hopen
  refine ⟨place, kept, hfollow, hroot, ?_, hbefore⟩
  simp only [entry?_put_self hroot, Option.map_some, Option.getD_some, put_put] at h
  exact (Except.ok.inj h).symm

/-- What is at a place that a tree was followed to was reached by steps. -/
theorem IsTree.isReached_follow (h : fs.IsTree) {path : Path} {place : Place}
    (hplace : fs.follow path = .ok place) : fs.IsReached place := by
  obtain ⟨steps, -, hplace⟩ := Except.bind_eq_ok hplace
  exact h.isReached (.inl (h.start path)) hplace

/-! ## Stubs -/

/-- An entry that comes with a stub: a directory above it, or the empty file. -/
def IsStub (entry : Entry) : Prop := entry = .directory directoryMode ∨ entry = .file [] fileMode

/-- An empty file that is written where no file is. -/
theorem writeBytes_grown (h : fs.IsTree) {path : Path} (hwrite : fs.writeBytes path [] = .ok fs')
    (hfree : ∀ place content mode, fs.follow path = .ok place →
      fs.entry? place ≠ some (.file content mode)) : fs'.IsTree ∧ Grown IsStub fs fs' := by
  obtain ⟨place, mode, hfollow, -, rfl, ⟨hnone, rfl⟩ | ⟨old, hentry⟩⟩ := writeBytes_eq_ok hwrite
  · exact ⟨h.put (h.isReached_follow hfollow) hnone _, grown_put hnone (.inr rfl)⟩
  · exact absurd hentry (hfree _ _ _ hfollow)

theorem run_bind {α β : Type} (x : StateM FileSystem α) (f : α → StateM FileSystem β)
    (fs : FileSystem) : (x >>= f).run fs = (f (x.run fs).1).run (x.run fs).2 := rfl

theorem write_empty_run (path : Path) (fs : FileSystem) :
    (disk.write path "").run fs = match fs.writeBytes path [] with
      | .ok fs' => (.ok (), fs')
      | .error cause => (.error cause, fs) := by
  have hrun : (disk.write path "").run fs = _ := changing_run _ _
  have hempty : Text.encode "" = [] := by decide +kernel
  cases hwrite : fs.writeBytes path [] <;> simp only [hrun, hempty, hwrite]

/-- After only directories were made, no file is where a straight path leads that led nowhere. -/
theorem IsTree.no_file_of_grown (h : fs.IsTree) (h' : fs'.IsTree)
    (hgrown : Grown IsNewDirectory fs fs') {path : Path} (hstraight : path.IsStraight)
    (hmissing : (fs.find path).isOk = false) (place : Place) (content : List UInt8) (mode : Nat)
    (hplace : fs'.follow path = .ok place) : fs'.entry? place ≠ some (.file content mode) := by
  intro hentry
  obtain heq | ⟨-, entry, hnew, hdir⟩ := hgrown.entries place
  · rw [heq] at hentry
    rw [h.find_of_grown h' hgrown.current hstraight hplace hentry] at hmissing
    cases hmissing
  · rw [hdir, hentry] at hnew
    cases hnew

/-- The stub is written once its directories are there. -/
theorem write_after_grown (h : fs.IsTree) {path : Path} (hstraight : path.IsStraight)
    (hmissing : (fs.find path).isOk = false) {x : StateM FileSystem (Except FileError Unit)}
    (hx : MakesDirectories x) :
    let written := (x >>= fun made => match made with
      | .error cause => return .error cause
      | .ok () => disk.write path "").run fs
    written.2.IsTree ∧ Grown IsStub fs written.2 := by
  obtain ⟨htree₁, hgrown₁⟩ := hx fs h
  have hstub₁ : Grown IsStub fs (x.run fs).2 := hgrown₁.mono fun _ => .inl
  -- Only directories were made so far, so a file on the way would have been found before.
  have hfree := h.no_file_of_grown htree₁ hgrown₁ hstraight hmissing
  rw [run_bind]
  cases (x.run fs).1 with
  | error cause => exact ⟨htree₁, hstub₁⟩
  | ok _ =>
    simp only [write_empty_run]
    cases hwrite : (x.run fs).2.writeBytes path [] with
    | error cause => exact ⟨htree₁, hstub₁⟩
    | ok fs' =>
      obtain ⟨htree₂, hgrown₂⟩ := writeBytes_grown htree₁ hwrite hfree
      exact ⟨htree₂, hstub₁.trans hgrown₂⟩

/-- Making one stub, for a path without detours that leads nowhere. -/
theorem create_grown (h : fs.IsTree) {path : Path} (hstraight : path.IsStraight)
    (hmissing : (fs.find path).isOk = false) :
    ((Stub.create disk path).run fs).2.IsTree ∧
      Grown IsStub fs ((Stub.create disk path).run fs).2 := by
  unfold Stub.create
  split
  · exact write_after_grown h hstraight hmissing (makesDirectories_makeDirectories _)
  · exact write_after_grown h hstraight hmissing (.of_same fun _ => rfl)

theorem has_run (fs : FileSystem) (path : Path) :
    (disk.has path).run fs = ((fs.find path).isOk, fs) := by
  simp only [Disk.has, disk, asking]
  cases h : fs.find path <;> simp [h] <;> rfl

/-- One file of a list of stubs: it is passed over if it is there, and made otherwise. -/
theorem createMissing_cons_run (path : Path) (rest : List Path) (fs : FileSystem) :
    (Stub.createMissing disk (path :: rest)).run fs
      = if (fs.find path).isOk then (Stub.createMissing disk rest).run fs
        else match (Stub.create disk path).run fs with
          | (.error cause, fs₁) => (.error cause, fs₁)
          | (.ok (), fs₁) =>
            let made := (Stub.createMissing disk rest).run fs₁
            (made.1.map (path :: ·), made.2) := by
  have hhas : (disk.has path).run fs = _ := has_run fs path
  rw [Stub.createMissing, run_bind, hhas]
  cases (fs.find path).isOk with
  | true => rfl
  | false =>
    simp only [Bool.false_eq_true, if_false, run_bind]
    obtain ⟨attempt, fs₁⟩ := (Stub.create disk path).run fs
    cases attempt <;> rfl

/-- Making stubs for paths without detours makes a tree grow by directories and empty files. -/
theorem createMissing_grown (h : fs.IsTree) {paths : List Path}
    (hstraight : ∀ path ∈ paths, path.IsStraight) :
    ((Stub.createMissing disk paths).run fs).2.IsTree ∧
      Grown IsStub fs ((Stub.createMissing disk paths).run fs).2 := by
  induction paths generalizing fs with
  | nil => exact ⟨h, .refl fs⟩
  | cons path rest ih =>
    have hrest : ∀ q ∈ rest, q.IsStraight := fun q hq => hstraight q (List.mem_cons_of_mem _ hq)
    rw [createMissing_cons_run]
    split
    · exact ih h hrest
    · next hmissing =>
      obtain ⟨htree₁, hgrown₁⟩ :=
        create_grown h (hstraight path List.mem_cons_self) (Bool.not_eq_true _ ▸ hmissing)
      split
      · next hrun =>
        rw [hrun] at htree₁ hgrown₁
        exact ⟨htree₁, hgrown₁⟩
      · next hrun =>
        rw [hrun] at htree₁ hgrown₁
        obtain ⟨htree₂, hgrown₂⟩ := ih htree₁ hrest
        exact ⟨htree₂, hgrown₁.trans hgrown₂⟩

/-- Stubs were made for the first of some paths, and the next one could not be made. -/
def Interrupted (fs : FileSystem) (paths : List Path) (cause : FileError) (fs' : FileSystem) :
    Prop :=
  ∃ done path rest stubs fs₁, paths = done ++ path :: rest ∧
    (Stub.createMissing disk done).run fs = (.ok stubs, fs₁) ∧ (fs₁.find path).isOk = false ∧
    (Stub.create disk path).run fs₁ = (.error cause, fs')

theorem createMissing_error {paths : List Path} {cause : FileError}
    (h : (Stub.createMissing disk paths).run fs = (.error cause, fs')) :
    Interrupted fs paths cause fs' := by
  induction paths generalizing fs with
  | nil => cases h
  | cons path rest ih =>
    rw [createMissing_cons_run] at h
    split at h
    · next hfound =>
      obtain ⟨done, failed, rest, stubs, fs₁, rfl, hdone, hmissing, hfailed⟩ := ih h
      refine ⟨path :: done, failed, rest, stubs, fs₁, rfl, ?_, hmissing, hfailed⟩
      rw [createMissing_cons_run, if_pos hfound, hdone]
    · next hmissing =>
      rcases hcreate : (Stub.create disk path).run fs with ⟨attempt, fs₁⟩
      rw [hcreate] at h
      cases attempt with
      | error cause' =>
        cases h
        exact ⟨[], path, rest, [], fs, rfl, rfl, Bool.not_eq_true _ ▸ hmissing, hcreate⟩
      | ok _ =>
        rcases hmade : (Stub.createMissing disk rest).run fs₁ with ⟨made, fs₂⟩
        simp only [hmade] at h
        cases made with
        | ok stubs => cases h
        | error cause' =>
          cases h
          obtain ⟨done, failed, rest, stubs, fs₃, rfl, hdone, hfree, hfailed⟩ := ih hmade
          refine ⟨path :: done, failed, rest, path :: stubs, fs₃, rfl, ?_, hfree, hfailed⟩
          rw [createMissing_cons_run, if_neg hmissing, hcreate]
          simp only [hdone]
          rfl

end FileSystem

end StaticSite
