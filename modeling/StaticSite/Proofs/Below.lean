/-
  Names below a directory.

  A walk and a build join names to a path, one after the other (`Path.below`).  Such a path
  leads from the foot of the path, the directory from which joined names start, down by the
  names (`foot_below`); an empty path has its foot in the current directory.  After the
  directories of a path were made, its foot is a directory (`foot_of_makeDirectories`).
-/

import StaticSite.Proofs.Changes

open StaticSite.Path (IsName)

namespace StaticSite

namespace Path

/-- The path of names below a directory. -/
def below (directory : Path) (names : List String) : Path :=
  names.foldl (fun p name => p.join ⟨name⟩) directory

theorem below_concat (directory : Path) (names : List String) (name : String) :
    directory.below (names ++ [name]) = (directory.below names).join ⟨name⟩ := by
  simp [below]

theorem IsName.components {name : String} (h : IsName name) :
    (⟨name⟩ : Path).components = [.normal name] := by
  have hstep : (Component.normal name).IsStep := h
  exact (components_text_of_isStep hstep).2.2

theorem IsName.hasNames {name : String} (h : IsName name) : (⟨name⟩ : Path).HasNames := by
  intro c hc
  rw [h.components, List.mem_singleton] at hc
  rw [hc]
  rfl

theorem components_join_name (base : Path) {name : String} (h : IsName name) :
    (base.join ⟨name⟩).components = base.components ++ [.normal name] := by
  rw [h.hasNames.components_join, h.components]

theorem components_below (directory : Path) {names : List String}
    (h : ∀ name ∈ names, IsName name) :
    (directory.below names).components = directory.components ++ names.map .normal := by
  induction names using List.reverseRecOn with
  | nil => exact (List.append_nil _).symm
  | append_singleton names name ih =>
    obtain ⟨hnames, hname⟩ := List.forall_mem_append.1 h
    rw [below_concat, components_join_name _ (hname name (List.mem_singleton_self _)), ih hnames,
      List.map_append, List.append_assoc]
    rfl

theorem size_le_join (base : Path) {rest : Path} (hrest : rest.isAbsolute = false) :
    base.text.utf8ByteSize ≤ (base.join rest).text.utf8ByteSize := by
  unfold join
  rw [hrest, if_neg Bool.false_ne_true]
  split <;> simp only [String.utf8ByteSize_append] <;> omega

/-- A name is added to the text, behind a slash unless one is there. -/
theorem size_join (base : Path) {name : String} (h : IsName name) :
    base.text.utf8ByteSize < (base.join ⟨name⟩).text.utf8ByteSize := by
  have hsize : name.utf8ByteSize ≠ 0 := fun hzero =>
    h.ne_empty (String.utf8ByteSize_eq_zero_iff.1 hzero)
  unfold join
  rw [h.hasNames.relative, if_neg Bool.false_ne_true]
  split <;> simp only [String.utf8ByteSize_append] <;> omega

theorem text_join_ne_empty (base : Path) {name : String} (h : IsName name) :
    (base.join ⟨name⟩).text ≠ "" := by
  refine text_ne_empty fun hnil => ?_
  rw [components_join_name base h] at hnil
  simp at hnil

/-- The pieces of a path to which a relative one was joined. -/
theorem split_join_of_relative {base rest : Path} (hne : base.text ≠ "")
    (hrest : rest.isAbsolute = false) :
    ∃ front, Text.split '/' (base.join rest).text = front ++ Text.split '/' rest.text ∧
      (Text.split '/' base.text = front ∨ Text.split '/' base.text = front ++ [""]) := by
  obtain ⟨before, htext, hbase⟩ := toList_join hne hrest
  refine ⟨(Text.splitAt '/' before).map String.ofList, ?_, ?_⟩
  · rw [Text.split, htext, Text.splitAt_append, List.map_append]
    rfl
  · obtain hbase | hbase := hbase
    · exact .inl (by rw [Text.split, hbase])
    · refine .inr ?_
      rw [Text.split, hbase, Text.splitAt_append, List.map_append]
      rfl

theorem isAbsolute_join_of_relative {base rest : Path} (hne : base.text ≠ "")
    (hrest : rest.isAbsolute = false) : (base.join rest).isAbsolute = base.isAbsolute := by
  obtain ⟨before, htext, hbase⟩ := toList_join hne hrest
  have hchars : base.text.toList ≠ [] := fun hnil => hne (String.toList_eq_nil_iff.1 hnil)
  rw [isAbsolute, isAbsolute, htext]
  obtain hbase | hbase := hbase <;> cases before <;> simp_all

/-- The pieces of a path to which a name was joined. -/
theorem split_join {base : Path} (hne : base.text ≠ "") {name : String} (h : IsName name) :
    ∃ front, Text.split '/' (base.join ⟨name⟩).text = front ++ [name] ∧
      (Text.split '/' base.text = front ∨ Text.split '/' base.text = front ++ [""]) := by
  have hjoin := split_join_of_relative hne h.hasNames.relative
  rwa [h.split] at hjoin

theorem isAbsolute_join_name {base : Path} (hne : base.text ≠ "") {name : String}
    (h : IsName name) : (base.join ⟨name⟩).isAbsolute = base.isAbsolute :=
  isAbsolute_join_of_relative hne h.hasNames.relative

theorem components_ne_nil {p : Path} (h : p.text ≠ "") : p.components ≠ [] := by
  obtain ⟨c, cs, hcs⟩ := List.exists_cons_of_ne_nil
    fun hnil => h (String.toList_eq_nil_iff.1 hnil)
  intro hnil
  obtain ⟨horigin, hsteps⟩ := List.append_eq_nil_iff.1 ((components_eq p).symm.trans hnil)
  unfold origin at horigin
  split at horigin
  · cases horigin
  · next habs =>
    -- The first piece is not empty, so it is a component or a dot.
    have hslash : (c == '/') = false := by simpa [isAbsolute, hcs] using habs
    obtain ⟨piece, pieces, hpieces⟩ := List.exists_cons_of_ne_nil (Text.splitAt_ne_nil '/' cs)
    have hsplit : Text.split '/' p.text
        = String.ofList (c :: piece) :: pieces.map String.ofList := by
      rw [Text.split, hcs, Text.splitAt, hslash, hpieces]
      rfl
    have hempty : (String.ofList (c :: piece) == "") = false := by
      rw [beq_eq_false_iff_ne]
      intro heq
      simpa using congrArg String.toList heq
    rw [hsplit] at horigin
    rw [steps, hsplit, List.filterMap_eq_nil_iff] at hsteps
    have hfirst := hsteps _ List.mem_cons_self
    unfold pieceComponent? at hfirst
    split at hfirst
    · next hdot =>
      rw [hempty, Bool.false_or, beq_iff_eq] at hdot
      simp [hdot] at horigin
    · split at hfirst <;> cases hfirst

theorem text_of_length {p : Path} (h : p.components.length = 0) : p.text = "" := by
  by_contra hne
  exact components_ne_nil hne (List.length_eq_zero_iff.1 h)

end Path

namespace FileSystem

variable {fs fs' : FileSystem}

/-! ## The foot of a path -/

/-- The place from which names that are joined to a path start. -/
def foot (fs : FileSystem) (path : Path) : Except FileError Place :=
  if path.text = "" then .ok fs.current else fs.follow path

theorem text_of_pieces {path : Path} {steps : List String} (h : pieces path = .ok steps) :
    path.text ≠ "" ∧ path.text.utf8ByteSize ≤ maxPath ∧ '\x00' ∉ path.text.toList := by
  unfold pieces at h
  split at h
  · cases h
  · next hnul =>
    split at h
    · cases h
    · next hempty =>
      split at h
      · cases h
      · next hlong => exact ⟨by simpa using hempty, Nat.le_of_not_lt hlong, by simpa using hnul⟩

theorem pieces_of_text {path : Path} (hne : path.text ≠ "")
    (hlong : path.text.utf8ByteSize ≤ maxPath) (hnul : '\x00' ∉ path.text.toList) :
    pieces path = .ok (Text.split '/' path.text) := by
  have hlong' : ¬ path.text.utf8ByteSize > maxPath := Nat.not_lt.2 hlong
  simp [pieces, hne, hlong', hnul]

theorem text_of_follow {path : Path} {place : Place} (h : fs.follow path = .ok place) :
    path.text ≠ "" := by
  obtain ⟨steps, hsteps, -⟩ := Except.bind_eq_ok h
  exact (text_of_pieces hsteps).1

theorem foot_of_ne {path : Path} (h : path.text ≠ "") : fs.foot path = fs.follow path := if_neg h

theorem foot_of_follow {path : Path} {place : Place} (h : fs.follow path = .ok place) :
    fs.foot path = .ok place := by rw [foot_of_ne (text_of_follow h), h]

theorem Evolved.foot (h : Evolved fs fs') {path : Path} {place : Place}
    (hfoot : fs.foot path = .ok place) : fs'.foot path = .ok place := by
  unfold FileSystem.foot at hfoot ⊢
  split
  · next hempty =>
    rw [if_pos hempty] at hfoot
    rwa [h.current]
  · next hempty =>
    rw [if_neg hempty] at hfoot
    exact h.follow hfoot

/-- A path can be used if it can be used with something joined to it. -/
theorem pieces_of_join {path rest : Path} (hne : path.text ≠ "") (hrest : rest.isAbsolute = false)
    {steps : List String} (h : pieces (path.join rest) = .ok steps) :
    pieces path = .ok (Text.split '/' path.text) := by
  obtain ⟨-, hlong, hnul⟩ := text_of_pieces h
  refine pieces_of_text hne ((Path.size_le_join path hrest).trans hlong) fun hmem => hnul ?_
  obtain ⟨before, hjoined, hbase⟩ := Path.toList_join hne hrest
  rw [hjoined]
  obtain hbase | hbase := hbase <;> rw [hbase] at hmem <;> simp at hmem ⊢ <;> exact .inl hmem

/-- A name that is joined leads from the foot of the path into that directory. -/
theorem follow_join {path : Path} {name : String} (hname : IsName name) {place : Place}
    (h : fs.follow (path.join ⟨name⟩) = .ok place) :
    ∃ above, fs.foot path = .ok above ∧ fs.IsDirectory above ∧ place = above ++ [name] := by
  obtain ⟨steps, hpieces, h⟩ := Except.bind_eq_ok h
  obtain rfl := pieces_eq_ok hpieces
  by_cases hne : path.text = ""
  · obtain ⟨text⟩ := path
    cases hne
    have hstart : fs.start ⟨name⟩ = fs.current := by
      rw [start, hname.hasNames.relative]
      rfl
    rw [Path.join_empty, hname.split, List.foldlM_cons, hstart] at h
    obtain ⟨q, hq, hrest⟩ := Except.bind_eq_ok h
    cases hrest
    obtain ⟨hdir, -, rfl⟩ := (step_name hname).1 hq
    exact ⟨fs.current, rfl, hdir, rfl⟩
  · obtain ⟨front, hfront, hpath⟩ := Path.split_join hne hname
    have hstart : fs.start (path.join ⟨name⟩) = fs.start path := by
      rw [start, start, Path.isAbsolute_join_name hne hname]
    rw [hfront, List.foldlM_append, hstart] at h
    obtain ⟨above, habove, h⟩ := Except.bind_eq_ok h
    obtain ⟨q, hq, hrest⟩ := Except.bind_eq_ok h
    cases hrest
    obtain ⟨hdir, -, rfl⟩ := (step_name hname).1 hq
    refine ⟨above, ?_, hdir, rfl⟩
    rw [foot_of_ne hne, follow, pieces_of_join hne hname.hasNames.relative hpieces, Except.ok_bind]
    obtain hpath | hpath := hpath
    · rw [hpath]
      exact habove
    · rw [hpath, List.foldlM_append, habove]
      exact foldlM_slashes hdir fun piece hpiece => List.mem_singleton.1 hpiece

/-- A path with a slash at its end leads where the path leads. -/
theorem follow_of_join_empty {path : Path} {place : Place}
    (h : fs.follow (path.join ⟨""⟩) = .ok place) : fs.follow path = .ok place := by
  have hne : path.text ≠ "" := by
    intro hempty
    obtain ⟨text⟩ := path
    cases hempty
    exact text_of_follow h rfl
  have hrelative : (⟨""⟩ : Path).isAbsolute = false := by decide
  obtain ⟨steps, hpieces, h⟩ := Except.bind_eq_ok h
  obtain ⟨front, hfront, hpath⟩ := Path.split_join_of_relative hne hrelative
  have hstart : fs.start (path.join ⟨""⟩) = fs.start path := by
    rw [start, start, Path.isAbsolute_join_of_relative hne hrelative]
  rw [follow, pieces_of_join hne hrelative hpieces, Except.ok_bind]
  rw [← pieces_eq_ok hpieces, hfront, hstart] at h
  rcases hpath with hpath | hpath
  · -- The piece behind the slash leads on from a directory, to that directory.
    rw [List.foldlM_append] at h
    obtain ⟨q, hq, hrest⟩ := Except.bind_eq_ok h
    obtain ⟨_, hstep, -⟩ := Except.bind_eq_ok hrest
    rw [hpath, hq, ← hrest]
    exact (foldlM_slashes (step_eq_ok hstep).1 (by simp [Text.split, Text.splitAt])).symm
  · rw [hpath]
    exact h

/-- Names below a path lead from its foot down by the names. -/
theorem foot_below {path : Path} {names : List String} (hnames : ∀ name ∈ names, IsName name)
    {place : Place} (h : fs.foot (path.below names) = .ok place) :
    ∃ above, fs.foot path = .ok above ∧ place = above ++ names := by
  induction names using List.reverseRecOn generalizing place with
  | nil => exact ⟨place, h, (List.append_nil _).symm⟩
  | append_singleton names name ih =>
    obtain ⟨hnames, hname⟩ := List.forall_mem_append.1 hnames
    have hname := hname name (List.mem_singleton_self _)
    rw [Path.below_concat, foot_of_ne (Path.text_join_ne_empty _ hname)] at h
    obtain ⟨above, habove, -, rfl⟩ := follow_join hname h
    obtain ⟨start, hstart, rfl⟩ := ih hnames habove
    exact ⟨start, hstart, List.append_assoc _ _ _⟩

/-- A path below a known foot can lead to one place only. -/
theorem follow_below {path : Path} {start : Place} (hstart : fs.foot path = .ok start)
    {names : List String} (hnames : ∀ name ∈ names, IsName name) {place : Place}
    (h : fs.follow (path.below names) = .ok place) : place = start ++ names := by
  obtain ⟨above, habove, rfl⟩ := foot_below hnames (foot_of_follow h)
  rw [hstart] at habove
  cases habove
  rfl

/-! ## Directories that were made -/

theorem isDirectory_run (fs : FileSystem) (path : Path) :
    (disk.isDirectory path).run fs = (match fs.find path with
      | .ok (_, entry) => entry.kind == .directory
      | .error _ => false, fs) := by
  simp only [Disk.isDirectory, Disk.isKind, disk, asking]
  cases h : fs.find path <;> simp [h] <;> rfl

/-- An attempt counts if it came to an end or the directory was there. -/
theorem unlessThere_ok {path : Path} {attempt : Except FileError Unit}
    (h : (disk.unlessThere path attempt).run fs = (.ok (), fs')) :
    fs' = fs ∧ (attempt = .ok () ∨
      ∃ place, fs.follow path = .ok place ∧ fs.IsDirectory place) := by
  cases attempt with
  | ok _ =>
    cases h
    exact ⟨rfl, .inl rfl⟩
  | error cause =>
    have hthere : (disk.isDirectory path).run fs = _ := isDirectory_run fs path
    rw [Disk.unlessThere, run_bind, hthere] at h
    cases hfind : fs.find path with
    | error cause' =>
      rw [hfind] at h
      cases h
    | ok found =>
      obtain ⟨place, entry⟩ := found
      obtain ⟨hfollow, hentry⟩ := find_eq_ok.1 hfind
      rw [hfind] at h
      cases entry with
      | file content mode => cases h
      | directory mode =>
        cases h
        exact ⟨rfl, .inr ⟨place, hfollow, mode, hentry⟩⟩

/-- A directory that was made or was there; nothing else is new. -/
theorem makeDirectory_there {path : Path}
    (hmade : (disk.makeDirectory path >>= disk.unlessThere path).run fs = (.ok (), fs')) :
    ∃ place, fs'.follow path = .ok place ∧ fs'.IsDirectory place ∧
      ∀ q, fs.entry? q = none → (fs'.entry? q).isSome → q = place := by
  have hrun : (disk.makeDirectory path).run fs = _ := changing_run _ fs
  rw [run_bind, hrun] at hmade
  cases hattempt : fs.makeDirectory path with
  | error cause =>
    rw [hattempt] at hmade
    obtain ⟨rfl, hnone | ⟨place, hfollow, hdir⟩⟩ := unlessThere_ok hmade
    · cases hnone
    · refine ⟨place, hfollow, hdir, fun q hfree hsome => ?_⟩
      rw [hfree] at hsome
      cases hsome
  | ok fs₁ =>
    rw [hattempt] at hmade
    obtain ⟨rfl, -⟩ := unlessThere_ok hmade
    obtain ⟨-, place, -, -, hfree, rfl, hfollow⟩ := makeDirectory_eq_put hattempt
    refine ⟨place, hfollow, ⟨directoryMode, entry?_put_self ?_ _⟩, fun q => eq_of_isSome_put rfl⟩
    rintro rfl
    cases hfree

/-- A directory was made or was there; if something above it was missing, then after that. -/
theorem makeDirectoriesUp_eq_ok {parents : Nat} {path : Path}
    (hmade : (disk.makeDirectoriesUp parents path).run fs = (.ok (), fs')) :
    (disk.makeDirectory path >>= disk.unlessThere path).run fs = (.ok (), fs') ∨
      ∃ above parent fs₁, parents = above + 1 ∧ fs.makeDirectory path = .error .notFound ∧
        path.parent? = some parent ∧
        (disk.makeDirectoriesUp above parent).run fs = (.ok (), fs₁) ∧
        (disk.makeDirectory path >>= disk.unlessThere path).run fs₁ = (.ok (), fs') := by
  cases parents with
  | zero => exact .inl hmade
  | succ above =>
    have hrun : (disk.makeDirectory path).run fs = _ := changing_run _ fs
    rw [Disk.makeDirectoriesUp, run_bind, hrun] at hmade
    rw [run_bind, hrun]
    cases hattempt : fs.makeDirectory path with
    | ok fs₁ =>
      rw [hattempt] at hmade
      exact .inl hmade
    | error cause =>
      rw [hattempt] at hmade
      by_cases hcause : cause = .notFound
      · subst hcause
        cases hparent : path.parent? with
        | none =>
          simp only [hparent] at hmade
          cases hmade
        | some parent =>
          simp only [hparent, run_bind] at hmade
          rcases hup : (disk.makeDirectoriesUp above parent).run fs with ⟨made, fs₁⟩
          rw [hup] at hmade
          cases made with
          | error cause => cases hmade
          | ok _ => exact .inr ⟨above, parent, fs₁, rfl, rfl, rfl, hup, hmade⟩
      · refine .inl ?_
        cases cause <;> first | exact absurd rfl hcause | exact hmade

theorem makeDirectoriesUp_there {parents : Nat} {path : Path}
    (hmade : (disk.makeDirectoriesUp parents path).run fs = (.ok (), fs')) :
    ∃ place, fs'.follow path = .ok place ∧ fs'.IsDirectory place := by
  obtain hmade | ⟨_, _, _, -, -, -, -, hmade⟩ := makeDirectoriesUp_eq_ok hmade <;>
  · obtain ⟨place, hfollow, hdir, -⟩ := makeDirectory_there hmade
    exact ⟨place, hfollow, hdir⟩

/-- The foot of a path is a directory once its directories were made. -/
theorem foot_of_makeDirectories (h : fs.IsSound) {path : Path}
    (hmade : (disk.makeDirectories path).run fs = (.ok (), fs')) :
    ∃ place, fs'.foot path = .ok place ∧ fs'.IsDirectory place := by
  unfold Disk.makeDirectories at hmade
  split at hmade
  · next hnone =>
    cases hmade
    exact ⟨fs.current, if_pos (Path.text_of_length hnone), h.tree.current⟩
  · obtain ⟨place, hfollow, hdir⟩ := makeDirectoriesUp_there hmade
    exact ⟨place, foot_of_follow hfollow, hdir⟩

end FileSystem

end StaticSite
