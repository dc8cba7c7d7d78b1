/-
  What the making of stubs comes to.

  Whether a stub is missing is asked one file after the other, while the stubs before it are
  made, so a file may be found that was not there at first: as one of the directories of an
  earlier stub, or in another spelling.  Of every stub that is made it holds that its path
  led nowhere until then, and so its place is new; what else is new are directories above it
  (`create_made`).  Both are kept by all that follows, so they hold of a whole run
  (`createMissing_made`).  After it every file is found, and a second run makes nothing
  (`createMissing_found`).
-/

import StaticSite.Proofs.Ancestors
import StaticSite.Proofs.FirstMentions

namespace StaticSite

namespace FileSystem

variable {fs fs' fs'' : FileSystem}

/-! ## Finding again -/

theorem isOk_find_iff {path : Path} :
    (fs.find path).isOk ↔ ∃ place entry, fs.find path = .ok (place, entry) := by
  cases fs.find path with
  | error cause => simp [Except.isOk, Except.toBool]
  | ok found => exact ⟨fun _ => ⟨found.1, found.2, rfl⟩, fun _ => rfl⟩

/-- What is found is found again after the file system has grown. -/
theorem Grown.find {IsNew : Entry → Prop} (h : Grown IsNew fs fs') {path : Path} {place : Place}
    {entry : Entry} (hfound : fs.find path = .ok (place, entry)) :
    fs'.find path = .ok (place, entry) := by
  obtain ⟨hfollow, hentry⟩ := find_eq_ok.1 hfound
  refine find_eq_ok.2 ⟨h.evolved.follow hfollow, ?_⟩
  obtain heq | ⟨hnone, -⟩ := h.entries place
  · rw [heq, hentry]
  · rw [hentry] at hnone
    cases hnone

theorem Grown.isOk_find {IsNew : Entry → Prop} (h : Grown IsNew fs fs') {path : Path}
    (hfound : (fs.find path).isOk) : (fs'.find path).isOk := by
  obtain ⟨place, entry, hfind⟩ := isOk_find_iff.1 hfound
  exact isOk_find_iff.2 ⟨place, entry, h.find hfind⟩

/-! ## One stub -/

/-- A stub that came to be was written once its directories were there. -/
theorem create_eq_ok {path : Path} (hrun : (Stub.create disk path).run fs = (.ok (), fs')) :
    ∃ fs₁, fs₁.writeBytes path [] = .ok fs' ∧ match path.parent? with
      | some parent => (disk.makeDirectories parent).run fs = (.ok (), fs₁)
      | none => fs₁ = fs := by
  have hwritten {fs₁ : FileSystem} (h : (disk.write path "").run fs₁ = (.ok (), fs')) :
      fs₁.writeBytes path [] = .ok fs' := by
    rw [write_empty_run] at h
    cases hwrite : fs₁.writeBytes path [] with
    | error cause =>
      rw [hwrite] at h
      cases h
    | ok fs₂ =>
      rw [hwrite] at h
      cases h
      rfl
  unfold Stub.create at hrun
  cases hparent : path.parent? with
  | none =>
    rw [hparent] at hrun
    exact ⟨fs, hwritten hrun, rfl⟩
  | some parent =>
    simp only [hparent, run_bind] at hrun
    rcases hmade : (disk.makeDirectories parent).run fs with ⟨made, fs₁⟩
    rw [hmade] at hrun
    cases made with
    | error cause => cases hrun
    | ok _ => exact ⟨fs₁, hwritten hrun, hmade⟩

/-- No file is written where a path leads that only goes back. -/
theorem writeBytes_backs (h : fs.IsTree) {path : Path}
    (hbacks : ∀ piece ∈ Text.split '/' path.text, Path.IsBack piece) {content : List UInt8} :
    fs.writeBytes path content ≠ .ok fs' := by
  intro hwrite
  obtain ⟨place, mode, hfollow, -, -, hbefore⟩ := writeBytes_eq_ok hwrite
  obtain ⟨steps, hsteps, hfollow⟩ := Except.bind_eq_ok hfollow
  obtain rfl := pieces_eq_ok hsteps
  rw [h.foldlM_backs (h.start path) hbacks] at hfollow
  obtain ⟨mode', hdir⟩ := h.isDirectory_backs (h.start path) (Text.split '/' path.text)
  rw [Except.ok.inj hfollow] at hdir
  obtain ⟨hnone, -⟩ | ⟨old, hfile⟩ := hbefore
  · rw [hnone] at hdir
    cases hdir
  · rw [hfile] at hdir
    cases hdir

/-- A stub is where its path leads, and what else is new are directories above it. -/
theorem create_made (h : fs.IsTree) {path : Path} (hstraight : path.IsStraight)
    (hdescends : path.Descends) (hmissing : (fs.find path).isOk = false)
    (hrun : (Stub.create disk path).run fs = (.ok (), fs')) :
    ∃ place, fs'.find path = .ok (place, .file [] fileMode) ∧ NewAbove fs fs' place := by
  obtain ⟨fs₁, hwrite, hmade⟩ := create_eq_ok hrun
  have hdirs : fs₁.IsTree ∧ Grown IsNewDirectory fs fs₁ := by
    split at hmade
    · next parent _ =>
      have hkept := makesDirectories_makeDirectories parent fs h
      rwa [hmade] at hkept
    · subst hmade
      exact ⟨h, .refl _⟩
  obtain ⟨htree₁, hgrown₁⟩ := hdirs
  cases hdescends with
  | start hbacks => exact absurd hwrite (writeBytes_backs htree₁ hbacks)
  | @name base name hbase hname hparent =>
    simp only [hparent] at hmade
    obtain ⟨directory, hfoot, hnew₁⟩ := makeDirectories_above h hbase hmade
    obtain ⟨place, mode, hfollow, hroot, rfl, hbefore⟩ := writeBytes_eq_ok hwrite
    have hfree : fs₁.entry? place = none ∧ mode = fileMode := by
      obtain hbefore | ⟨old, hfile⟩ := hbefore
      · exact hbefore
      · exact absurd hfile (h.no_file_of_grown htree₁ hgrown₁ hstraight hmissing _ _ _ hfollow)
    obtain ⟨hfree, rfl⟩ := hfree
    have hgrown : Grown IsStub fs₁ (fs₁.put place (.file [] fileMode)) := grown_put hfree (.inr rfl)
    -- The file is the only new entry since the directories, and it is below the last of them.
    have hnew : NewAbove fs₁ (fs₁.put place (.file [] fileMode)) place :=
      fun q hq hsome => eq_of_isSome_put rfl hq hsome ▸ List.prefix_rfl
    have hfound := find_eq_ok.2 ⟨hgrown.evolved.follow hfollow, entry?_put_self hroot _⟩
    obtain ⟨directory', hfoot', -, rfl⟩ := follow_join hname hfollow
    obtain rfl : directory' = directory := Except.ok.inj (hfoot'.symm.trans hfoot)
    exact ⟨_, hfound, hnew₁.trans hnew⟩

/-! ## A run over some files -/

/-- What a run over some files has made of them. -/
structure Made (fs fs' : FileSystem) (paths created : List Path) : Prop where
  chosen : created.Sublist (paths.filter fun path => !(fs.find path).isOk)
  apart : created.Pairwise fun p q => fs'.follow p ≠ fs'.follow q
  empty : ∀ path ∈ created, ∃ place, fs'.find path = .ok (place, .file [] fileMode)
  there : ∀ path ∈ paths, (fs'.find path).isOk
  above : ∀ q, fs.entry? q = none → (fs'.entry? q).isSome →
    ∃ path ∈ created, ∃ place, fs'.follow path = .ok place ∧ q <+: place

theorem made_nil (fs : FileSystem) : Made fs fs [] [] where
  chosen := .slnil
  apart := .nil
  empty := fun _ h => absurd h List.not_mem_nil
  there := fun _ h => absurd h List.not_mem_nil
  above := fun q hfree hsome => by
    rw [hfree] at hsome
    cases hsome

/-- A file that is found is passed over. -/
theorem Made.skip {paths created : List Path} (h : Made fs fs' paths created) {path : Path}
    (hfound : (fs.find path).isOk) (hthere : (fs'.find path).isOk) :
    Made fs fs' (path :: paths) created where
  chosen := by
    have hskip : ¬ (!(fs.find path).isOk) = true := by rw [hfound]; exact Bool.false_ne_true
    rw [@List.filter_cons_of_neg _ (fun path => !(fs.find path).isOk) path paths hskip]
    exact h.chosen
  apart := h.apart
  empty := h.empty
  there := List.forall_mem_cons.2 ⟨hthere, h.there⟩
  above := h.above

/-- A stub that is made is the first of all that are. -/
theorem Made.cons {fs₁ : FileSystem} {paths created : List Path} (h : Made fs₁ fs' paths created)
    (htree₁ : fs₁.IsTree) (htree : fs'.IsTree) (hgrown₁ : Grown IsStub fs fs₁)
    (hgrown : Grown IsStub fs₁ fs') (hstraight : ∀ q ∈ paths, q.IsStraight) {path : Path}
    (hmissing : (fs.find path).isOk = false) {place : Place}
    (hfound : fs₁.find path = .ok (place, .file [] fileMode)) (hnew : NewAbove fs fs₁ place) :
    Made fs fs' (path :: paths) (path :: created) := by
  have hfind : fs'.find path = .ok (place, .file [] fileMode) := hgrown.find hfound
  obtain ⟨hfollow, -⟩ := find_eq_ok.1 hfind
  constructor
  case chosen =>
    have hkeep : (!(fs.find path).isOk) = true := by rw [hmissing]; rfl
    rw [@List.filter_cons_of_pos _ (fun path => !(fs.find path).isOk) path paths hkeep]
    refine (h.chosen.trans (List.monotone_filter_right paths fun q hq => ?_)).cons_cons path
    -- What is missing now was missing before.
    rw [Bool.not_eq_true'] at hq ⊢
    exact Bool.eq_false_iff.2 fun hbefore =>
      Bool.eq_false_iff.1 hq (hgrown₁.isOk_find hbefore)
  case apart =>
    refine List.pairwise_cons.2 ⟨fun q hq heq => ?_, h.apart⟩
    obtain ⟨hmem, hlater⟩ := List.mem_filter.1 (h.chosen.subset hq)
    -- A later stub at this place would have been found.
    have hthere := htree₁.find_of_grown htree hgrown.current (hstraight q hmem) (heq ▸ hfollow)
      (find_eq_ok.1 hfound).2
    rw [hthere] at hlater
    cases hlater
  case empty => exact List.forall_mem_cons.2 ⟨⟨place, hfind⟩, h.empty⟩
  case there => exact List.forall_mem_cons.2 ⟨isOk_find_iff.2 ⟨place, _, hfind⟩, h.there⟩
  case above =>
    intro q hfree hsome
    cases hentry : fs₁.entry? q with
    | none =>
      obtain ⟨p, hp, above⟩ := h.above q hentry hsome
      exact ⟨p, List.mem_cons_of_mem _ hp, above⟩
    | some entry =>
      exact ⟨path, List.mem_cons_self, place, hfollow, hnew q hfree (by rw [hentry]; rfl)⟩

theorem createMissing_made (h : fs.IsTree) {paths created : List Path}
    (hclean : ∀ path ∈ paths, ∃ p : Path, path = p.clean)
    (hrun : (Stub.createMissing disk paths).run fs = (.ok created, fs')) :
    Made fs fs' paths created := by
  have hstraight : ∀ path ∈ paths, path.IsStraight := fun path hpath => by
    obtain ⟨p, rfl⟩ := hclean path hpath
    exact Path.isStraight_clean p
  induction paths generalizing fs created with
  | nil =>
    cases hrun
    exact made_nil _
  | cons path rest ih =>
    have hgrown := (createMissing_grown h hstraight).2
    rw [hrun] at hgrown
    obtain ⟨⟨p, hp⟩, hclean⟩ := List.forall_mem_cons.1 hclean
    obtain ⟨hstraight, hstraights⟩ := List.forall_mem_cons.1 hstraight
    rw [createMissing_cons_run] at hrun
    split at hrun
    · next hfound => exact (ih h hclean hrun hstraights).skip hfound (hgrown.isOk_find hfound)
    · next hmissing =>
      rw [Bool.not_eq_true] at hmissing
      have hstub := create_grown h hstraight hmissing
      rcases hcreate : (Stub.create disk path).run fs with ⟨attempt, fs₁⟩
      rw [hcreate] at hrun hstub
      cases attempt with
      | error cause => cases hrun
      | ok _ =>
        obtain ⟨htree₁, hgrown₁⟩ := hstub
        obtain ⟨place, hfound, hnew⟩ :=
          create_made h hstraight (hp ▸ Path.descends_clean p) hmissing hcreate
        have hrest := createMissing_grown htree₁ hstraights
        rcases hmade : (Stub.createMissing disk rest).run fs₁ with ⟨made, fs₂⟩
        simp only [hmade] at hrun hrest
        cases made with
        | error cause => cases hrun
        | ok stubs =>
          cases hrun
          exact (ih htree₁ hclean hmade hstraights).cons htree₁ hrest.1 hgrown₁ hrest.2 hstraights
            hmissing hfound hnew

/-- Nothing is made if nothing is missing. -/
theorem createMissing_found {paths : List Path} (h : ∀ path ∈ paths, (fs.find path).isOk) :
    (Stub.createMissing disk paths).run fs = (.ok [], fs) := by
  induction paths with
  | nil => rfl
  | cons path rest ih =>
    obtain ⟨hfound, hrest⟩ := List.forall_mem_cons.1 h
    rw [createMissing_cons_run, if_pos hfound]
    exact ih hrest

end FileSystem

/-! ## The stubs of a set -/

namespace ResourceSet

theorem mem_files {set : ResourceSet} {path : Path} :
    path ∈ set.files ↔ ∃ r ∈ set.items, r.location = .file path := by
  rw [files, List.mem_filterMap]
  refine exists_congr fun r => and_congr_right fun _ => ?_
  cases r.location <;> simp

theorem clean_of_mem_files {requests : List Request} {path : Path}
    (h : path ∈ (ofRequests requests).files) : ∃ p : Path, path = p.clean := by
  obtain ⟨r, hr, hlocation⟩ := mem_files.1 h
  have hclean := isClean_of_mem_items hr
  rw [hlocation] at hclean
  exact hclean

end ResourceSet

namespace Stub

open FileSystem (disk fileMode directoryMode)

/-- What making the stubs of a set comes to, if it comes to an end. -/
structure Settled (fs fs' : FileSystem) (set : ResourceSet) (created : List Path) : Prop where
  /-- Stubs are made in the order of the set, for files that were missing. -/
  chosen : created.Sublist (set.files.filter fun path => !(fs.find path).isOk)
  distinct : created.Pairwise fun p q => ¬ p.same q
  apart : created.Pairwise fun p q => fs'.follow p ≠ fs'.follow q
  empty : ∀ path ∈ created, ∃ place, fs'.find path = .ok (place, .file [] fileMode)
  there : ∀ path ∈ set.files, (fs'.find path).isOk
  kept : ∀ place entry, fs.entry? place = some entry → fs'.entry? place = some entry
  found : ∀ path place entry, fs.find path = .ok (place, entry) → fs'.find path = .ok (place, entry)
  current : fs'.current = fs.current
  /-- What is new is a stub, or a directory on the way to one. -/
  new : ∀ place entry, fs.entry? place = none → fs'.entry? place = some entry →
    ∃ path ∈ created, ∃ below, fs'.follow path = .ok (place ++ below) ∧
      entry = if below = [] then .file [] fileMode else .directory directoryMode
  /-- No URL has a stub. -/
  files : ∀ path ∈ created, ∃ r ∈ set.items, r.location = .file path
  again : (ensureAll disk set).run fs' = (.ok [], fs')

/-- Making the stubs of a set, however their paths overlap, leaves all that was there as it was
and leaves nothing to make. -/
theorem ensureAll_settles {fs fs' : FileSystem} (h : fs.IsTree)
    (requests : List ResourceSet.Request) {created : List Path}
    (hrun : (ensureAll disk (.ofRequests requests)).run fs = (.ok created, fs')) :
    Settled fs fs' (.ofRequests requests) created := by
  have hclean : ∀ path ∈ (ResourceSet.ofRequests requests).files, ∃ p : Path, path = p.clean :=
    fun path hpath => ResourceSet.clean_of_mem_files hpath
  have hgrowth := FileSystem.createMissing_grown h fun path hpath => by
    obtain ⟨p, rfl⟩ := hclean path hpath
    exact Path.isStraight_clean p
  have hmade := FileSystem.createMissing_made h hclean hrun
  unfold ensureAll at hrun
  rw [hrun] at hgrowth
  obtain ⟨htree, hgrown⟩ := hgrowth
  have hfile : ∀ path ∈ created, path ∈ (ResourceSet.ofRequests requests).files := fun path hpath =>
    List.mem_of_mem_filter (hmade.chosen.subset hpath)
  constructor
  case chosen => exact hmade.chosen
  case apart => exact hmade.apart
  case empty => exact hmade.empty
  case there => exact hmade.there
  case current => exact hgrown.current
  case files => exact fun path hpath => ResourceSet.mem_files.1 (hfile path hpath)
  case again => exact FileSystem.createMissing_found hmade.there
  case found => exact fun path place entry => hgrown.find
  case kept =>
    intro place entry hentry
    obtain heq | ⟨hnone, -⟩ := hgrown.entries place
    · rw [heq, hentry]
    · rw [hnone] at hentry
      cases hentry
  case distinct =>
    refine hmade.apart.imp_of_mem fun {p q} hp hq hne hsame => hne ?_
    obtain ⟨p, rfl⟩ := hclean p (hfile p hp)
    obtain ⟨q, rfl⟩ := hclean q (hfile q hq)
    rw [(Path.clean_same p q).1 hsame]
  case new =>
    intro place entry hfree hentry
    obtain ⟨path, hpath, stub, hfollow, below, rfl⟩ := hmade.above place hfree (by rw [hentry]; rfl)
    obtain ⟨stub', hfind⟩ := hmade.empty path hpath
    obtain ⟨hfollow', hfile⟩ := FileSystem.find_eq_ok.1 hfind
    obtain rfl : stub' = place ++ below := Except.ok.inj (hfollow'.symm.trans hfollow)
    refine ⟨path, hpath, below, hfollow, ?_⟩
    split
    · next hnil =>
      rw [hnil, List.append_nil, hentry] at hfile
      exact Option.some.inj hfile
    · next hne =>
      -- Above the stub there are directories only.
      obtain ⟨mode, hdir⟩ := htree.above hne (by rw [hfile]; rfl)
      obtain heq | ⟨-, entry', hentry', hstub⟩ := hgrown.entries place
      · rw [heq, hfree] at hentry
        cases hentry
      · rw [hentry] at hdir hentry'
        cases hdir
        cases hentry'
        obtain hstub | hstub := hstub
        · exact hstub
        · cases hstub

/-! ### Stubs that overlap -/

def overlappingFiles : FileSystem where
  entries := [(["site"], .directory directoryMode), (["site", "old.css"], .file [104, 105] 0o600)]
  current := ["site"]

/-- A script whose path is a directory of a style sheet before it, a URL and a style sheet that is
there; a descriptor mentions some of them once more. -/
def overlappingRequests : List ResourceSet.Request :=
  [.mention ⟨"/site"⟩ ⟨"."⟩ ⟨.styleSheet, "lib/new.css"⟩,
    .mention ⟨"/site"⟩ ⟨"."⟩ ⟨.script, "lib"⟩,
    .mention ⟨"/site"⟩ ⟨"."⟩ ⟨.script, "https://example.org/lib.js"⟩,
    .descriptor ⟨"/site"⟩ ⟨"lib"⟩ { css := ["../old.css", "new.css"], js := ["x/../y.js"] }]

def overlappingStubs : List Path := [⟨"lib/new.css"⟩, ⟨"lib/y.js"⟩]

theorem overlappingFiles_isTree : overlappingFiles.IsTree :=
  FileSystem.isTree_of_entries (by decide) (by decide)

theorem ensureAll_settles_overlapping : ∃ fs',
    (ensureAll disk (.ofRequests overlappingRequests)).run overlappingFiles
      = (.ok overlappingStubs, fs') ∧
      Settled overlappingFiles fs' (.ofRequests overlappingRequests) overlappingStubs := by
  have hend : ∃ run, (ensureAll disk (.ofRequests overlappingRequests)).run overlappingFiles = run ∧
      run.1.toOption = some overlappingStubs := ⟨_, rfl, by decide +kernel⟩
  obtain ⟨⟨result, fs'⟩, hrun, hstubs⟩ := hend
  cases result with
  | error cause => cases hstubs
  | ok created =>
    obtain rfl := Option.some.inj hstubs
    exact ⟨fs', hrun, ensureAll_settles overlappingFiles_isTree overlappingRequests hrun⟩

end Stub

end StaticSite
