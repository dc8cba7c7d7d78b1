/-
  A copy as the mirror of its source.

  When a directory has been copied to a target that is apart from it, all that was at or below
  it is below the target, the same in kind, mode and content, and every other place is as it
  was, but for the directories that the path of the target leads through
  (`Assets.copyDirectory_mirrors`).  These may be new, even in the source: the path
  `source/new/../../target` names a place that is apart, and its directories bring `new` into
  the source (`Assets.detour_changes_source`).  No path does so in which `..` takes back no
  name.
-/

import StaticSite.Proofs.Outputs

open StaticSite.Path (IsName)

namespace StaticSite

namespace FileSystem

variable {fs fs' : FileSystem} {target : Path} {place q : Place}

/-- What is at a place, once the directories that a path leads through were made. -/
def opened? (fs : FileSystem) (path : Path) (place : Place) : Option Entry :=
  (fs.entry? place).or (if place ∈ fs.way path then some (.directory directoryMode) else none)

theorem opened?_eq_some {entry : Entry} (h : fs.entry? place = some entry) :
    fs.opened? target place = some entry := by
  rw [opened?, h]
  rfl

theorem opened?_of_free (h : fs.entry? place = none) (hway : place ∈ fs.way target) :
    fs.opened? target place = some (.directory directoryMode) := by
  rw [opened?, h, if_pos hway]
  rfl

theorem opened?_of_not_mem (hway : place ∉ fs.way target) :
    fs.opened? target place = fs.entry? place := by
  rw [opened?, if_neg hway, Option.or_none]

/-- Nothing is opened at a place exactly if it is not on the way, or is there already. -/
theorem opened?_eq_iff : fs.opened? target place = fs.entry? place ↔
    (place ∈ fs.way target → (fs.entry? place).isSome) := by
  cases hentry : fs.entry? place with
  | some entry => simp [opened?_eq_some hentry]
  | none =>
    by_cases hway : place ∈ fs.way target
    · simp [opened?_of_free hentry hway, hway]
    · simp [opened?_of_not_mem hway, hentry, hway]

theorem isFile_of_opened? {entry : Entry} (h : fs.opened? target place = some entry)
    (hfile : entry.kind = .file) : fs.IsFile place := by
  cases hentry : fs.entry? place with
  | some entry' =>
    rw [opened?_eq_some hentry] at h
    rw [IsFile, kind?, hentry, Option.some.inj h, ← hfile]
    rfl
  | none =>
    -- Only directories are opened.
    by_cases hway : place ∈ fs.way target
    · rw [opened?_of_free hentry hway] at h
      cases h
      cases hfile
    · rw [opened?_of_not_mem hway, hentry] at h
      cases h

/-- What is above something that is there is there too. -/
theorem IsTree.isSome_above (h : fs.IsTree) (hplace : (fs.entry? place).isSome)
    (hq : q <+: place) : (fs.entry? q).isSome := by
  obtain ⟨rest, rfl⟩ := hq
  by_cases hnil : rest = []
  · rwa [hnil, List.append_nil] at hplace
  · exact (h.above hnil hplace).isSome

end FileSystem

open FileSystem (disk IsApart)

namespace Assets

variable {source target : Path} {fs fs' : FileSystem} {from' : Place} {vs : List (Visit Path)}

/-- A target after a directory was copied to it.  The places at and below the source are told by
the names that lead there. -/
structure IsMirror (target : Path) (from' : Place) (fs fs' : FileSystem) : Prop where
  mirrored : ∀ names entry, fs.entry? (from' ++ names) = some entry →
    fs'.find (target.below names) = .ok (fs.named target ++ names, entry)
  source : ∀ names, fs'.entry? (from' ++ names) = fs.opened? target (from' ++ names)
  others : ∀ q, (∀ names, q = fs.named target ++ names → fs.opened? target (from' ++ names) = none) →
    fs'.entry? q = fs.opened? target q

namespace Copied

variable (h : Copied target from' fs fs' vs)
include h

/-- What was visited is below the target what it is below the source. -/
theorem visited {names : List String} {kind : EntryKind}
    (hkind : fs.kind? (from' ++ names) = some kind) :
    ∃ entry, fs'.entry? (from' ++ names) = some entry ∧
      fs'.find (target.below names) = .ok (fs.named target ++ names, entry) := by
  obtain ⟨v, hv, rfl, -⟩ := h.covers names kind hkind
  obtain ⟨entry, hentry, hfind⟩ := h.mirrors.taken _ (List.mem_map_of_mem hv)
  refine ⟨entry, hentry, ?_⟩
  by_cases hnil : v.names = []
  · -- The root was taken over to the target with a slash at its end.
    obtain ⟨hfollow, htarget⟩ := FileSystem.find_eq_ok.1 hfind
    rw [hnil] at hfollow htarget ⊢
    exact FileSystem.find_eq_ok.2 ⟨FileSystem.follow_of_join_empty hfollow, htarget⟩
  · rwa [targetOf, Path.join_ofNames target hnil (h.proper v hv)] at hfind

/-- A place that is not on the way to anything that was taken over is as before, but for the
directories that the path of the target leads through. -/
theorem untouched (hroot : fs.IsDirectory from') {q : Place}
    (hq : ∀ v ∈ vs, ∀ front, front <+: v.names → q ≠ fs.named target ++ front) :
    fs'.entry? q = fs.opened? target q := by
  have hothers : ∀ names ∈ vs.map (·.names), q ≠ fs.named target ++ names := by
    intro names hmem
    obtain ⟨v, hv, rfl⟩ := List.mem_map.1 hmem
    exact hq v hv v.names List.prefix_rfl
  rcases h.mirrors.others q hothers with heq | ⟨hnone, hnew, hway | ⟨names, hmem, front, hfront, heq⟩⟩
  · rw [heq, eq_comm, FileSystem.opened?_eq_iff, ← heq]
    intro hway
    -- The target was found in the end, so everything on its way is there.
    have hkind : fs.kind? (from' ++ []) = some .directory := by
      rw [List.append_nil]
      exact FileSystem.isDirectory_iff.1 hroot
    obtain ⟨entry, -, hfind⟩ := h.visited hkind
    obtain ⟨hfollow, htarget⟩ := FileSystem.find_eq_ok.1 hfind
    rw [← FileSystem.way_congr h.evolved.current] at hway
    exact FileSystem.isSome_of_mem_way hfollow (by rw [htarget]; rfl) hway
  · rw [hnew, FileSystem.opened?_of_free hnone hway]
  · obtain ⟨v, hv, rfl⟩ := List.mem_map.1 hmem
    exact absurd heq (hq v hv front hfront)

variable (hroot : fs.IsDirectory from')
  (hapart : ∀ rest rest', from' ++ rest ≠ fs.named target ++ rest')
include hroot hapart

theorem isMirror (hsound' : fs'.IsSound) : IsMirror target from' fs fs' := by
  have hsource : ∀ names, fs'.entry? (from' ++ names) = fs.opened? target (from' ++ names) := by
    intro names
    apply h.untouched hroot
    intro v _ front _
    exact hapart names front
  constructor
  case source => exact hsource
  case mirrored =>
    intro names entry hentry
    have hkind : fs.kind? (from' ++ names) = some entry.kind := by
      rw [FileSystem.kind?, hentry]
      rfl
    obtain ⟨entry', hentry', hfind⟩ := h.visited hkind
    rw [hsource, FileSystem.opened?_eq_some hentry] at hentry'
    rwa [Option.some.inj hentry']
  case others =>
    intro q hq
    apply h.untouched hroot
    intro v hv front hfront heq
    -- What is above a place that was visited is in the source too.
    have hsome : (fs'.entry? (from' ++ front)).isSome :=
      hsound'.tree.isSome_above (FileSystem.isSome_of_kind? (h.kinds v hv))
        ((List.prefix_append_right_inj from').2 hfront)
    rw [hsource, hq front heq] at hsome
    cases hsome

/-- The files that were visited are the files of the source. -/
theorem countP_files :
    vs.countP (·.kind == .file) = {names | fs.IsFile (from' ++ names)}.ncard := by
  have hfiles : {names | fs.IsFile (from' ++ names)}
      = ↑((vs.filter (·.kind == .file)).map (·.names)).toFinset := by
    ext names
    simp only [Set.mem_ofPred_eq, List.coe_toFinset, List.mem_map, List.mem_filter, beq_iff_eq]
    constructor
    · intro hfile
      obtain ⟨v, hv, hnames, hkind⟩ := h.covers names .file hfile
      exact ⟨v, ⟨hv, hkind⟩, hnames⟩
    · rintro ⟨v, ⟨hv, hkind⟩, rfl⟩
      obtain ⟨entry, hentry, hentryKind⟩ := Option.map_eq_some_iff.1 (h.kinds v hv)
      rw [h.untouched hroot fun _ _ front _ => hapart v.names front] at hentry
      exact FileSystem.isFile_of_opened? hentry (hentryKind.trans hkind)
  have hdistinct : ((vs.filter (·.kind == .file)).map (·.names)).Nodup :=
    h.distinct.sublist (List.filter_sublist.map _)
  rw [hfiles, Set.ncard_coe_finset, List.toFinset_card_of_nodup hdistinct, List.length_map,
    List.countP_eq_length_filter]

end Copied

/-! ## The source -/

/-- The source is unchanged exactly if the path of the target leads through no directory that is
missing in it. -/
theorem IsMirror.source_eq_iff (h : IsMirror target from' fs fs') :
    (∀ names, fs'.entry? (from' ++ names) = fs.entry? (from' ++ names)) ↔
      ∀ names, from' ++ names ∈ fs.way target → (fs.entry? (from' ++ names)).isSome := by
  apply forall_congr'
  intro names
  rw [h.source names]
  exact FileSystem.opened?_eq_iff

/-- A path in which `..` takes back no name leads through no directory of the source that is
missing. -/
theorem isSome_of_neverReturns (htree : fs.IsTree) (hpath : target.NeverReturns)
    (hapart : IsApart (fs.named target) from') {names : List String}
    (hway : from' ++ names ∈ fs.way target) : (fs.entry? (from' ++ names)).isSome := by
  rcases FileSystem.mem_way_of_neverReturns hpath hway with hstart | hnamed
  · exact htree.isSome_above (htree.start target).isSome hstart
  · exact absurd ((List.prefix_append from' names).trans hnamed) hapart.2

/-- What a copy leaves behind.  If the source is a directory, and the target names a place that is
neither the source nor in it nor above it, then a copy that comes to its end has counted the files
of the source, and the target mirrors the source.  The source is unchanged exactly if the path of
the target leads through no directory that is missing in it, and it never does if no `..` in it
takes back a name.  If the source is no directory, nothing is copied and nothing changes. -/
theorem copyDirectory_mirrors (hsound : fs.IsSound) :
    (∀ from' mode copied fs', fs.find source = .ok (from', .directory mode) →
      IsApart (fs.named target) from' →
      (copyDirectory disk source target).run fs = (.ok copied, fs') →
        copied = {names | fs.IsFile (from' ++ names)}.ncard ∧ IsMirror target from' fs fs' ∧
        ((∀ names, fs'.entry? (from' ++ names) = fs.entry? (from' ++ names)) ↔
          ∀ names, from' ++ names ∈ fs.way target → (fs.entry? (from' ++ names)).isSome) ∧
        (target.NeverReturns →
          ∀ names, fs'.entry? (from' ++ names) = fs.entry? (from' ++ names))) ∧
    ((∀ place mode, fs.find source ≠ .ok (place, .directory mode)) →
      (copyDirectory disk source target).run fs = (.ok 0, fs)) := by
  refine ⟨?_, copyDirectory_none⟩
  intro from' mode copied fs' hfind hapart hrun
  have hroot : fs.IsDirectory from' := ⟨mode, (FileSystem.find_eq_ok.1 hfind).2⟩
  have hdistinct : ∀ rest rest', from' ++ rest ≠ fs.named target ++ rest' := by
    intro rest rest' heq
    exact hapart.append_ne rest' rest heq.symm
  obtain ⟨hsound', -⟩ := copyDirectory_evolved hsound hrun
  obtain ⟨vs, hcopied, rfl⟩ := copyDirectory_ok hsound hfind hdistinct hrun
  have hmirror := hcopied.isMirror hroot hdistinct hsound'
  refine ⟨hcopied.countP_files hroot hdistinct, hmirror, hmirror.source_eq_iff, ?_⟩
  intro hpath
  rw [hmirror.source_eq_iff]
  intro names hway
  exact isSome_of_neverReturns hsound.tree hpath hapart hway

/-! A directory that is merged into one that is there. -/

/-- A style sheet of the source is in the target already, and so is a file that the source lacks. -/
def mergedFiles : FileSystem where
  entries := [
    (["src"], .directory 0o700),
    (["src", "css"], .directory 0o750),
    (["src", "css", "a.css"], .file [1, 2] 0o600),
    (["out"], .directory 0o755),
    (["out", "css"], .directory 0o755),
    (["out", "css", "a.css"], .file [3] 0o644),
    (["out", "b.css"], .file [4] 0o644)]

theorem copyDirectory_mirrors_merged : mergedFiles.IsSound ∧ ∃ fs',
    mergedFiles.find ⟨"/src"⟩ = .ok (["src"], .directory 0o700) ∧
    IsApart (mergedFiles.named ⟨"/out/"⟩) ["src"] ∧
    (copyDirectory disk ⟨"/src"⟩ ⟨"/out/"⟩).run mergedFiles = (.ok 1, fs') ∧
    Path.NeverReturns ⟨"/out/"⟩ ∧
    1 = {names | mergedFiles.IsFile (["src"] ++ names)}.ncard ∧
    IsMirror ⟨"/out/"⟩ ["src"] mergedFiles fs' ∧
    (∀ names, fs'.entry? (["src"] ++ names) = mergedFiles.entry? (["src"] ++ names)) ∧
    (∀ place mode, mergedFiles.find ⟨"/out/b.css"⟩ ≠ .ok (place, .directory mode)) ∧
    (copyDirectory disk ⟨"/out/b.css"⟩ ⟨"/src/new"⟩).run mergedFiles = (.ok 0, mergedFiles) := by
  have hsound : mergedFiles.IsSound :=
    FileSystem.isSound_of_entries (by decide) (FileSystem.isDirectory_nil _) (by decide) (by decide)
  have hfind : mergedFiles.find ⟨"/src"⟩ = .ok (["src"], .directory 0o700) :=
    Except.eq_ok_of_toOption (by decide +kernel)
  have hfile : mergedFiles.find ⟨"/out/b.css"⟩ = .ok (["out", "b.css"], .file [4] 0o644) :=
    Except.eq_ok_of_toOption (by decide +kernel)
  have hapart : IsApart (mergedFiles.named ⟨"/out/"⟩) ["src"] := by
    rw [show mergedFiles.named ⟨"/out/"⟩ = ["out"] by decide +kernel]
    exact ⟨by decide, by decide⟩
  have hpath : Path.NeverReturns ⟨"/out/"⟩ :=
    ⟨[], Text.split '/' "/out/", rfl, by simp, by decide +kernel⟩
  have hnone : ∀ place mode, mergedFiles.find ⟨"/out/b.css"⟩ ≠ .ok (place, .directory mode) := by
    intro place mode
    rw [hfile]
    rintro ⟨⟩
  have hend : ∃ run, (copyDirectory disk ⟨"/src"⟩ ⟨"/out/"⟩).run mergedFiles = run ∧
      run.1.toOption = some 1 := ⟨_, rfl, by decide +kernel⟩
  obtain ⟨⟨copied, fs'⟩, hrun, hcopied⟩ := hend
  obtain rfl : copied = .ok 1 := Except.eq_ok_of_toOption hcopied
  obtain ⟨hfiles, hmirror, -, hkept⟩ :=
    (copyDirectory_mirrors hsound).1 _ _ _ _ hfind hapart hrun
  exact ⟨hsound, fs', hfind, hapart, hrun, hpath, hfiles, hmirror, hkept hpath, hnone,
    (copyDirectory_mirrors hsound).2 hnone⟩

/-! A path that leaves the source again. -/

def detourFiles : FileSystem where
  entries := [
    (["src"], .directory FileSystem.directoryMode),
    (["src", "a"], .file [] FileSystem.fileMode)]

/-- The target is apart from the source, and the directories that its path leads through bring
`new` into it. -/
theorem detour_changes_source : detourFiles.IsSound ∧ ∃ fs',
    detourFiles.find ⟨"/src"⟩ = .ok (["src"], .directory FileSystem.directoryMode) ∧
    IsApart (detourFiles.named ⟨"/src/new/../../out"⟩) ["src"] ∧
    (copyDirectory disk ⟨"/src"⟩ ⟨"/src/new/../../out"⟩).run detourFiles = (.ok 1, fs') ∧
    fs'.find ⟨"/src/new/../../out"⟩ = .ok (["out"], .directory FileSystem.directoryMode) ∧
    ¬∀ names, fs'.entry? (["src"] ++ names) = detourFiles.entry? (["src"] ++ names) := by
  have hapart : IsApart (detourFiles.named ⟨"/src/new/../../out"⟩) ["src"] := by
    rw [show detourFiles.named ⟨"/src/new/../../out"⟩ = ["out"] by decide +kernel]
    exact ⟨by decide, by decide⟩
  have hend : ∃ run, (copyDirectory disk ⟨"/src"⟩ ⟨"/src/new/../../out"⟩).run detourFiles = run ∧
      run.1.toOption = some 1 ∧
      (FileSystem.find run.2 ⟨"/src/new/../../out"⟩).toOption
        = some (["out"], .directory FileSystem.directoryMode) ∧
      FileSystem.entry? run.2 ["src", "new"] = some (.directory FileSystem.directoryMode) :=
    ⟨_, rfl, by decide +kernel⟩
  obtain ⟨⟨copied, fs'⟩, hrun, hcopied, htarget, hnew⟩ := hend
  obtain rfl : copied = .ok 1 := Except.eq_ok_of_toOption hcopied
  refine ⟨FileSystem.isSound_of_entries (by decide) (FileSystem.isDirectory_nil _) (by decide)
    (by decide), fs', Except.eq_ok_of_toOption (by decide +kernel), hapart, hrun,
    Except.eq_ok_of_toOption htarget, ?_⟩
  intro hkept
  -- There was nothing at this place before.
  have hold : detourFiles.entry? ["src", "new"] = some (.directory FileSystem.directoryMode) :=
    (hkept ["new"]).symm.trans hnew
  cases hold

end Assets

end StaticSite
