/-
  What files hold, and how a directory is copied.

  Of the operations of a disk only a write and a copy change what files hold, at one place
  each.  A copy of a directory into one that is apart from it takes over every file that was
  there when it started, to the same place below the target, and changes no other file
  (`Assets.copyDirectory_copies`).
-/

import StaticSite.Proofs.Copies

open StaticSite.Path (IsName)

namespace StaticSite

namespace FileSystem

variable {fs fs' : FileSystem}

/-! ## Contents -/

/-- What the file at a place holds, if there is one. -/
def content? (fs : FileSystem) (place : Place) : Option (List UInt8) :=
  match fs.entry? place with
  | some (.file content _) => some content
  | _ => none

theorem isFile_iff_content? {place : Place} : fs.IsFile place ↔ ∃ content, fs.content? place = some content := by
  rw [isFile_iff]
  unfold content?
  constructor
  · rintro ⟨content, mode, hentry⟩
    exact ⟨content, by rw [hentry]⟩
  · rintro ⟨content, h⟩
    split at h
    · next found mode hentry => exact ⟨found, mode, hentry⟩
    · cases h

theorem content?_of_entry? {place : Place} {content : List UInt8} {mode : Nat}
    (h : fs.entry? place = some (.file content mode)) : fs.content? place = some content := by
  rw [content?, h]

theorem content?_put_of_ne {place q : Place} (h : q ≠ place) (entry : Entry) :
    (fs.put place entry).content? q = fs.content? q := by
  unfold content?
  rw [entry?_put_of_ne h]

theorem content?_put_self {place : Place} (h : place ≠ []) (content : List UInt8) (mode : Nat) :
    (fs.put place (.file content mode)).content? place = some content :=
  content?_of_entry? (entry?_put_self h _)

/-- What a file holds stays while a file system grows. -/
theorem Grown.content? {IsNew : Entry → Prop} (h : Grown IsNew fs fs') {place : Place}
    {content : List UInt8} (hcontent : fs.content? place = some content) :
    fs'.content? place = some content := by
  obtain heq | ⟨hnone, -⟩ := h.entries place
  · rwa [FileSystem.content?, heq]
  · rw [FileSystem.content?, hnone] at hcontent
    cases hcontent

/-- New directories hold nothing. -/
theorem Grown.content?_eq (h : Grown IsNewDirectory fs fs') (place : Place) :
    fs'.content? place = fs.content? place := by
  obtain heq | ⟨hnone, entry, hentry, hnew⟩ := h.entries place
  · rw [FileSystem.content?, heq, FileSystem.content?]
  · rw [FileSystem.content?, hentry, hnew, FileSystem.content?, hnone]

end FileSystem

open FileSystem (disk)

namespace Assets

variable {source base : Path} {name : String} {above from' : Place} {fs fs' : FileSystem}

/-- A copy changes what files hold only where it takes over a file. -/
theorem Copied.content? {target : Path} {vs : List (Visit Path)} (h : Copied target from' fs fs' vs)
    {q : Place} (hq : ∀ v ∈ vs, v.kind = .file → q ≠ fs.named target ++ v.names) :
    fs'.content? q = fs.content? q := by
  by_cases hvisited : ∃ v ∈ vs, q = fs.named target ++ v.names
  · obtain ⟨v, hv, rfl⟩ := hvisited
    have hnofile : ¬fs'.IsFile (fs.named target ++ v.names) := by
      obtain ⟨entry, hentry, hfind⟩ := h.mirrors.taken _ (List.mem_map_of_mem hv)
      have hkind := h.kinds v hv
      rw [FileSystem.kind?, hentry] at hkind
      rw [FileSystem.IsFile, FileSystem.kind?, (FileSystem.find_eq_ok.1 hfind).2, hkind]
      intro hfile
      exact hq v hv (Option.some.inj hfile) rfl
    -- A file that was there before would be one still.
    have hnofile' : ¬fs.IsFile (fs.named target ++ v.names) := fun hfile =>
      hnofile (h.evolved.kinds _ _ hfile)
    rw [FileSystem.isFile_iff_content?, ← Option.isSome_iff_exists, Option.not_isSome_iff_eq_none]
      at hnofile hnofile'
    rw [hnofile, hnofile']
  · have hothers : ∀ names ∈ vs.map (·.names), q ≠ fs.named target ++ names := by
      intro names hmem heq
      obtain ⟨v, hv, rfl⟩ := List.mem_map.1 hmem
      exact hvisited ⟨v, hv, heq⟩
    rcases h.mirrors.others q hothers with heq | ⟨hnone, hnew, -⟩
    · rw [FileSystem.content?, heq, FileSystem.content?]
    · rw [FileSystem.content?, hnew, FileSystem.content?, hnone]

/-- A file of the source is below the target, with what it held. -/
theorem Copied.file {target : Path} {vs : List (Visit Path)} (h : Copied target from' fs fs' vs)
    (hapart : ∀ rest rest', from' ++ rest ≠ fs.named target ++ rest') {names : List String}
    (hne : names ≠ []) {content : List UInt8} (hcontent : fs.content? (from' ++ names) = some content) :
    fs'.follow (target.below names) = .ok (fs.named target ++ names) ∧
      fs'.content? (fs.named target ++ names) = some content := by
  obtain ⟨v, hv, rfl, -⟩ := h.covers names .file
    (FileSystem.isFile_iff_content?.2 ⟨content, hcontent⟩)
  obtain ⟨entry, hentry, hfind⟩ := h.mirrors.taken _ (List.mem_map_of_mem hv)
  obtain ⟨hfollow, htarget⟩ := FileSystem.find_eq_ok.1 hfind
  rw [targetOf, Path.join_ofNames _ hne (h.proper v hv)] at hfollow
  refine ⟨hfollow, ?_⟩
  rw [← hcontent, ← h.content? fun _ _ _ => hapart _ _, FileSystem.content?, htarget,
    FileSystem.content?, hentry]

/-- A copy of a directory to a name in another one, from which it is apart.  Every file that was
below the source is where its path below the target leads, with what it held; what all other files
hold has not changed. -/
theorem copyDirectory_copies {copied : Nat} (hname : IsName name) (hsound : fs.IsSound)
    (hbase : fs.foot base = .ok above)
    (hapart : ∀ from', fs.follow source = .ok from' →
      ∀ rest rest', from' ++ rest ≠ above ++ name :: rest')
    (h : (copyDirectory disk source (base.join ⟨name⟩)).run fs = (.ok copied, fs')) :
    (∀ from' names content, fs.follow source = .ok from' → names ≠ [] →
        fs.content? (from' ++ names) = some content →
          fs'.follow ((base.join ⟨name⟩).below names) = .ok (above ++ name :: names) ∧
          fs'.content? (above ++ name :: names) = some content) ∧
      ∀ q, (∀ from' names, fs.follow source = .ok from' → names ≠ [] →
        fs.IsFile (from' ++ names) → q ≠ above ++ name :: names) →
          fs'.content? q = fs.content? q := by
  by_cases hdir : ∃ place mode, fs.find source = .ok (place, .directory mode)
  · obtain ⟨place, mode, hfind⟩ := hdir
    obtain ⟨hfollow, hentry⟩ := FileSystem.find_eq_ok.1 hfind
    have hnamed (rest : List String) :
        fs.named (base.join ⟨name⟩) ++ rest = above ++ name :: rest := by
      rw [FileSystem.named_join_name base hname, FileSystem.named_of_foot hbase,
        List.append_assoc, List.singleton_append]
    have hapart' : ∀ rest rest', place ++ rest ≠ fs.named (base.join ⟨name⟩) ++ rest' := by
      intro rest rest'
      rw [hnamed]
      exact hapart place hfollow rest rest'
    obtain ⟨vs, hcopied, -⟩ := copyDirectory_ok hsound hfind hapart' h
    refine ⟨fun from' names content hfrom hne hcontent => ?_, fun q hq => ?_⟩
    · obtain rfl : place = from' := Except.ok.inj (hfollow.symm.trans hfrom)
      rw [← hnamed]
      exact hcopied.file hapart' hne hcontent
    · refine hcopied.content? fun v hv hkind => ?_
      have hfile : fs.IsFile (place ++ v.names) := by
        rw [FileSystem.isFile_iff_content?, ← hcopied.content? fun _ _ _ => hapart' _ _,
          ← FileSystem.isFile_iff_content?, FileSystem.IsFile, ← hkind]
        exact hcopied.kinds v hv
      -- The root of the copy is a directory.
      have hne : v.names ≠ [] := by
        intro hnil
        rw [hnil, List.append_nil, FileSystem.IsFile, FileSystem.kind?, hentry] at hfile
        cases hfile
      rw [hnamed]
      exact hq place v.names hfollow hne hfile
  · rw [copyDirectory_none fun place mode hfind => hdir ⟨place, mode, hfind⟩] at h
    cases h
    refine ⟨fun from' names content hfrom hne hcontent => ?_, fun _ _ => rfl⟩
    -- Only a directory has files below it.
    obtain ⟨mode, hmode⟩ := hsound.tree.above hne
      (FileSystem.isSome_of_kind? (FileSystem.isFile_iff_content?.2 ⟨content, hcontent⟩))
    exact absurd ⟨from', mode, FileSystem.find_eq_ok.2 ⟨hfrom, hmode⟩⟩ hdir

end Assets

end StaticSite
