/-
  How a directory is copied, visit by visit.

  A copy is a tour of its source in which every visit takes one file or directory over to the
  place below the target that has the same names (`take_file`, `take_directory`).  Nothing else
  changes, but that directories may be new: those that lead to the place, and those that the
  path of the target leads through.  What one visit does, a whole tour does (`tour_mirrors`), as long as
  the target is apart from the source.
-/

import StaticSite.Build.Assets
import StaticSite.Proofs.Builds
import StaticSite.Proofs.Ways

open StaticSite.Path (IsName)

namespace StaticSite

namespace Path

/-- The pieces of a path of names are the names, but a path of no names has one empty piece. -/
theorem split_ofNames {names : List String} (h : ∀ name ∈ names, IsName name) :
    Text.split '/' (ofComponents (names.map .normal)).text = names ∨
      names = [] ∧ Text.split '/' (ofComponents (names.map .normal)).text = [""] := by
  have hsteps : ∀ c ∈ names.map Component.normal, c.IsStep := by
    intro c hc
    obtain ⟨name, hname, rfl⟩ := List.mem_map.1 hc
    exact h name hname
  rcases names with _ | ⟨name, names⟩
  · exact .inr ⟨rfl, by decide⟩
  · left
    have hne : (name :: names).map Component.normal ≠ [] := List.cons_ne_nil _ _
    rw [text_ofComponents hne hsteps, split_slashed hne hsteps, List.map_map]
    exact List.map_id _

/-- A path to which a relative one is joined, piece by piece: slashes at its end do not count. -/
theorem split_join_slashes (base : Path) {rest : Path} (hrest : rest.isAbsolute = false) :
    ∃ front slashes, Text.split '/' (base.join rest).text = front ++ Text.split '/' rest.text ∧
      Text.split '/' base.text = front ++ slashes ∧ (∀ piece ∈ slashes, piece = "") ∧
      (base.join rest).isAbsolute = base.isAbsolute := by
  by_cases hne : base.text = ""
  · obtain ⟨text⟩ := base
    cases hne
    rw [join_empty]
    exact ⟨[], [""], rfl, by decide, by simp, hrest⟩
  · obtain ⟨front, hjoin, hbase⟩ := split_join_of_relative hne hrest
    have habs := isAbsolute_join_of_relative hne hrest
    rcases hbase with hbase | hbase
    · exact ⟨front, [], hjoin, by rw [hbase, List.append_nil], by simp, habs⟩
    · exact ⟨front, [""], hjoin, hbase, by simp, habs⟩

end Path

namespace FileSystem

variable {fs fs' : FileSystem} {target : Path} {names : List String} {q : Place}

/-! ## Ways to what is below a path -/

theorem named_join_ofNames (target : Path) (h : ∀ name ∈ names, IsName name) :
    fs.named (target.join (Path.ofComponents (names.map .normal))) = fs.named target ++ names := by
  obtain ⟨front, slashes, hjoin, htarget, hslashes, habs⟩ :=
    Path.split_join_slashes target (Path.hasNames_ofNames h).relative
  rw [named, named, start, start, hjoin, htarget, habs, List.foldl_append, List.foldl_append,
    foldl_along_slashes hslashes]
  rcases Path.split_ofNames h with hnames | ⟨rfl, hnames⟩
  · rw [hnames, foldl_along_names h]
  · rw [hnames, List.append_nil]
    rfl

theorem named_join_name (base : Path) {name : String} (h : IsName name) :
    fs.named (base.join ⟨name⟩) = fs.named base ++ [name] := by
  have hnames : Path.ofComponents (List.map .normal [name]) = ⟨name⟩ := Path.join_empty _
  rw [← named_join_ofNames base (List.forall_mem_singleton.2 h), hnames]

/-- The way to names below a path is its own way, and from there down by the names. -/
theorem mem_way_join_ofNames (h : ∀ name ∈ names, IsName name)
    (hq : q ∈ fs.way (target.join (Path.ofComponents (names.map .normal)))) :
    q ∈ fs.way target ∨ ∃ front, front <+: names ∧ q = fs.named target ++ front := by
  obtain ⟨front, slashes, hjoin, htarget, hslashes, habs⟩ :=
    Path.split_join_slashes target (Path.hasNames_ofNames h).relative
  have hstart : fs.start (target.join (Path.ofComponents (names.map .normal))) = fs.start target := by
    rw [start, start, habs]
  have hnamed : front.foldl along (fs.start target) = fs.named target := by
    rw [named, htarget, List.foldl_append, foldl_along_slashes hslashes]
  obtain ⟨pieces, hpieces, rfl⟩ := mem_way.1 hq
  rw [hjoin] at hpieces
  rw [hstart]
  -- The pieces end before the names, or among them.
  rcases prefix_append_cases hpieces with hbefore | ⟨down, hdown, rfl⟩
  · left
    refine mem_way.2 ⟨pieces, ?_, rfl⟩
    rw [htarget]
    exact hbefore.trans (List.prefix_append front slashes)
  · right
    rw [List.foldl_append, hnamed]
    rcases Path.split_ofNames h with hnames | ⟨rfl, hnames⟩
    · rw [hnames] at hdown
      exact ⟨down, hdown, foldl_along_names (fun name hname => h name (hdown.subset hname)) _⟩
    · rw [hnames] at hdown
      refine ⟨[], List.nil_prefix, ?_⟩
      rw [List.append_nil]
      exact foldl_along_slashes (fun piece hpiece => List.mem_singleton.1 (hdown.subset hpiece)) _

end FileSystem

open FileSystem (disk evolving)

namespace Assets

/-! ## Steps of a copy as steps of a machine -/

/-- Copies run on a file system. -/
def machine : Machine (ExceptT FileError (StateM FileSystem)) FileSystem FileError where
  files fs := fs
  run x fs := x.run.run fs
  run_pure _ _ := rfl
  run_bind x f fs := by
    have hrun : (x >>= f).run.run fs
      = (ExceptT.bindCont f (x.run.run fs).1).run (x.run.run fs).2 := rfl
    rw [hrun]
    rcases x.run.run fs with ⟨_ | a, fs₁⟩ <;> rfl
  run_asking _ _ := rfl

theorem keeps_mk {α : Type} {x : StateM FileSystem (Except FileError α)} (h : evolving.Keeps x) :
    machine.Keeps (ExceptT.mk x) := h

/-! ## One visit -/

/-- The path below the target to which a visit takes over what it finds. -/
def targetOf (target : Path) (names : List String) : Path :=
  target.join (Path.ofComponents (names.map .normal))

variable {source target : Path} {fs fs₁ fs' : FileSystem} {from' : Place} {names : List String}

theorem take_keeps (e : Walked) : machine.Keeps (take disk source target e) := by
  unfold take
  split
  · exact .bind (keeps_mk (FileSystem.Evolving.makeDirectories _)) fun _ =>
      .bind (keeps_mk (FileSystem.Evolving.copyMode _ _)) fun _ => .pure _
  · exact .bind (keeps_mk (FileSystem.Evolving.copyFile _ _)) fun _ =>
      .bind (keeps_mk (FileSystem.Evolving.copyMode _ _)) fun _ => .pure _

/-- A visit below the source takes over to the same names below the target. -/
theorem target_of_below (target : Path) (hnames : ∀ name ∈ names, IsName name) :
    target.join (((source.below names).stripPrefix? source).getD (source.below names))
      = targetOf target names := by
  rw [Path.stripPrefix?_of_append (Path.components_below source hnames)]
  rfl

/-- Where a visit takes over what it finds, if there is anything to find there. -/
theorem place_of_targetOf {place : Place} (hcurrent : fs'.current = fs.current)
    (hnames : ∀ name ∈ names, IsName name) (h : fs'.foot (targetOf target names) = .ok place) :
    fs.named target ++ names = place := by
  rw [← FileSystem.named_join_ofNames target hnames, ← FileSystem.named_congr hcurrent]
  exact FileSystem.named_of_foot h

theorem take_directory_ok (hnames : ∀ name ∈ names, IsName name) {found : List Path}
    (h : machine.run (take disk source target ⟨source.below names, .directory⟩) fs
      = (.ok found, fs')) :
    ∃ fs₁, (disk.makeDirectories (targetOf target names)).run fs = (.ok (), fs₁) ∧
      fs₁.copyMode (source.below names) (targetOf target names) = .ok fs' ∧ found = [] := by
  unfold take at h
  dsimp only at h
  rw [target_of_below target hnames] at h
  obtain ⟨⟨⟩, fs₁, hmade, h⟩ := machine.ok_of_bind h
  obtain ⟨⟨⟩, fs₂, hmode, h⟩ := machine.ok_of_bind h
  cases h
  exact ⟨fs₁, hmade, FileSystem.changing_eq_ok hmode, rfl⟩

theorem take_file_ok (hnames : ∀ name ∈ names, IsName name) {found : List Path}
    (h : machine.run (take disk source target ⟨source.below names, .file⟩) fs = (.ok found, fs')) :
    ∃ fs₁, fs.copyFile (source.below names) (targetOf target names) = .ok fs₁ ∧
      fs₁.copyMode (source.below names) (targetOf target names) = .ok fs' ∧
      found = [targetOf target names] := by
  unfold take at h
  dsimp only at h
  rw [target_of_below target hnames] at h
  obtain ⟨⟨⟩, fs₁, hcopied, h⟩ := machine.ok_of_bind h
  obtain ⟨⟨⟩, fs₂, hmode, h⟩ := machine.ok_of_bind h
  cases h
  exact ⟨fs₁, FileSystem.changing_eq_ok hcopied, FileSystem.changing_eq_ok hmode, rfl⟩

/-! ## What visits leave behind -/

/-- Whether a place is on the way to what a tour takes over. -/
def LeadsTo (fs : FileSystem) (target : Path) (tour : List (List String)) (q : Place) : Prop :=
  q ∈ fs.way target ∨ ∃ names ∈ tour, ∃ front, front <+: names ∧ q = fs.named target ++ front

theorem LeadsTo.mono {tour tour' : List (List String)} {q : Place} (h : LeadsTo fs target tour q)
    (hsub : tour ⊆ tour') : LeadsTo fs target tour' q := by
  rcases h with hway | ⟨names, hmem, hfront⟩
  · exact .inl hway
  · exact .inr ⟨names, hsub hmem, hfront⟩

theorem leadsTo_congr {tour : List (List String)} {q : Place} (h : fs'.current = fs.current) :
    LeadsTo fs' target tour q ↔ LeadsTo fs target tour q := by
  rw [LeadsTo, LeadsTo, FileSystem.way_congr h, FileSystem.named_congr h]

/-- What visits leave behind, told by the names of the places that they went to.  Each of them is
below the target what it is below the source.  All else is as before, but for new directories that
lead there. -/
structure Mirrors (target : Path) (from' : Place) (fs fs' : FileSystem)
    (tour : List (List String)) : Prop where
  taken : ∀ names ∈ tour, ∃ entry, fs'.entry? (from' ++ names) = some entry ∧
    fs'.find (targetOf target names) = .ok (fs.named target ++ names, entry)
  others : ∀ q, (∀ names ∈ tour, q ≠ fs.named target ++ names) → fs'.entry? q = fs.entry? q ∨
    fs.entry? q = none ∧ fs'.entry? q = some (.directory FileSystem.directoryMode) ∧
      LeadsTo fs target tour q

namespace Mirrors

variable {tour tour' : List (List String)}

theorem nil (target : Path) (from' : Place) (fs : FileSystem) : Mirrors target from' fs fs [] where
  taken := fun _ h => absurd h List.not_mem_nil
  others := fun _ _ => .inl rfl

/-- What is not in the way of a visit stays. -/
theorem kept (h : Mirrors target from' fs fs' tour) {q : Place} {entry : Entry}
    (hq : ∀ names ∈ tour, q ≠ fs.named target ++ names) (hentry : fs.entry? q = some entry) :
    fs'.entry? q = some entry := by
  rcases h.others q hq with heq | ⟨hnone, -⟩
  · rw [heq, hentry]
  · rw [hentry] at hnone
    cases hnone

/-- Visits to other places later on change nothing of what earlier ones have left behind. -/
theorem append (h : Mirrors target from' fs fs₁ tour) (h' : Mirrors target from' fs₁ fs' tour')
    (hcurrent : fs₁.current = fs.current) (hevolved : FileSystem.Evolved fs₁ fs')
    (hapart : ∀ rest rest', from' ++ rest ≠ fs.named target ++ rest')
    (hdisjoint : ∀ names ∈ tour, names ∉ tour') : Mirrors target from' fs fs' (tour ++ tour') := by
  have hnamed : fs₁.named target = fs.named target := FileSystem.named_congr hcurrent target
  constructor
  case taken =>
    intro names hmem
    rcases List.mem_append.1 hmem with hmem | hmem
    · obtain ⟨entry, hentry, hfind⟩ := h.taken names hmem
      obtain ⟨hfollow, htarget⟩ := FileSystem.find_eq_ok.1 hfind
      have hsource' : fs'.entry? (from' ++ names) = some entry := by
        apply h'.kept _ hentry
        intro names' _
        rw [hnamed]
        exact hapart names names'
      have htarget' : fs'.entry? (fs.named target ++ names) = some entry := by
        apply h'.kept _ htarget
        intro names' hmem' heq
        rw [hnamed] at heq
        exact hdisjoint names hmem (List.append_cancel_left heq ▸ hmem')
      exact ⟨entry, hsource', FileSystem.find_eq_ok.2 ⟨hevolved.follow hfollow, htarget'⟩⟩
    · rw [← hnamed]
      exact h'.taken names hmem
  case others =>
    intro q hq
    obtain ⟨hq, hq'⟩ := List.forall_mem_append.1 hq
    rcases h'.others q (by rwa [hnamed]) with heq | ⟨hnone, hnew, hlead⟩
    · rw [heq]
      rcases h.others q hq with heq | ⟨hnone, hnew, hlead⟩
      · exact .inl heq
      · exact .inr ⟨hnone, hnew, hlead.mono (List.subset_append_left tour tour')⟩
    · -- What is new only now was not there at first.
      rcases h.others q hq with heq | ⟨-, hnew₁, -⟩
      · rw [heq] at hnone
        have hlead' := (leadsTo_congr hcurrent).1 hlead
        exact .inr ⟨hnone, hnew, hlead'.mono (List.subset_append_right tour tour')⟩
      · rw [hnone] at hnew₁
        cases hnew₁

end Mirrors

/-! ## A visit and a tour -/

section Visits

variable (hsource : fs.foot source = .ok from')
  (hapart : ∀ rest rest', from' ++ rest ≠ fs.named target ++ rest')
include hsource hapart

/-- The last step of a visit.  By then the entry is in its place, up to its mode. -/
theorem mirrors_of_copyMode (hevolved : FileSystem.Evolved fs fs₁)
    (hnames : ∀ name ∈ names, IsName name)
    (hplaced : ∀ entry old, fs₁.entry? (from' ++ names) = some entry →
      fs₁.entry? (fs.named target ++ names) = some old → old.withMode entry.mode = entry)
    (hothers : ∀ q, q ≠ fs.named target ++ names → fs₁.entry? q = fs.entry? q ∨
      fs.entry? q = none ∧ fs₁.entry? q = some (.directory FileSystem.directoryMode) ∧
        LeadsTo fs target [names] q)
    (h : fs₁.copyMode (source.below names) (targetOf target names) = .ok fs') :
    Mirrors target from' fs fs' [names] := by
  obtain ⟨place, entry, target', old, hfound, htarget, rfl⟩ := FileSystem.copyMode_eq_put h
  obtain ⟨hfollow, hentry⟩ := FileSystem.find_eq_ok.1 hfound
  obtain ⟨hfollow', hold⟩ := FileSystem.find_eq_ok.1 htarget
  obtain rfl := FileSystem.follow_below (hevolved.foot hsource) hnames hfollow
  obtain rfl := place_of_targetOf hevolved.current hnames (FileSystem.foot_of_follow hfollow')
  -- Only the mode is new, so the path leads where it led before.
  have hevolved' : FileSystem.Evolved fs₁
      (fs₁.put (fs.named target ++ names) (old.withMode entry.mode)) := by
    refine FileSystem.evolved_put fun old' hold' => ?_
    rw [hold] at hold'
    cases hold'
    cases old <;> rfl
  have hfollow' := hevolved'.follow hfollow'
  rw [hplaced entry old hentry hold] at hfollow' ⊢
  have hroot : fs.named target ++ names ≠ [] := by
    intro hnil
    apply hapart [] from'
    rw [(List.append_eq_nil_iff.1 hnil).1, List.append_nil, List.nil_append]
  refine ⟨List.forall_mem_singleton.2 ⟨entry, ?_, ?_⟩, fun q hq => ?_⟩
  · rw [FileSystem.entry?_put_of_ne (hapart names names)]
    exact hentry
  · exact FileSystem.find_eq_ok.2 ⟨hfollow', FileSystem.entry?_put_self hroot entry⟩
  · have hq := hq names (List.mem_singleton_self names)
    rw [FileSystem.entry?_put_of_ne hq]
    exact hothers q hq

/-- A file is written anew, and nothing else changes. -/
theorem take_file (hnames : ∀ name ∈ names, IsName name) {found : List Path}
    (h : machine.run (take disk source target ⟨source.below names, .file⟩) fs = (.ok found, fs')) :
    found.length = 1 ∧ Mirrors target from' fs fs' [names] := by
  obtain ⟨fs₁, hcopied, hmode, rfl⟩ := take_file_ok hnames h
  obtain ⟨place, content, mode, target', hfound, htarget, hroot, hold, rfl⟩ :=
    FileSystem.copyFile_eq_put hcopied
  obtain ⟨hfollow, hentry⟩ := FileSystem.find_eq_ok.1 hfound
  obtain rfl := FileSystem.follow_below hsource hnames hfollow
  obtain rfl := place_of_targetOf rfl hnames (FileSystem.foot_of_follow htarget)
  -- The file is not copied onto itself, which would leave it empty.
  rw [if_neg (hapart names names)] at hmode
  have hevolved : FileSystem.Evolved fs (fs.put (fs.named target ++ names) (.file content mode)) :=
    FileSystem.evolved_put fun old hentry => (hold old hentry).symm
  refine ⟨rfl, mirrors_of_copyMode hsource hapart hevolved hnames ?_ ?_ hmode⟩
  · intro entry old hentry' hold'
    rw [FileSystem.entry?_put_of_ne (hapart names names), hentry] at hentry'
    rw [FileSystem.entry?_put_self hroot] at hold'
    cases hentry'
    cases hold'
    rfl
  · intro q hq
    exact .inl (FileSystem.entry?_put_of_ne hq _)

/-- A directory is made where none is, and gets its mode; all that is new leads to it. -/
theorem take_directory (hsound : fs.IsSound) (hnames : ∀ name ∈ names, IsName name)
    (hthere : fs.kind? (from' ++ names) = some .directory) {found : List Path}
    (h : machine.run (take disk source target ⟨source.below names, .directory⟩) fs
      = (.ok found, fs')) : found = [] ∧ Mirrors target from' fs fs' [names] := by
  obtain ⟨fs₁, hmade, hmode, rfl⟩ := take_directory_ok hnames h
  have hevolved := (FileSystem.Evolving.makeDirectories (targetOf target names) fs hsound).2
  have hgrown := (FileSystem.makesDirectories_makeDirectories (targetOf target names) fs hsound.tree).2
  rw [hmade] at hevolved hgrown
  obtain ⟨place, hfoot, mode, hdir⟩ := FileSystem.foot_of_makeDirectories hsound hmade
  obtain rfl := place_of_targetOf hevolved.current hnames hfoot
  refine ⟨rfl, mirrors_of_copyMode hsource hapart hevolved hnames ?_ ?_ hmode⟩
  · -- Both are directories, and then the mode is all that there is.
    intro entry old hentry hold
    obtain ⟨mode', hmode'⟩ := FileSystem.isDirectory_iff.2 (hevolved.kinds _ _ hthere)
    rw [hentry] at hmode'
    rw [hold] at hdir
    cases hmode'
    cases hdir
    rfl
  · intro q _
    rcases hgrown.entries q with heq | ⟨hnone, entry, hnew, rfl⟩
    · exact .inl heq
    · right
      have hway := FileSystem.makeDirectories_way hsound.tree hmade hnone (by rw [hnew]; rfl)
      refine ⟨hnone, hnew, ?_⟩
      rcases FileSystem.mem_way_join_ofNames hnames hway with hway | hfront
      · exact .inl hway
      · exact .inr ⟨names, List.mem_singleton_self names, hfront⟩

/-- A tour takes over all that it visits, and yields the files. -/
theorem tour_mirrors (hsound : fs.IsSound) {vs : List (Visit Path)}
    (h : machine.Tour (take disk source target) source from' fs vs fs')
    (hnames : ∀ v ∈ vs, ∀ name ∈ v.names, IsName name) (hdistinct : (vs.map (·.names)).Nodup) :
    (vs.flatMap (·.found)).length = vs.countP (·.kind == .file) ∧
      Mirrors target from' fs fs' (vs.map (·.names)) := by
  induction h with
  | done fs => exact ⟨rfl, .nil target from' fs⟩
  | @visit fs fs₁ fs' v vs there ran rest ih =>
    obtain ⟨hnew, hdistinct⟩ := List.nodup_cons.1 hdistinct
    obtain ⟨hproper, hnames⟩ := List.forall_mem_cons.1 hnames
    obtain ⟨hsound₁, hevolved₁⟩ := (take_keeps _).evolved hsound ran
    have hnamed : fs₁.named target = fs.named target := FileSystem.named_congr hevolved₁.current target
    obtain ⟨hlength, hrest⟩ := ih (hevolved₁.foot hsource) (by rwa [hnamed]) hsound₁ hnames hdistinct
    have hfirst : v.found.length = (if v.kind == .file then 1 else 0) ∧
        Mirrors target from' fs fs₁ [v.names] := by
      obtain ⟨names, kind, found⟩ := v
      cases kind with
      | directory =>
        obtain ⟨hfound, hmirrors⟩ := take_directory hsource hapart hsound hproper there ran
        exact ⟨congrArg List.length hfound, hmirrors⟩
      | file => exact take_file hsource hapart hproper ran
    refine ⟨?_, ?_⟩
    · rw [List.flatMap_cons, List.length_append, hlength, hfirst.1, List.countP_cons, Nat.add_comm]
    · refine hfirst.2.append hrest hevolved₁.current (rest.evolved take_keeps hsound₁).2 hapart ?_
      exact List.forall_mem_singleton.2 hnew

end Visits

/-! ## The whole copy -/

theorem copyDirectory_run (source target : Path) (fs : FileSystem) :
    (copyDirectory disk source target).run fs =
      match fs.find source with
      | .ok (_, .directory _) =>
        let ran := machine.run (disk.walk (fun path cause => throw (walkError path cause))
          (take disk source target) source) fs
        (ran.1.map (·.length), ran.2)
      | _ => (.ok 0, fs) := by
  have hthere : (disk.isDirectory source).run fs = _ := FileSystem.isDirectory_run fs source
  rw [copyDirectory, FileSystem.run_bind, hthere]
  rcases fs.find source with _ | ⟨_, _ | _⟩ <;> rfl

theorem walk_fails (path : Path) (cause : FileError) (fs : FileSystem) :
    ∃ e, machine.run (throw (walkError path cause) :
      ExceptT FileError (StateM FileSystem) (List Path)) fs = (.error e, fs) := ⟨_, rfl⟩

/-- What is no directory has nothing to copy. -/
theorem copyDirectory_none (h : ∀ place mode, fs.find source ≠ .ok (place, .directory mode)) :
    (copyDirectory disk source target).run fs = (.ok 0, fs) := by
  rw [copyDirectory_run]
  split
  · next place mode hfind => exact absurd hfind (h place mode)
  · rfl

/-- A copy of a directory that comes to its end is a tour of all that is at or below it. -/
theorem copyDirectory_tour (hsound : fs.IsSound) {mode copied : Nat}
    (hfind : fs.find source = .ok (from', .directory mode))
    (h : (copyDirectory disk source target).run fs = (.ok copied, fs')) :
    ∃ vs, machine.Tour (take disk source target) source from' fs vs fs' ∧
      Machine.Apart [[]] (vs.map (·.names)) ∧ machine.Covers fs from' [[]] vs ∧
      copied = (vs.flatMap (·.found)).length := by
  have hfollow := (FileSystem.find_eq_ok.1 hfind).1
  rw [copyDirectory_run, hfind] at h
  have htold := machine.walk_tells source (@take_keeps source target) walk_fails (s := fs) hsound
  generalize machine.run (disk.walk _ _ _) _ = ran at h htold
  obtain ⟨_ | found, fs₁⟩ := ran
  · cases h
  · cases h
    rcases htold with ⟨_, _, _, herror⟩ | ⟨place, hplace, vs, htour, hapart, hcovers, rfl⟩
    · cases herror
    · have hplace : fs.follow source = .ok place := hplace
      obtain rfl : from' = place := Except.ok.inj (hfollow.symm.trans hplace)
      exact ⟨vs, htour, hapart, hcovers, rfl⟩

/-- A copy that comes to its end takes nothing away. -/
theorem copyDirectory_evolved (hsound : fs.IsSound) {copied : Nat}
    (h : (copyDirectory disk source target).run fs = (.ok copied, fs')) :
    fs'.IsSound ∧ FileSystem.Evolved fs fs' := by
  by_cases hdir : ∃ place mode, fs.find source = .ok (place, .directory mode)
  · obtain ⟨place, mode, hfind⟩ := hdir
    obtain ⟨vs, htour, -⟩ := copyDirectory_tour hsound hfind h
    exact htour.evolved take_keeps hsound
  · rw [copyDirectory_none fun place mode hfind => hdir ⟨place, mode, hfind⟩] at h
    cases h
    exact ⟨hsound, .refl _⟩

/-- What a tour has copied: all that was at or below the source when it started, each place once. -/
structure Copied (target : Path) (from' : Place) (fs fs' : FileSystem) (vs : List (Visit Path)) :
    Prop where
  mirrors : Mirrors target from' fs fs' (vs.map (·.names))
  evolved : FileSystem.Evolved fs fs'
  kinds : ∀ v ∈ vs, fs'.kind? (from' ++ v.names) = some v.kind
  covers : ∀ names kind, fs.kind? (from' ++ names) = some kind →
    ∃ v ∈ vs, v.names = names ∧ v.kind = kind
  proper : ∀ v ∈ vs, ∀ name ∈ v.names, IsName name
  distinct : (vs.map (·.names)).Nodup

/-- A copy to a target that is apart has copied all that was there, and counts the files. -/
theorem copyDirectory_ok (hsound : fs.IsSound) {mode copied : Nat}
    (hfind : fs.find source = .ok (from', .directory mode))
    (hapart : ∀ rest rest', from' ++ rest ≠ fs.named target ++ rest')
    (h : (copyDirectory disk source target).run fs = (.ok copied, fs')) :
    ∃ vs, Copied target from' fs fs' vs ∧ copied = vs.countP (·.kind == .file) := by
  obtain ⟨vs, htour, hvisits, hcovers, rfl⟩ := copyDirectory_tour hsound hfind h
  have hfoot := FileSystem.foot_of_follow (FileSystem.find_eq_ok.1 hfind).1
  have hproper : ∀ v ∈ vs, ∀ name ∈ v.names, IsName name := fun v hv =>
    hvisits.isName (List.mem_map_of_mem hv)
  obtain ⟨hlength, hmirrors⟩ := tour_mirrors hfoot hapart hsound htour hproper hvisits.distinct
  refine ⟨vs, ?_, hlength⟩
  exact {
    mirrors := hmirrors
    evolved := (htour.evolved take_keeps hsound).2
    kinds := htour.kinds take_keeps hsound
    covers := hcovers [] (List.mem_singleton_self _)
    proper := hproper
    distinct := hvisits.distinct }

end Assets

end StaticSite
