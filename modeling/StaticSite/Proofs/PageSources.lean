/-
  What a build takes for its pages.

  The walk lists a directory when it gets there, so files that the build itself has made by
  then are taken for pages too: an output directory inside the pages directory is input in the
  same build (`Site.output_is_input`).  Every page that was there when the build started is
  compiled, each once, and any other one is an output or a stub of an earlier page
  (`Site.compile_pages`).  The walk always ends: paths get longer with each level and
  are bounded, so the bound on the levels is never what stops it.
-/

import StaticSite.Proofs.Outputs

open StaticSite.Path (IsName)

namespace StaticSite

open FileSystem (disk)
open BuildM (machine)

namespace FileSystem

variable {fs fs' : FileSystem}

/-! ## Files that are made -/

theorem Grown.isFile (h : Grown IsNewDirectory fs fs') {place : Place} (hfile : fs'.IsFile place) :
    fs.IsFile place := by
  rw [isFile_iff_content?] at hfile ⊢
  rwa [← h.content?_eq]

/-- A file that is there after a write was there before, or it is the one that was written. -/
theorem writeBytes_isFile (h : fs.IsSound) {path : Path} {content : List UInt8}
    (hwrite : fs.writeBytes path content = .ok fs') {place : Place} (hfile : fs'.IsFile place) :
    fs.IsFile place ∨ fs'.follow path = .ok place := by
  have hevolved := (writeBytes_evolved h hwrite).2
  obtain ⟨written, mode, hfollow, -, rfl, -⟩ := writeBytes_eq_ok hwrite
  -- A write puts one file, and leaves what is at any other place.
  by_cases hplace : place = written
  · exact .inr (hevolved.follow (hplace ▸ hfollow))
  · rw [isFile_iff_content?, content?_put_of_ne hplace] at hfile
    exact .inl (isFile_iff_content?.2 hfile)

/-- The only file that a stub brings is written once its directories are there. -/
theorem write_after_isFile {path : Path} {x : StateM FileSystem (Except FileError Unit)}
    (hsound : (x.run fs).2.IsSound) (hgrown : Grown IsNewDirectory fs (x.run fs).2)
    (hrun : (x >>= fun made => match made with
      | .error cause => return .error cause
      | .ok () => disk.write path "").run fs = (.ok (), fs')) {place : Place}
    (hfile : fs'.IsFile place) : fs.IsFile place ∨ fs'.follow path = .ok place := by
  rw [run_bind] at hrun
  cases hmade : (x.run fs).1 with
  | error cause =>
    rw [hmade] at hrun
    cases hrun
  | ok _ =>
    rw [hmade] at hrun
    dsimp only at hrun
    rw [write_empty_run] at hrun
    cases hwrite : (x.run fs).2.writeBytes path [] with
    | error cause =>
      rw [hwrite] at hrun
      cases hrun
    | ok fs₁ =>
      rw [hwrite] at hrun
      cases hrun
      exact (writeBytes_isFile hsound hwrite hfile).imp_left hgrown.isFile

/-- Making a stub makes no file but the stub. -/
theorem create_isFile (h : fs.IsSound) {path : Path}
    (hcreate : (Stub.create disk path).run fs = (.ok (), fs')) {place : Place}
    (hfile : fs'.IsFile place) : fs.IsFile place ∨ fs'.follow path = .ok place := by
  unfold Stub.create at hcreate
  split at hcreate
  · next parent _ =>
    exact write_after_isFile (Evolving.makeDirectories parent fs h).1
      (makesDirectories_makeDirectories parent fs h.tree).2 hcreate hfile
  · exact @write_after_isFile fs fs' path (pure (.ok ())) h (.refl fs) hcreate place hfile

/-- Making stubs makes no file but the stubs. -/
theorem createMissing_isFile (h : fs.IsSound) {paths stubs : List Path}
    (hmade : (Stub.createMissing disk paths).run fs = (.ok stubs, fs')) {place : Place}
    (hfile : fs'.IsFile place) : fs.IsFile place ∨ ∃ stub ∈ stubs, fs'.follow stub = .ok place := by
  induction paths generalizing fs stubs with
  | nil =>
    cases hmade
    exact .inl hfile
  | cons path rest ih =>
    rw [createMissing_cons_run] at hmade
    split at hmade
    · exact ih h hmade
    · have hcreated := Evolving.create path fs h
      rcases hcreate : (Stub.create disk path).run fs with ⟨_ | _, fs₁⟩
      · rw [hcreate] at hmade
        cases hmade
      · rw [hcreate] at hmade hcreated
        dsimp only at hmade hcreated
        have hrest := Evolving.createMissing rest fs₁ hcreated.1
        rcases hrun : (Stub.createMissing disk rest).run fs₁ with ⟨_ | made, fs₂⟩
        · rw [hrun] at hmade
          cases hmade
        · rw [hrun] at hmade hrest
          cases hmade
          obtain hfile₁ | ⟨stub, hstub, hfollow⟩ := ih hcreated.1 hrun
          · obtain hold | hfollow := create_isFile h hcreate hfile₁
            · exact .inl hold
            · exact .inr ⟨path, List.mem_cons_self, hrest.2.follow hfollow⟩
          · exact .inr ⟨stub, List.mem_cons_of_mem _ hstub, hfollow⟩

end FileSystem

namespace Site

variable {project : Project} {output : Path} {s s₁ s' : Session × FileSystem} {place q : Place}
  {ps : List Finished}

/-! ## Files that a page brings -/

/-- Whether a page has a place for its output or for one of its stubs. -/
def Makes (project : Project) (output : Path) (fs : FileSystem) (path : Path)
    (compiled : CompiledPage) (place : Place) : Prop :=
  fs.follow (summaryOf project output path compiled).output = .ok place ∨
    ∃ stub ∈ compiled.stubs, fs.follow stub = .ok place

theorem Makes.evolved {fs fs' : FileSystem} {path : Path} {compiled : CompiledPage}
    (h : Makes project output fs path compiled place) (hevolved : FileSystem.Evolved fs fs') :
    Makes project output fs' path compiled place := by
  obtain houtput | ⟨stub, hstub, hfollow⟩ := h
  · exact .inl (hevolved.follow houtput)
  · exact .inr ⟨stub, hstub, hevolved.follow hfollow⟩

/-- A page that is finished brings no files but its output and its stubs. -/
theorem Finishes.isFile {path : Path} {compiled : CompiledPage} (hsound : s.2.IsSound)
    (h : Finishes project output s path compiled s') (hfile : s'.2.IsFile q) :
    s.2.IsFile q ∨ Makes project output s'.2 path compiled q := by
  obtain ⟨s₁, s₂, hcompiled, hwritten, rfl⟩ := h
  obtain ⟨hsound₁, -⟩ := BuildM.evolved_of_keeps (compileAt_keeps project path) hsound hcompiled
  obtain ⟨-, hevolved₂⟩ := BuildM.evolved_of_keeps (writePage_keeps _ _) hsound₁ hwritten
  obtain ⟨paths, -, hstubs⟩ := compileAt_stubs project hcompiled
  obtain ⟨fs, _, _, hsound', hdirs, hbytes, -⟩ := writePage_ok hsound₁ hwritten
  -- Read backwards: the output was written last, its directories before it, the stubs first.
  obtain hfile | houtput := FileSystem.writeBytes_isFile hsound' hbytes hfile
  · obtain hold | ⟨stub, hstub, hfollow⟩ :=
      FileSystem.createMissing_isFile hsound hstubs (hdirs.isFile hfile)
    · exact .inl hold
    · exact .inr (.inr ⟨stub, hstub, hevolved₂.follow hfollow⟩)
  · exact .inr (.inl houtput)

/-- Pages that are finished bring no files but their outputs and stubs. -/
theorem Builds.isFile (h : Builds project output place s ps s') (hsound : s.2.IsSound)
    (hfile : s'.2.IsFile q) :
    s.2.IsFile q ∨ ∃ p ∈ ps, Makes project output s'.2 (p.source project) p.compiled q := by
  induction h with
  | done => exact .inl hfile
  | @page s s₁ s' p ps there isPage finishes rest ih =>
    obtain ⟨hsound₁, -⟩ := finishes.evolved hsound
    obtain hfile₁ | ⟨r, hr, hmakes⟩ := ih hsound₁ hfile
    · obtain hold | hmakes := finishes.isFile hsound hfile₁
      · exact .inl hold
      · exact .inr ⟨p, List.mem_cons_self, hmakes.evolved (rest.evolved hsound₁).2⟩
    · exact .inr ⟨r, List.mem_cons_of_mem _ hr, hmakes⟩

/-- A page was a file when its turn came. -/
theorem Builds.split {before after : List Finished} {p : Finished}
    (h : Builds project output place s (before ++ p :: after) s') :
    ∃ s₁, Builds project output place s before s₁ ∧ s₁.2.IsFile (place ++ p.names) ∧
      isPage ⟨p.source project, .file⟩ = true ∧ Builds project output place s₁ (p :: after) s' := by
  induction before generalizing s with
  | nil =>
    cases h with
    | page there isPage finishes rest =>
      exact ⟨s, .done s, there, isPage, .page there isPage finishes rest⟩
  | cons first before ih =>
    cases h with
    | page there isPage finishes rest =>
      obtain ⟨s₁, hbefore, hfile, hpage, hafter⟩ := ih rest
      exact ⟨s₁, .page there isPage finishes hbefore, hfile, hpage, hafter⟩

/-! ## The levels of the walk -/

/-- The walk over the pages, if it may go down some number of levels. -/
def walkWithin (project : Project) (output : Path) (levels : Nat) :
    BuildM (StateM FileSystem) (List (PageSummary × List Path)) :=
  (liftM (disk.kind (pagesOf project)) : BuildM (StateM FileSystem) (Except FileError EntryKind))
    >>= fun found => match found with
      | .error cause => throw (.walk (pagesOf project) cause)
      | .ok kind => disk.walkFrom (fun path cause => throw (.walk path cause))
          (buildPage project disk (pagesOf project) output) levels (pagesOf project) kind

/-- A build whose walk may go down some number of levels. -/
def compileWithin (project : Project) (output : Path) (levels : Nat) :
    BuildM (StateM FileSystem) Summary :=
  BuildM.attempt (.write output) (disk.makeDirectories output) >>= fun _ =>
    walkWithin project output levels >>= finish project output

theorem compileWithin_maxLevels :
    compileWithin project output Disk.maxLevels = compile project disk output := rfl

theorem walkWithin_eq {levels : Nat} (h : Disk.maxLevels ≤ levels) (hsound : s.2.IsSound) :
    machine.run (walkWithin project output levels) s
      = machine.run (walkWithin project output Disk.maxLevels) s := by
  have hkind : machine.run (liftM (disk.kind (pagesOf project))) s
      = (.ok ((s.2.find (pagesOf project)).map fun found => found.2.kind), s) :=
    machine.run_asking _ s
  rw [walkWithin, walkWithin, machine.run_bind, machine.run_bind, hkind]
  cases s.2.find (pagesOf project) with
  | error cause => rfl
  | ok found =>
    exact Machine.walkFrom_beyond buildPage_keeps walk_fails _ (Machine.isBeyond_maxLevels h _)
      (Machine.isBeyond_maxLevels (Nat.le_refl _) _) hsound

/-- More levels than a walk may go down make no difference to any build. -/
theorem compileWithin_eq {levels : Nat} (h : Disk.maxLevels ≤ levels) (hsound : s.2.IsSound) :
    machine.run (compileWithin project output levels) s
      = machine.run (compile project disk output) s := by
  have hkept := FileSystem.Evolving.makeDirectories output s.2 hsound
  rw [← compileWithin_maxLevels, compileWithin, compileWithin, machine.run_bind, machine.run_bind,
    BuildM.machine_attempt]
  rcases hmade : (disk.makeDirectories output).run s.2 with ⟨_ | _, fs⟩
  · rfl
  · rw [hmade] at hkept
    have hsound₁ : fs.IsSound := hkept.1
    dsimp only [Except.mapError]
    rw [machine.run_bind, machine.run_bind, walkWithin_eq (s := (s.1, fs)) h hsound₁]

/-! ## The pages of a build -/

/-- Which pages a build compiles.  All files with the extension `html` that were below the pages
directory when it started, each once; any other one was not there then, and is the output or a
stub of an earlier page of the same build.  The build always ends: however many more levels its
walk may go down, it does the same. -/
theorem compile_pages (hsound : s.2.IsSound) :
    (∀ (summary : Summary) (s' : Session × FileSystem),
      machine.run (compile project disk output) s = (.ok summary, s') →
      ∃ fs place ps s₁, Completes project output s fs place ps s₁ summary s' ∧
        (ps.map (·.names)).Nodup ∧
        (∀ names, s.2.IsFile (place ++ names) →
          isPage ⟨(pagesOf project).below names, .file⟩ → names ∈ ps.map (·.names)) ∧
        ∀ before p after, ps = before ++ p :: after → isPage ⟨p.source project, .file⟩ ∧
          (s.2.IsFile (place ++ p.names) ∨ s.2.kind? (place ++ p.names) = none ∧
            ∃ q ∈ before, Makes project output s'.2 (q.source project) q.compiled
              (place ++ p.names))) ∧
      ∀ levels, Disk.maxLevels ≤ levels → machine.run (compileWithin project output levels) s
        = machine.run (compile project disk output) s := by
  refine ⟨fun summary s' h => ?_, fun levels hlevels => compileWithin_eq hlevels hsound⟩
  obtain ⟨fs, place, ps, s₁, hcompletes, hapart, hcovers⟩ := compile_ok hsound h
  obtain ⟨hmade, hevolved⟩ := hcompletes.start hsound
  have hdirs := (FileSystem.makesDirectories_makeDirectories output s.2 hsound.tree).2
  rw [hcompletes.made] at hdirs
  obtain ⟨-, -, -, hevolved'⟩ := hcompletes.evolved hsound
  refine ⟨fs, place, ps, s₁, hcompletes, hapart.distinct,
    fun names hfile hpage => hcovers names (hevolved.kinds _ _ hfile) hpage, ?_⟩
  rintro before p after rfl
  obtain ⟨s₂, hbefore, hfile, hpage, hafter⟩ := hcompletes.built.split
  obtain ⟨hsound₂, -⟩ := hbefore.evolved hmade
  have hevolved₂ := (hafter.evolved hsound₂).2.trans hevolved'
  refine ⟨hpage, ?_⟩
  -- A page was a file when its turn came, so it was there before or an earlier page brought it.
  by_cases hold : s.2.IsFile (place ++ p.names)
  · exact .inl hold
  · obtain hfile' | ⟨q, hq, hmakes⟩ := hbefore.isFile hmade hfile
    · exact absurd (hdirs.isFile hfile') hold
    · refine .inr ⟨?_, q, hq, hmakes.evolved hevolved₂⟩
      -- Had there been a directory, it would be there still.
      cases hkind : s.2.kind? (place ++ p.names) with
      | none => rfl
      | some kind =>
        cases kind with
        | file => exact absurd hkind hold
        | directory =>
          have hdir := (hbefore.evolved hmade).2.kinds _ _ (hevolved.kinds _ _ hkind)
          rw [FileSystem.IsFile, hdir] at hfile
          cases hfile

/-! ## An output directory among the pages -/

/-- The walk over what is in a directory of pages. -/
theorem run_walkFrom_directory {levels : Nat} {path : Path} {entries : List (String × EntryKind)}
    (hlist : s.2.list path = .ok entries) :
    machine.run (disk.walkFrom (fun path cause => throw (.walk path cause))
      (buildPage project disk (pagesOf project) output) (levels + 1) path .directory) s
      = match machine.run (entries.mapM fun e =>
          disk.walkFrom (fun path cause => throw (.walk path cause))
            (buildPage project disk (pagesOf project) output) levels (path.join ⟨e.1⟩) e.2) s with
        | (.error e, s') => (.error e, s')
        | (.ok below, s') => (.ok below.flatten, s') := by
  have hfiles : (machine.files s).list path = .ok entries := hlist
  rw [Machine.run_walkFrom, buildPage_other (by rfl)]
  dsimp only
  rw [hfiles]
  dsimp only
  generalize machine.run (List.mapM _ _) s = ran
  obtain ⟨_ | below, s'⟩ := ran <;> rfl

def ownProject : Project where
  root := ⟨"/site"⟩
  config := { pagesDir := ".", assets := { createMissing := false, pageAssets := false } }
  version := none

def ownFiles : FileSystem where
  entries := [
    (["site"], .directory FileSystem.directoryMode),
    (["site", "a.html"], .file [] FileSystem.fileMode),
    (["site", "public"], .directory FileSystem.directoryMode)]

theorem ownFiles_isSound : ownFiles.IsSound :=
  FileSystem.isSound_of_entries (by decide) (FileSystem.isDirectory_nil _) (by decide) (by decide)

def ownOutput : Path := ⟨"/site/public"⟩

/-- What the visit to a page comes back with. -/
def ownVisit (s : Session × FileSystem) (path : Path) :
    Except BuildError (List (PageSummary × List Path)) × Session × FileSystem :=
  machine.run (buildPage ownProject disk (pagesOf ownProject) ownOutput ⟨path, .file⟩) s

/-- The state once the page was built, and once its output was built. -/
def ownFirst : Session × FileSystem := (ownVisit ({}, ownFiles) ⟨"/site/./a.html"⟩).2

def ownSecond : Session × FileSystem := (ownVisit ownFirst ⟨"/site/./public/a.html"⟩).2

/-- A visit that comes to its end with one page. -/
theorem ownVisit_single {s : Session × FileSystem} {path : Path}
    (h : (ownVisit s path).1.toOption.map (·.length) = some 1) :
    ∃ page, ownVisit s path = (.ok [page], (ownVisit s path).2) := by
  generalize ownVisit s path = ran at h ⊢
  obtain ⟨_ | found, s'⟩ := ran
  · cases h
  · obtain ⟨page, rfl⟩ := List.length_eq_one_iff.1 (Option.some.inj h)
    exact ⟨page, rfl⟩

theorem ownVisit_first :
    ∃ page, ownVisit ({}, ownFiles) ⟨"/site/./a.html"⟩ = (.ok [page], ownFirst) :=
  ownVisit_single (by decide +kernel)

theorem ownVisit_second :
    ∃ page, ownVisit ownFirst ⟨"/site/./public/a.html"⟩ = (.ok [page], ownSecond) :=
  ownVisit_single (by decide +kernel)

/-- The walk over the pages, from a directory of them. -/
abbrev ownWalk (levels : Nat) (path : Path) (kind : EntryKind) :
    BuildM (StateM FileSystem) (List (PageSummary × List Path)) :=
  disk.walkFrom (fun path cause => throw (.walk path cause))
    (buildPage ownProject disk (pagesOf ownProject) ownOutput) levels path kind

theorem ownWalk_output (levels : Nat) : ∃ page,
    machine.run (ownWalk (levels + 1) ⟨"/site/./public"⟩ .directory) ownFirst
      = (.ok [page], ownSecond) := by
  have hlist : ownFirst.2.list ⟨"/site/./public"⟩ = .ok [("a.html", .file)] :=
    Except.eq_ok_of_toOption (by decide +kernel)
  have hpath : Path.join ⟨"/site/./public"⟩ ⟨"a.html"⟩ = ⟨"/site/./public/a.html"⟩ := by decide
  obtain ⟨page, hfound⟩ := ownVisit_second
  refine ⟨page, ?_⟩
  rw [ownWalk, run_walkFrom_directory hlist, Machine.run_mapM_cons, Disk.walkFrom, hpath]
  rw [ownVisit] at hfound
  rw [hfound, List.mapM_nil]
  dsimp only
  rw [machine.run_pure]
  rfl

theorem ownWalk_pages (levels : Nat) : ∃ first second,
    machine.run (ownWalk (levels + 1 + 1) (pagesOf ownProject) .directory) ({}, ownFiles)
      = (.ok [first, second], ownSecond) := by
  have hfound : ownFiles.entries.filterMap (fun e =>
      (FileSystem.nameIn? ["site"] e.1).map fun name => (name, e.2.kind))
        = [("a.html", .file), ("public", .directory)] := by decide
  have hchildren : ownFiles.children ["site"] = [("a.html", .file), ("public", .directory)] := by
    have hfiles : ownFiles.children ["site"] = List.mergeSort (ownFiles.entries.filterMap fun e =>
        (FileSystem.nameIn? ["site"] e.1).map fun name => (name, e.2.kind)) fun a b => a.1 ≤ b.1 :=
      rfl
    rw [hfiles, hfound]
    exact List.mergeSort_of_pairwise (by decide)
  have hfind : ownFiles.find (pagesOf ownProject)
      = .ok (["site"], .directory FileSystem.directoryMode) :=
    Except.eq_ok_of_toOption (by decide +kernel)
  have hlist : ownFiles.list (pagesOf ownProject)
      = .ok [("a.html", .file), ("public", .directory)] := by
    rw [FileSystem.list, hfind]
    exact congrArg Except.ok hchildren
  have hpage : (pagesOf ownProject).join ⟨"a.html"⟩ = ⟨"/site/./a.html"⟩ := by decide
  have hpublic : (pagesOf ownProject).join ⟨"public"⟩ = ⟨"/site/./public"⟩ := by decide
  obtain ⟨first, hfirst⟩ := ownVisit_first
  obtain ⟨second, hsecond⟩ := ownWalk_output levels
  refine ⟨first, second, ?_⟩
  rw [ownVisit] at hfirst
  rw [ownWalk, run_walkFrom_directory hlist, Machine.run_mapM_cons, Disk.walkFrom, hpage, hfirst]
  dsimp only
  rw [Machine.run_mapM_cons]
  dsimp only
  rw [hpublic, hsecond, List.mapM_nil]
  dsimp only
  rw [machine.run_pure]
  rfl

/-- The build comes to its end, with two pages. -/
theorem ownRun_ends : ∃ summary s',
    machine.run (compile ownProject disk ownOutput) ({}, ownFiles) = (.ok summary, s') ∧
      summary.pages.length = 2 := by
  have hmade : (disk.makeDirectories ownOutput).run ownFiles = (.ok (), ownFiles) := by rfl
  have hkind : machine.run (liftM (disk.kind (pagesOf ownProject))) ({}, ownFiles)
      = (.ok (.ok .directory), {}, ownFiles) := by rfl
  have hcopied : ((copyAssets ownProject ownOutput).run ownSecond.2).1.isOk = true := by
    decide +kernel
  obtain ⟨first, second, hfound⟩ := ownWalk_pages 4094
  have hwalk : machine.run (disk.walk (fun path cause => throw (.walk path cause))
      (buildPage ownProject disk (pagesOf ownProject) ownOutput) (pagesOf ownProject)) ({}, ownFiles)
      = (.ok [first, second], ownSecond) := by
    rw [Disk.walk, machine.run_bind, hkind]
    exact hfound
  rw [compile_eq_steps, machine.run_bind, BuildM.machine_attempt, hmade]
  dsimp only [Except.mapError]
  rw [machine.run_bind, hwalk]
  dsimp only
  rw [finish, machine.run_bind, BuildM.machine_attempt]
  cases hcopy : (copyAssets ownProject ownOutput).run ownSecond.2 with
  | mk copied fs =>
    cases copied with
    | error cause =>
      rw [hcopy] at hcopied
      cases hcopied
    | ok copied => exact ⟨_, _, rfl, rfl⟩

/-- The second page of the build was not there when it started. -/
theorem compile_pages_own : ownFiles.IsSound ∧ ∃ summary s' fs place ps s₁,
    machine.run (compile ownProject disk ownOutput) ({}, ownFiles) = (.ok summary, s') ∧
      Completes ownProject ownOutput ({}, ownFiles) fs place ps s₁ summary s' ∧
      ps.length = 2 ∧ (ps.map (·.names)).Nodup ∧
      ∀ before p after, ps = before ++ p :: after →
        ownFiles.IsFile (place ++ p.names) ∨ ownFiles.kind? (place ++ p.names) = none ∧
          ∃ q ∈ before, Makes ownProject ownOutput s'.2 (q.source ownProject) q.compiled
            (place ++ p.names) := by
  obtain ⟨summary, s', hrun, hlength⟩ := ownRun_ends
  obtain ⟨fs, place, ps, s₁, hcompletes, hdistinct, -, hpages⟩ :=
    (compile_pages ownFiles_isSound).1 summary s' hrun
  rw [hcompletes.pages, List.length_map] at hlength
  exact ⟨ownFiles_isSound, summary, s', fs, place, ps, s₁, hrun, hcompletes, hlength, hdistinct,
    fun before p after heq => (hpages before p after heq).2⟩

/-- A file that was not there when the build started is among its pages. -/
theorem output_is_input : ∃ summary s' fs place ps s₁, ownFiles.IsSound ∧
    ownProject.config.fault? = none ∧
    machine.run (compile ownProject disk ownOutput) ({}, ownFiles) = (.ok summary, s') ∧
    Completes ownProject ownOutput ({}, ownFiles) fs place ps s₁ summary s' ∧
    ∃ p ∈ ps, ¬ownFiles.IsFile (place ++ p.names) := by
  obtain ⟨summary, s', hrun, hlength⟩ := ownRun_ends
  obtain ⟨fs, place, ps, s₁, hcompletes, hapart, -⟩ := compile_ok ownFiles_isSound hrun
  refine ⟨summary, s', fs, place, ps, s₁, ownFiles_isSound, by decide, hrun, hcompletes, ?_⟩
  rw [hcompletes.pages, List.length_map] at hlength
  obtain ⟨p, q, rfl⟩ := List.length_eq_two.1 hlength
  -- Only one file was there, and the two pages are at different places.
  have honly : ∀ place, ownFiles.IsFile place → place = ["site", "a.html"] := by
    intro place hfile
    obtain ⟨content, mode, hentry⟩ := FileSystem.isFile_iff.1 hfile
    have hne : place ≠ [] := by
      rintro rfl
      cases hentry
    have hmem := FileSystem.mem_entries hne hentry
    have hfiles : ∀ e ∈ ownFiles.entries, e.2.kind = .file → e.1 = ["site", "a.html"] := by decide
    exact hfiles _ hmem rfl
  by_contra hall
  push Not at hall
  have hp := honly _ (hall p (by simp))
  have hq := honly _ (hall q (by simp))
  have hsame : p.names = q.names := List.append_cancel_left (hp.trans hq.symm)
  have hdistinct := hapart.distinct
  simp [hsame] at hdistinct

end Site

end StaticSite
