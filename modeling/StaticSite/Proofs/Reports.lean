/-
  What a build reports.

  Nothing but a finished page sends events, its stubs first and then the page, and the copies
  of the assets send the last one.  So the events of a build are those of its finished pages,
  in order, whether it comes to its end or not, and they say what the summary says
  (`Site.compile_reports`).
-/

import StaticSite.Proofs.Builds

open StaticSite.Path (IsName)

namespace StaticSite

open FileSystem (disk)
open BuildM (machine)

def Event.isStub : Event → Bool
  | .stubCreated _ => true
  | _ => false

namespace FileSystem

/-- Whether a file system is sound can be seen of the entries that it lists. -/
theorem isSound_of_entries {fs : FileSystem} (h : ∀ e ∈ fs.entries, fs.IsDirectory e.1.dropLast)
    (hcurrent : fs.IsDirectory fs.current) (hnames : ∀ e ∈ fs.entries, ∀ name ∈ e.1, IsName name)
    (hdistinct : (fs.entries.map (·.1)).Nodup) : fs.IsSound :=
  ⟨isTree_of_entries h hcurrent, hnames, hdistinct⟩

end FileSystem

namespace Site

variable {project : Project} {output : Path} {s s₁ s' : Session × FileSystem} {place : Place}
  {ps : List Finished}

/-! ## Events -/

theorem Finishes.events {path : Path} {compiled : CompiledPage}
    (h : Finishes project output s path compiled s') :
    s'.1.events = s.1.events ++ eventsOf project output path compiled := by
  obtain ⟨s₁, s₂, hcompiled, hwritten, rfl⟩ := h
  have hquiet : s₁.1.events = s.1.events :=
    BuildM.events_of_quiet (compileAt_quiet project path) hcompiled
  have hquiet' : s₂.1.events = s₁.1.events := BuildM.events_of_quiet (writePage_quiet _ _) hwritten
  rw [← hquiet, ← hquiet']

/-- The events of pages that were finished are theirs, in order. -/
theorem Builds.events (h : Builds project output place s ps s') :
    s'.1.events = s.1.events ++ ps.flatMap (·.events project output) := by
  induction h with
  | done => simp
  | page _ _ finishes _ ih => rw [ih, finishes.events, List.flatMap_cons, List.append_assoc]

/-- A page that fails sends nothing. -/
theorem StopsAt.events {last : List (List String)} {e : BuildError}
    (h : StopsAt project output s last e s') : s'.1.events = s.1.events := by
  cases h with
  | compiling ran => exact BuildM.events_of_quiet (compileAt_quiet project _) ran
  | writing ran failed =>
    rw [BuildM.events_of_quiet (writePage_quiet _ _) failed,
      BuildM.events_of_quiet (compileAt_quiet project _) ran]
  | walking => rfl

theorem countP_events (p : Finished) :
    (p.events project output).countP (·.isStub) = p.compiled.stubs.length := by
  have hstubs (stubs : List Path) : (stubs.map fun stub =>
      Event.stubCreated (relative project.root stub)).countP (·.isStub) = stubs.length := by
    rw [List.countP_map]
    exact List.countP_eq_length.2 fun _ _ => rfl
  rw [Finished.events, eventsOf, List.countP_append, hstubs]
  rfl

/-! ## Outputs -/

theorem ofNames_eq (names : List String) (h : ∀ name ∈ names, IsName name) :
    Path.ofComponents (names.map .normal) = ⟨"/".intercalate names⟩ := by
  cases names with
  | nil => rfl
  | cons name rest =>
    have hsteps : ∀ c ∈ (name :: rest).map Path.Component.normal, c.IsStep := by
      intro c hc
      obtain ⟨name, hname, rfl⟩ := List.mem_map.1 hc
      exact h name hname
    have htext := @Path.text_ofComponents ((name :: rest).map .normal) (by simp) hsteps
    have hnames : ((name :: rest).map Path.Component.normal).map (·.text) = name :: rest := by
      rw [List.map_map]
      exact List.map_id _
    rw [Path.slashed, hnames] at htext
    rw [← htext]

theorem relative_below {names : List String} (h : ∀ name ∈ names, IsName name) :
    relative (pagesOf project) ((pagesOf project).below names)
      = Path.ofComponents (names.map .normal) := by
  rw [relative, Path.stripPrefix?_of_append (Path.components_below _ h), Option.getD_some]

/-- Pages at different places have their outputs at different places. -/
theorem outputs_distinct (h : Machine.Apart [[]] (ps.map (·.names))) :
    (ps.map (·.summary project output)).Pairwise fun p q => ¬p.output.same q.output := by
  have hproper : ∀ p ∈ ps, ∀ name ∈ p.names, IsName name := fun p hp =>
    h.isName (List.mem_map_of_mem hp)
  have hdistinct := h.distinct
  rw [List.Nodup, List.pairwise_map] at hdistinct
  rw [List.pairwise_map]
  refine hdistinct.imp_of_mem fun {p q} hp hq hne hsame => hne ?_
  have hcomponents (p : Finished) (hp : p ∈ ps) : (p.summary project output).output.components
      = output.components ++ p.names.map .normal := by
    rw [Finished.summary, summaryOf, relative_below (hproper p hp),
      (Path.hasNames_ofNames (hproper p hp)).components_join, Path.components_ofNames (hproper p hp)]
  have hsame : (p.summary project output).output.components
      = (q.summary project output).output.components := eq_of_beq hsame
  rw [hcomponents p hp, hcomponents q hq, List.append_cancel_left_eq] at hsame
  exact List.map_injective_iff.2 (fun _ _ => Path.Component.normal.inj) hsame

/-! ## The report of a build -/

/-- The events of a build and its summary say the same.  If it comes to its end, the events are
those of its pages, in the order of the summary, and then the one about the assets; the stubs are
counted, and each page has an output of its own, at its place below the output directory.  If it
fails, the events are those of the pages that were finished before, none of them twice, and what
it stopped at is not among them: a page that fails to compile is not written, and no asset is
copied unless all pages were finished. -/
theorem compile_reports {result : Except BuildError Summary} (hsound : s.2.IsSound)
    (h : machine.run (compile project disk output) s = (result, s')) :
    match result with
    | .ok summary => ∃ fs place ps s₁, Completes project output s fs place ps s₁ summary s' ∧
        s'.1.events = s.1.events ++ ps.flatMap (·.events project output)
          ++ [.assetsCopied summary.assetsCopied] ∧
        summary.pages = ps.map (·.summary project output) ∧
        summary.stubsCreated = (ps.flatMap (·.events project output)).countP (·.isStub) ∧
        (∀ p ∈ ps, (∀ name ∈ p.names, IsName name) ∧
          (p.summary project output).page = ⟨"/".intercalate p.names⟩ ∧
          (p.summary project output).output = output.join ⟨"/".intercalate p.names⟩) ∧
        summary.pages.Pairwise fun p q => ¬p.output.same q.output
    | .error e =>
        (∃ cause, (disk.makeDirectories output).run s.2 = (.error cause, s'.2) ∧ s'.1 = s.1 ∧
          e = .write output cause) ∨
        ∃ fs place ps s₁ last, (disk.makeDirectories output).run s.2 = (.ok (), fs) ∧
          Builds project output place (s.1, fs) ps s₁ ∧ (ps.map (·.names) ++ last).Nodup ∧
          s'.1.events = s.1.events ++ ps.flatMap (·.events project output) ∧
          (StopsAt project output s₁ last e s' ∨
            last = [] ∧ ∃ cause, (copyAssets project output).run s₁.2 = (.error cause, s'.2) ∧
              s'.1 = s₁.1 ∧ e = .write (output.join ⟨"assets"⟩) cause) := by
  cases result with
  | ok summary =>
    obtain ⟨fs, place, ps, s₁, hcompletes, hapart, -⟩ := compile_ok hsound h
    refine ⟨fs, place, ps, s₁, hcompletes, ?_, hcompletes.pages, ?_, fun p hp => ?_, ?_⟩
    · rw [hcompletes.told, hcompletes.built.events]
    · rw [hcompletes.stubs, List.length_flatMap, List.countP_flatMap]
      exact congrArg List.sum (List.map_congr_left fun p _ => (countP_events p).symm)
    · have hproper : ∀ name ∈ p.names, IsName name := hapart.isName (List.mem_map_of_mem hp)
      rw [Finished.summary, summaryOf, relative_below hproper, ofNames_eq _ hproper]
      exact ⟨hproper, rfl, rfl⟩
    · rw [hcompletes.pages]
      exact outputs_distinct hapart
  | error e =>
    obtain hmade | ⟨fs, place, ps, s₁, last, hmade, hbuilds, hapart, hstops⟩ :=
      compile_error hsound h
    · exact .inl hmade
    · refine .inr ⟨fs, place, ps, s₁, last, hmade, hbuilds, hapart.distinct, ?_, hstops⟩
      have hevents : s₁.1.events = s.1.events ++ ps.flatMap (·.events project output) :=
        hbuilds.events
      obtain hstops | ⟨-, cause, -, hsession, -⟩ := hstops
      · rw [hstops.events, hevents]
      · rw [hsession, hevents]

/-! A site with one page, for which two stubs are made, and one asset. -/

def smallProject : Project where
  root := ⟨"/site"⟩
  config := {}
  version := none

def smallFiles : FileSystem where
  entries := [
    (["site"], .directory FileSystem.directoryMode),
    (["site", "assets"], .directory FileSystem.directoryMode),
    (["site", "assets", "logo.svg"], .file [] FileSystem.fileMode),
    (["site", "pages"], .directory FileSystem.directoryMode),
    (["site", "pages", "a.html"], .file (Text.encode "x") FileSystem.fileMode)]

theorem smallFiles_isSound : smallFiles.IsSound :=
  FileSystem.isSound_of_entries (by decide) (FileSystem.isDirectory_nil _) (by decide) (by decide)

def smallEvents : List Event := [.stubCreated ⟨"pages/a.css"⟩, .stubCreated ⟨"pages/a.ts"⟩,
  .pageCompiled ⟨⟨"a.html"⟩, ⟨"/site/public/a.html"⟩, 1, 0, 2⟩, .assetsCopied 1]

theorem compile_reports_small : smallFiles.IsSound ∧ ∃ summary s',
    machine.run (compile smallProject disk ⟨"/site/public"⟩) ({}, smallFiles) = (.ok summary, s') ∧
      s'.1.events = smallEvents ∧ ∃ ps : List Finished,
        smallEvents = ps.flatMap (·.events smallProject ⟨"/site/public"⟩)
          ++ [.assetsCopied summary.assetsCopied] ∧
        summary.pages = ps.map (·.summary smallProject ⟨"/site/public"⟩) ∧
        summary.stubsCreated
          = (ps.flatMap (·.events smallProject ⟨"/site/public"⟩)).countP (·.isStub) := by
  refine ⟨smallFiles_isSound, ?_⟩
  have hend : ∃ run, machine.run (compile smallProject disk ⟨"/site/public"⟩) ({}, smallFiles) = run ∧
      run.1.isOk = true ∧ run.2.1.events = smallEvents := ⟨_, rfl, by decide +kernel⟩
  obtain ⟨⟨_ | summary, s'⟩, hrun, hok, hevents⟩ := hend
  · cases hok
  · obtain ⟨_, _, ps, _, -, htold, hpages, hstubs, -⟩ := compile_reports smallFiles_isSound hrun
    rw [hevents] at htold
    exact ⟨summary, s', hrun, hevents, ps, htold, hpages, hstubs⟩

end Site

end StaticSite
