/-
  A build on a file system, page by page.

  The walk over the pages directory is told as the pages that it finishes, one after the
  other (`Site.Builds`): a page is compiled, its text is written to its output, and its
  events are sent.  A build that comes to its end has made the output directory, finished
  every page, each once, and copied the assets (`Site.compile_ok`); one that fails has
  finished some pages before (`Site.compile_error`).
-/

import StaticSite.Build.Site
import StaticSite.Proofs.FailedPages
import StaticSite.Proofs.Tours

open StaticSite.Path (IsName)

namespace StaticSite

open FileSystem (disk evolving)

/-! ## Names that are joined -/

namespace Path

/-- Joining goes the same way in one step as in two. -/
theorem join_join_name (base : Path) {p : Path} (hne : p.text ≠ "") (hrel : p.isAbsolute = false)
    {name : String} (hname : IsName name) :
    base.join (p.join ⟨name⟩) = (base.join p).join ⟨name⟩ := by
  have hlast (front : String) :
      (front ++ p.text).toList.getLast? = p.text.toList.getLast? := by
    rw [String.toList_append, List.getLast?_append_of_ne_nil]
    exact fun hnil => hne (String.toList_inj.1 hnil)
  have habs : (p.join ⟨name⟩).isAbsolute = false := by
    rw [isAbsolute_join_name hne hname, hrel]
  have hempty (front : String) : (front ++ p.text == "") = false := by
    simp [hne]
  -- Both texts are the three parts, with the same slashes between them.
  unfold join at habs ⊢
  simp only [hname.hasNames.relative, Bool.false_eq_true, if_false] at habs ⊢
  rw [habs, hrel]
  simp only [Bool.false_eq_true, if_false]
  by_cases hbase : (base.text == "" || base.text.toList.getLast? == some '/') = true
  · simp only [hbase, if_true, hempty, hlast, Bool.false_or]
    have hp : (p.text == "") = false := by simpa using hne
    simp only [hp, Bool.false_or]
    split <;> simp [String.append_assoc]
  · simp only [hbase, if_false, hempty, hlast, Bool.false_or, Bool.false_eq_true]
    have hp : (p.text == "") = false := by simpa using hne
    simp only [hp, Bool.false_or]
    split <;> simp [String.append_assoc]

theorem components_ofNames {names : List String} (h : ∀ name ∈ names, IsName name) :
    (ofComponents (names.map .normal)).components = names.map .normal := by
  refine components_ofComponents (inOrder_of_isStep fun c hc => ?_)
  obtain ⟨name, hname, rfl⟩ := List.mem_map.1 hc
  exact h name hname

theorem hasNames_ofNames {names : List String} (h : ∀ name ∈ names, IsName name) :
    (ofComponents (names.map .normal)).HasNames := by
  intro c hc
  rw [components_ofNames h] at hc
  obtain ⟨name, -, rfl⟩ := List.mem_map.1 hc
  rfl

/-- The path of some names, joined as a whole, is the path of the names below the base. -/
theorem join_ofNames (base : Path) {names : List String} (hne : names ≠ [])
    (h : ∀ name ∈ names, IsName name) :
    base.join (ofComponents (names.map .normal)) = base.below names := by
  induction names using List.reverseRecOn with
  | nil => exact absurd rfl hne
  | append_singleton names name ih =>
    obtain ⟨hnames, hname⟩ := List.forall_mem_append.1 h
    have hname : IsName name := hname name (List.mem_singleton_self _)
    have hlast : ofComponents ((names ++ [name]).map .normal)
        = (ofComponents (names.map .normal)).join ⟨name⟩ := by
      simp [ofComponents, Component.text]
    rw [hlast, below_concat]
    by_cases hnil : names = []
    · subst hnil
      show base.join (Path.join ⟨""⟩ ⟨name⟩) = base.join ⟨name⟩
      rw [join_empty]
    · have htext : (ofComponents (names.map .normal)).text ≠ "" := by
        refine text_ne_empty ?_
        rw [components_ofNames hnames]
        simpa using hnil
      rw [join_join_name base htext (hasNames_ofNames hnames).relative hname, ih hnil hnames]

end Path

/-! ## Steps of a build as steps of a machine -/

namespace BuildM

variable {α : Type}

/-- Steps of a build run on a session and a file system. -/
def machine : Machine (BuildM (StateM FileSystem)) (Session × FileSystem) BuildError where
  files s := s.2
  run x s := (((x.run.run s.1).run s.2).1.1, ((x.run.run s.1).run s.2).1.2, ((x.run.run s.1).run s.2).2)
  run_pure _ _ := rfl
  run_bind x f s := by
    simp only [run_bind]
    rcases (x.run.run s.1).run s.2 with ⟨⟨_ | a, session⟩, fs⟩ <;> rfl
  run_asking _ _ := rfl

theorem machine_attempt (why : FileError → BuildError) (x : StateM FileSystem (Except FileError α))
    (s : Session × FileSystem) : machine.run (attempt why x) s
      = ((x.run s.2).1.mapError why, s.1, (x.run s.2).2) := by
  simp only [machine, run_attempt]

theorem keeps_attempt (why : FileError → BuildError)
    {x : StateM FileSystem (Except FileError α)} (h : evolving.Keeps x) :
    machine.Keeps (attempt why x) := by
  intro s hsound
  rw [machine_attempt]
  exact h s.2 hsound

/-- What a step that keeps a file system leads to. -/
theorem evolved_of_keeps {x : BuildM (StateM FileSystem) α} (h : machine.Keeps x)
    {s s' : Session × FileSystem} {result : Except BuildError α} (hsound : s.2.IsSound)
    (hran : machine.run x s = (result, s')) :
    s'.2.IsSound ∧ FileSystem.Evolved s.2 s'.2 := h.evolved hsound hran

theorem keeps_untouched {x : BuildM (StateM FileSystem) α} (h : untouched.rel x x) :
    machine.Keeps x := .of_same fun s => h s.1 s.2

theorem keeps_tell (notices : List Notice) :
    machine.Keeps (tell notices : BuildM (StateM FileSystem) Unit) := .of_same fun _ => rfl

theorem keeps_emit (events : List Event) :
    machine.Keeps (emit events : BuildM (StateM FileSystem) Unit) := .of_same fun _ => rfl

/-- A step of a build beside itself, if it sends no event. -/
def quiet : MonadRel (BuildM (StateM FileSystem)) (BuildM (StateM FileSystem)) where
  rel x _ := ∀ s : Session × FileSystem, (machine.run x s).2.1.events = s.1.events
  pure _ := fun _ => rfl
  bind {α β x y f g} hx hf s := by
    have hevents := hx s
    rw [machine.run_bind]
    rcases hran : machine.run x s with ⟨_ | a, s₁⟩
    · rw [hran] at hevents
      exact hevents
    · rw [hran] at hevents
      exact (hf a s₁).trans hevents

theorem events_of_quiet {x : BuildM (StateM FileSystem) α} (h : quiet.rel x x)
    {s s' : Session × FileSystem} {result : Except BuildError α}
    (hran : machine.run x s = (result, s')) : s'.1.events = s.1.events := by
  rw [← h s, hran]

theorem quiet_attempt (why : FileError → BuildError) (x : StateM FileSystem (Except FileError α)) :
    quiet.rel (attempt why x) (attempt why x) := fun s => by rw [machine_attempt]

theorem quiet_tell (notices : List Notice) :
    quiet.rel (tell notices : BuildM (StateM FileSystem) Unit) (tell notices) := fun _ => rfl

theorem quiet_readCached (path : Path) :
    quiet.rel (readCached disk.source path) (readCached disk.source path) := by
  refine quiet.bind (fun _ => rfl) fun session => ?_
  refine quiet.bind (fun _ => rfl) fun answer => ?_
  exact quiet.bind (fun _ => rfl) fun _ => quiet.bind (fun _ => rfl) fun _ => quiet.pure _

theorem quiet_supply : (supply disk.source).Agree quiet (supply disk.source) where
  layout? path := by
    refine quiet.bind (fun _ => rfl) fun session => ?_
    refine quiet.bind (fun _ => rfl) fun present => ?_
    cases present with
    | true => exact quiet_readCached path
    | false => exact quiet.pure _
  partial? := quiet_readCached
  tell := quiet_tell
  throw _ := fun _ => rfl

end BuildM

open BuildM (machine quiet)

namespace Page

/-- The compilation of a page sends no event. -/
theorem compile_quiet (project : Project) (page : Page) :
    quiet.rel (compile project page disk.source (Stub.ensureAll disk))
      (compile project page disk.source (Stub.ensureAll disk)) := by
  have hstubs (compiled : CompiledPage) :
      quiet.rel (finish project page (Stub.ensureAll disk) compiled)
        (finish project page (Stub.ensureAll disk) compiled) := by
    unfold finish
    split
    · exact quiet.bind (BuildM.quiet_attempt _ _) fun _ =>
        quiet.bind (BuildM.quiet_tell _) fun _ => quiet.pure _
    · exact quiet.bind (quiet.pure _) fun _ => quiet.bind (BuildM.quiet_tell _) fun _ => quiet.pure _
  have hread : quiet.rel (BuildM.readPage disk.source page.path)
      (BuildM.readPage disk.source page.path) :=
    quiet.bind (BuildM.quiet_attempt _ _) fun _ =>
      quiet.bind (BuildM.quiet_tell _) fun _ => quiet.pure _
  rw [compile_eq]
  exact quiet.bind (quiet.bind hread fun text => resolve_rel BuildM.quiet_supply project page text)
    hstubs

theorem compile_keeps (project : Project) (page : Page) :
    machine.Keeps (compile project page disk.source (Stub.ensureAll disk)) := by
  rw [compile_eq]
  refine .bind (BuildM.keeps_untouched (resolveOn_untouched project page)) fun compiled => ?_
  unfold finish
  split
  · exact .bind (BuildM.keeps_attempt _ (FileSystem.Evolving.createMissing _)) fun _ =>
      .bind (BuildM.keeps_tell _) fun _ => .pure _
  · exact .bind (.pure _) fun _ => .bind (BuildM.keeps_tell _) fun _ => .pure _

/-- All that compiling a page does to the files is to make its stubs, at paths without detours. -/
theorem compile_stubs (project : Project) (page : Page) {s s' : Session × FileSystem}
    {compiled : CompiledPage}
    (h : machine.run (compile project page disk.source (Stub.ensureAll disk)) s
      = (.ok compiled, s')) :
    ∃ paths : List Path, (∀ path ∈ paths, path.IsStraight) ∧
      (Stub.createMissing disk paths).run s.2 = (.ok compiled.stubs, s'.2) := by
  have hsame : (machine.run (resolveOn project page) s).2.2 = s.2 :=
    resolveOn_untouched project page s.1 s.2
  have hstraight : ∀ resolved, (machine.run (resolveOn project page) s).1 = .ok resolved →
      resolved.resources.IsStraight := fun resolved => resolveOn_yields project page s.1 s.2 resolved
  have hsteps : compile project page disk.source (Stub.ensureAll disk)
      = (resolveOn project page >>= Page.finish project page (Stub.ensureAll disk)) :=
    compile_eq project page disk.source (Stub.ensureAll disk)
  rw [hsteps, machine.run_bind] at h
  rcases hresolved : machine.run (resolveOn project page) s with ⟨_ | resolved, s₁⟩
  · rw [hresolved] at h
    cases h
  · rw [hresolved] at h hsame hstraight
    dsimp only at h hsame
    rw [Page.finish] at h
    split at h
    · rw [machine.run_bind, BuildM.machine_attempt] at h
      rcases hmade : (Stub.ensureAll disk resolved.resources).run s₁.2 with ⟨_ | stubs, fs⟩
      · rw [hmade] at h
        cases h
      · rw [hmade] at h
        cases h
        exact ⟨resolved.resources.files, hstraight resolved rfl, hsame ▸ hmade⟩
    · cases h
      exact ⟨[], fun _ hpath => absurd hpath List.not_mem_nil, by rw [← hsame]; rfl⟩

end Page

namespace Site

/-! ## One page -/

section Writing

variable (target : Path) (html : String)

/-- The file of a page is written, once its directory is there. -/
def writeFile : BuildM (StateM FileSystem) Unit :=
  BuildM.attempt (.write target) (disk.write target html) >>= fun _ => BuildM.tell [.wrote target]

theorem writePage_eq : writePage disk target html = match target.parent? with
    | some parent => BuildM.attempt (.write parent) (disk.makeDirectories parent) >>= fun _ =>
        writeFile target html
    | none => writeFile target html := by
  unfold writePage
  cases target.parent? <;> rfl

theorem writePage_quiet : quiet.rel (writePage disk target html) (writePage disk target html) := by
  have hwrite : quiet.rel (writeFile target html) (writeFile target html) :=
    quiet.bind (BuildM.quiet_attempt _ _) fun _ => BuildM.quiet_tell _
  rw [writePage_eq]
  split
  · exact quiet.bind (BuildM.quiet_attempt _ _) fun _ => hwrite
  · exact hwrite

theorem writePage_keeps : machine.Keeps (writePage disk target html) := by
  have hwrite : machine.Keeps (writeFile target html) :=
    .bind (BuildM.keeps_attempt _ (FileSystem.Evolving.write _ _)) fun _ => BuildM.keeps_tell _
  rw [writePage_eq]
  split
  · exact .bind (BuildM.keeps_attempt _ (FileSystem.Evolving.makeDirectories _)) fun _ => hwrite
  · exact hwrite

variable {target html} {s s' : Session × FileSystem}

/-- A page that was written is where the path of its output leads; apart from it only directories
are new. -/
theorem writePage_ok (hsound : s.2.IsSound)
    (h : machine.run (writePage disk target html) s = (.ok (), s')) :
    ∃ fs place mode, fs.IsSound ∧ FileSystem.Grown FileSystem.IsNewDirectory s.2 fs ∧
      fs.writeBytes target (Text.encode html) = .ok s'.2 ∧ fs.follow target = .ok place ∧
      place ≠ [] ∧ s'.2 = fs.put place (.file (Text.encode html) mode) := by
  have hfile (s₁ : Session × FileSystem) (hran : machine.run (writeFile target html) s₁ = (.ok (), s')) :
      s₁.2.writeBytes target (Text.encode html) = .ok s'.2 := by
    have hwrite : (disk.write target html).run s₁.2 = _ := FileSystem.changing_run _ s₁.2
    rw [writeFile, machine.run_bind, BuildM.machine_attempt, hwrite] at hran
    cases hbytes : s₁.2.writeBytes target (Text.encode html) with
    | error cause =>
      rw [hbytes] at hran
      cases hran
    | ok fs =>
      rw [hbytes] at hran
      cases hran
      rfl
  have hplaced (fs : FileSystem) (hbytes : fs.writeBytes target (Text.encode html) = .ok s'.2) :
      ∃ place mode, fs.follow target = .ok place ∧ place ≠ [] ∧
        s'.2 = fs.put place (.file (Text.encode html) mode) := by
    obtain ⟨place, mode, hfollow, hroot, heq, -⟩ := FileSystem.writeBytes_eq_ok hbytes
    exact ⟨place, mode, hfollow, hroot, heq⟩
  rw [writePage_eq] at h
  split at h
  · next parent _ =>
    have hgrown := FileSystem.makesDirectories_makeDirectories parent s.2 hsound.tree
    have hkept := FileSystem.Evolving.makeDirectories parent s.2 hsound
    rw [machine.run_bind, BuildM.machine_attempt] at h
    rcases hmade : (disk.makeDirectories parent).run s.2 with ⟨_ | _, fs⟩
    · rw [hmade] at h
      cases h
    · rw [hmade] at h hgrown hkept
      have hbytes := hfile (s.1, fs) h
      obtain ⟨place, mode, hplace⟩ := hplaced fs hbytes
      exact ⟨fs, place, mode, hkept.1, hgrown.2, hbytes, hplace⟩
  · have hbytes := hfile s h
    obtain ⟨place, mode, hplace⟩ := hplaced s.2 hbytes
    exact ⟨s.2, place, mode, hsound, .refl _, hbytes, hplace⟩

end Writing

/-- The directory of the pages of a project. -/
def pagesOf (project : Project) : Path := project.root.join ⟨project.config.pagesDir⟩

/-- The directory of the assets of a project. -/
def assetsOf (project : Project) : Path := project.root.join ⟨project.config.assetsDir⟩

/-- A page that a build has finished: its place below the pages directory, and what it came to. -/
structure Finished where
  names : List String
  compiled : CompiledPage

section Pages

variable (project : Project) (output : Path)

/-- The compilation of a page that the walk has reached. -/
def compileAt (path : Path) : BuildM (StateM FileSystem) CompiledPage :=
  (Page.ofPath project path).compile project disk.source (Stub.ensureAll disk)

theorem compileAt_quiet (path : Path) :
    BuildM.quiet.rel (compileAt project path) (compileAt project path) := by
  unfold compileAt
  exact Page.compile_quiet project _

theorem compileAt_keeps (path : Path) : machine.Keeps (compileAt project path) :=
  Page.compile_keeps project _

theorem compileAt_stubs {path : Path} {s s' : Session × FileSystem} {compiled : CompiledPage}
    (h : machine.run (compileAt project path) s = (.ok compiled, s')) :
    ∃ paths : List Path, (∀ path ∈ paths, path.IsStraight) ∧
      (Stub.createMissing disk paths).run s.2 = (.ok compiled.stubs, s'.2) := by
  unfold compileAt at h
  exact Page.compile_stubs project _ h

/-- What the summary says about a page. -/
def summaryOf (path : Path) (compiled : CompiledPage) : PageSummary where
  page := relative (pagesOf project) path
  output := output.join (relative (pagesOf project) path)
  passes := compiled.passes
  partials := compiled.partials
  resources := compiled.resources.items.length

/-- What is told about a page: its stubs, and then the page. -/
def eventsOf (path : Path) (compiled : CompiledPage) : List Event :=
  (compiled.stubs.map fun stub => .stubCreated (relative project.root stub))
    ++ [.pageCompiled (summaryOf project output path compiled)]

namespace Finished

variable (p : Finished)

/-- The file of a page. -/
abbrev source : Path := (pagesOf project).below p.names

abbrev summary : PageSummary := summaryOf project output (p.source project) p.compiled

abbrev events : List Event := eventsOf project output (p.source project) p.compiled

end Finished

/-- A page is finished: it is compiled, its text is written to its output, and its events are
sent. -/
def Finishes (s : Session × FileSystem) (path : Path) (compiled : CompiledPage)
    (s' : Session × FileSystem) : Prop :=
  ∃ s₁ s₂, machine.run (compileAt project path) s = (.ok compiled, s₁) ∧
    machine.run (writePage disk (summaryOf project output path compiled).output compiled.html) s₁
      = (.ok (), s₂) ∧
    s' = ({ s₂.1 with events := s₂.1.events ++ eventsOf project output path compiled }, s₂.2)

/-- Pages that are finished one after the other.  The pages directory is at the given place. -/
inductive Builds (place : Place) :
    Session × FileSystem → List Finished → Session × FileSystem → Prop where
  | done (s : Session × FileSystem) : Builds place s [] s
  | page {s s₁ s' : Session × FileSystem} {p : Finished} {ps : List Finished}
    (there : s.2.IsFile (place ++ p.names)) (isPage : isPage ⟨p.source project, .file⟩)
    (finishes : Finishes project output s (p.source project) p.compiled s₁) (rest : Builds place s₁ ps s') :
    Builds place s (p :: ps) s'

/-- How a build stops among its pages: a page does not compile or cannot be written, or there is
no way on. -/
inductive StopsAt : Session × FileSystem → List (List String) → BuildError →
    Session × FileSystem → Prop where
  | compiling {s s' : Session × FileSystem} {names : List String} {e : BuildError}
    (ran : machine.run (compileAt project ((pagesOf project).below names)) s = (.error e, s')) :
    StopsAt s [names] e s'
  | writing {s s₁ s' : Session × FileSystem} {names : List String} {compiled : CompiledPage}
    {e : BuildError}
    (ran : machine.run (compileAt project ((pagesOf project).below names)) s = (.ok compiled, s₁))
    (failed : machine.run (writePage disk
      (summaryOf project output ((pagesOf project).below names) compiled).output compiled.html) s₁
        = (.error e, s')) : StopsAt s [names] e s'
  | walking {s : Session × FileSystem} (path : Path) (cause : FileError) :
    StopsAt s [] (.walk path cause) s

variable {project output} {s s' : Session × FileSystem}

/-- What is no page is passed over. -/
theorem buildPage_other {e : Walked} (h : isPage e = false) :
    machine.run (buildPage project disk (pagesOf project) output e) s = (.ok [], s) := by
  unfold buildPage
  rw [h, if_neg Bool.false_ne_true]
  rfl

theorem buildPage_page {e : Walked} (h : isPage e = true) :
    buildPage project disk (pagesOf project) output e = (compileAt project e.path >>= fun compiled =>
      let summary := summaryOf project output e.path compiled
      writePage disk summary.output compiled.html >>= fun _ =>
        BuildM.emit (compiled.stubs.map fun stub => .stubCreated (relative project.root stub)) >>=
          fun _ => BuildM.emit [.pageCompiled summary] >>= fun _ =>
            pure [(summary, compiled.stubs)]) := by
  unfold buildPage
  rw [h, if_pos rfl]
  rfl

theorem buildPage_keeps (e : Walked) :
    machine.Keeps (buildPage project disk (pagesOf project) output e) := by
  by_cases h : isPage e = true
  · rw [buildPage_page h]
    refine .bind (compileAt_keeps project _) fun compiled => ?_
    refine .bind (writePage_keeps _ _) fun _ => ?_
    refine .bind (BuildM.keeps_emit _) fun _ => ?_
    exact .bind (BuildM.keeps_emit _) fun _ => .pure _
  · refine .of_same fun s => ?_
    rw [buildPage_other (Bool.not_eq_true _ ▸ h)]

/-- How the visit to a page ends. -/
theorem buildPage_run {names : List String} {kind : EntryKind}
    (h : isPage ⟨(pagesOf project).below names, kind⟩ = true) :
    match machine.run (buildPage project disk (pagesOf project) output
      ⟨(pagesOf project).below names, kind⟩) s with
    | (.ok found, s') => ∃ compiled,
        Finishes project output s ((pagesOf project).below names) compiled s' ∧
        found = [(summaryOf project output ((pagesOf project).below names) compiled, compiled.stubs)]
    | (.error e, s') => StopsAt project output s [names] e s' := by
  rw [buildPage_page h, machine.run_bind]
  rcases hcompiled : machine.run (compileAt project ((pagesOf project).below names)) s
    with ⟨result, s₁⟩
  cases result with
  | error e => exact .compiling hcompiled
  | ok compiled =>
    dsimp only
    rw [machine.run_bind]
    rcases hwritten : machine.run (writePage disk
      (summaryOf project output ((pagesOf project).below names) compiled).output compiled.html) s₁
      with ⟨result, s₂⟩
    cases result with
    | error e => exact .writing hcompiled hwritten
    | ok _ =>
      refine ⟨compiled, ⟨s₁, s₂, hcompiled, hwritten, ?_⟩, rfl⟩
      rw [eventsOf, ← List.append_assoc]
      rfl

end Pages

/-! ## The walk over the pages -/

section Walk

variable {project : Project} {output : Path} {s s' : Session × FileSystem}

/-- Whether a visit is one to a page. -/
def toPage (project : Project) (v : Visit (PageSummary × List Path)) : Bool :=
  isPage ⟨(pagesOf project).below v.names, v.kind⟩

/-- The pages of a tour, one after the other. -/
theorem builds_of_tour {place : Place} {vs : List (Visit (PageSummary × List Path))}
    (h : machine.Tour (buildPage project disk (pagesOf project) output) (pagesOf project) place
      s vs s') :
    ∃ ps : List Finished, Builds project output place s ps s' ∧
      ps.map (·.names) = (vs.filter (toPage project)).map (·.names) ∧
      vs.flatMap (·.found) = ps.map fun p => (p.summary project output, p.compiled.stubs) := by
  induction h with
  | done s => exact ⟨[], .done s, rfl, rfl⟩
  | @visit s s₁ s' v vs there ran _ ih =>
    obtain ⟨ps, hbuilds, hnames, hfound⟩ := ih
    -- A visit to a page finishes it; any other visit finds nothing and changes nothing.
    by_cases hpage : toPage project v = true
    · have hrun := @buildPage_run project output s _ _ hpage
      rw [ran] at hrun
      obtain ⟨compiled, hfinishes, hv⟩ := hrun
      have hkind : v.kind = .file := by
        have hboth : (v.kind == .file) = true ∧ _ := (Bool.and_eq_true _ _).mp hpage
        exact eq_of_beq hboth.1
      rw [hkind] at there
      have hfile : isPage ⟨(pagesOf project).below v.names, .file⟩ = true := hkind ▸ hpage
      refine ⟨⟨v.names, compiled⟩ :: ps, .page there hfile hfinishes hbuilds, ?_, ?_⟩
      · rw [List.filter_cons_of_pos hpage, List.map_cons, List.map_cons, hnames]
      · rw [List.flatMap_cons, hv, hfound]
        rfl
    · rw [buildPage_other (Bool.not_eq_true _ ▸ hpage)] at ran
      obtain ⟨hnone, rfl⟩ : Except.ok [] = Except.ok v.found ∧ s = s₁ := Prod.mk.inj ran
      have hnone : v.found = [] := (Except.ok.inj hnone).symm
      refine ⟨ps, hbuilds, ?_, ?_⟩
      · rw [List.filter_cons_of_neg hpage, hnames]
      · rw [List.flatMap_cons, hnone, hfound]
        rfl

theorem walk_fails (path : Path) (cause : FileError) (s : Session × FileSystem) :
    ∃ e, machine.run (throw (.walk path cause) :
      BuildM (StateM FileSystem) (List (PageSummary × List Path))) s = (.error e, s) :=
  ⟨_, rfl⟩

/-- Where the walk over the pages stops, the build stops. -/
theorem stopsAt_of_stops {place : Place} {last : List (List String)} {e : BuildError}
    (h : machine.Stops (fun path cause => throw (.walk path cause))
      (buildPage project disk (pagesOf project) output) (pagesOf project) place s last e s') :
    StopsAt project output s last e s' := by
  cases h with
  | walk ran =>
    cases ran
    exact .walking _ _
  | @visit _ names kind _ there ran =>
    by_cases hpage : isPage ⟨(pagesOf project).below names, kind⟩ = true
    · have hrun := @buildPage_run project output s _ _ hpage
      rw [ran] at hrun
      exact hrun
    · rw [buildPage_other (Bool.not_eq_true _ ▸ hpage)] at ran
      cases ran

/-- How the walk over the pages ends: with all pages that were there finished, each once, or at
what it stopped at, which it had not come to before. -/
theorem walkPages_run (hsound : s.2.IsSound) :
    match machine.run (disk.walk (fun path cause => throw (.walk path cause))
      (buildPage project disk (pagesOf project) output) (pagesOf project)) s with
    | (.ok built, s') => ∃ place ps, s.2.follow (pagesOf project) = .ok place ∧
        Builds project output place s ps s' ∧ Machine.Apart [[]] (ps.map (·.names)) ∧
        (∀ names, s.2.IsFile (place ++ names) → isPage ⟨(pagesOf project).below names, .file⟩ →
          names ∈ ps.map (·.names)) ∧
        built = ps.map fun p => (p.summary project output, p.compiled.stubs)
    | (.error e, s') => ∃ place ps s₁ last, Builds project output place s ps s₁ ∧
        Machine.Apart [[]] (ps.map (·.names) ++ last) ∧ StopsAt project output s₁ last e s' := by
  have htold := machine.walk_tells (pagesOf project) (s := s)
    (@buildPage_keeps project output) walk_fails hsound
  generalize machine.run (disk.walk _ _ _) s = ran at htold ⊢
  obtain ⟨_ | built, s'⟩ := ran
  · obtain ⟨cause, e, hran, herror⟩ | ⟨place, -, vs, s₁, last, htour, hapart, hstops⟩ := htold
    · cases hran
      cases herror
      exact ⟨[], [], s, [], .done s, Machine.Apart.nil _, .walking _ _⟩
    · obtain ⟨ps, hbuilds, hnames, -⟩ := builds_of_tour htour
      refine ⟨place, ps, s₁, last, hbuilds, ?_, stopsAt_of_stops hstops⟩
      rw [hnames]
      exact hapart.sublist ((List.filter_sublist.map _).append_right _)
  · obtain ⟨_, _, _, herror⟩ | ⟨place, hplace, vs, htour, hapart, hcovers, hfound⟩ := htold
    · cases herror
    · obtain ⟨ps, hbuilds, hnames, hpages⟩ := builds_of_tour htour
      refine ⟨place, ps, hplace, hbuilds, ?_, fun names hfile hpage => ?_, hfound.trans hpages⟩
      · rw [hnames]
        exact hapart.sublist (List.filter_sublist.map _)
      · -- The tour came to the file, and it kept what is a page.
        obtain ⟨v, hv, hsame, hkind⟩ := hcovers [] (List.mem_singleton_self _) names .file hfile
        rw [List.nil_append] at hsame
        rw [hnames]
        refine List.mem_map.2 ⟨v, List.mem_filter.2 ⟨hv, ?_⟩, hsame⟩
        rw [toPage, hsame, hkind]
        exact hpage

end Walk

/-! ## The whole build -/

section Whole

variable (project : Project) (output : Path)

/-- The copies of the assets that a build makes at its end. -/
def copyAssets : StateM FileSystem (Except FileError Nat) :=
  Assets.copyDirectory disk (assetsOf project) (output.join ⟨"assets"⟩)

/-- The end of a build, once its pages are finished. -/
def finish (built : List (PageSummary × List Path)) : BuildM (StateM FileSystem) Summary :=
  BuildM.attempt (.write (output.join ⟨"assets"⟩)) (copyAssets project output) >>= fun copied =>
    BuildM.emit [.assetsCopied copied] >>= fun _ => do
      return {
        pages := built.map (·.1)
        stubsCreated := (built.flatMap (·.2)).length
        assetsCopied := copied
        stats := (← get).cache.stats }

theorem compile_eq_steps : compile project disk output
    = (BuildM.attempt (.write output) (disk.makeDirectories output) >>= fun _ =>
        disk.walk (fun path cause => throw (.walk path cause))
          (buildPage project disk (pagesOf project) output) (pagesOf project) >>=
          finish project output) := rfl

variable {project output} {s s' : Session × FileSystem}

theorem finish_ok {built : List (PageSummary × List Path)} {summary : Summary}
    (h : machine.run (finish project output built) s = (.ok summary, s')) :
    (copyAssets project output).run s.2 = (.ok summary.assetsCopied, s'.2) ∧
      s'.1 = { s.1 with events := s.1.events ++ [.assetsCopied summary.assetsCopied] } ∧
      summary.pages = built.map (·.1) ∧
      summary.stubsCreated = (built.flatMap (·.2)).length := by
  rw [finish, machine.run_bind, BuildM.machine_attempt] at h
  rcases hcopied : (copyAssets project output).run s.2 with ⟨copied, fs⟩
  rw [hcopied] at h
  cases copied with
  | error cause => cases h
  | ok copied =>
    cases h
    exact ⟨rfl, rfl, rfl, rfl⟩

theorem finish_error {built : List (PageSummary × List Path)} {e : BuildError}
    (h : machine.run (finish project output built) s = (.error e, s')) :
    ∃ cause, (copyAssets project output).run s.2 = (.error cause, s'.2) ∧ s'.1 = s.1 ∧
      e = .write (output.join ⟨"assets"⟩) cause := by
  rw [finish, machine.run_bind, BuildM.machine_attempt] at h
  rcases hcopied : (copyAssets project output).run s.2 with ⟨copied, fs⟩
  rw [hcopied] at h
  cases copied with
  | error cause =>
    cases h
    exact ⟨cause, rfl, rfl, rfl⟩
  | ok copied => cases h

variable (project output) in
/-- How a build went that came to its end: its output directory was made, the pages directory was
found, its pages were finished, and the assets were copied. -/
structure Completes (s : Session × FileSystem) (fs : FileSystem) (place : Place)
    (ps : List Finished) (s₁ : Session × FileSystem) (summary : Summary)
    (s' : Session × FileSystem) : Prop where
  made : (disk.makeDirectories output).run s.2 = (.ok (), fs)
  found : fs.follow (pagesOf project) = .ok place
  built : Builds project output place (s.1, fs) ps s₁
  copied : (copyAssets project output).run s₁.2 = (.ok summary.assetsCopied, s'.2)
  told : s'.1 = { s₁.1 with events := s₁.1.events ++ [.assetsCopied summary.assetsCopied] }
  pages : summary.pages = ps.map (·.summary project output)
  stubs : summary.stubsCreated = (ps.flatMap (·.compiled.stubs)).length

/-- A build that comes to its end has finished, each once, all the pages that were there once its
output directory was made. -/
theorem compile_ok (hsound : s.2.IsSound) {summary : Summary}
    (h : machine.run (compile project disk output) s = (.ok summary, s')) :
    ∃ fs place ps s₁, Completes project output s fs place ps s₁ summary s' ∧
      Machine.Apart [[]] (ps.map (·.names)) ∧
      ∀ names, fs.IsFile (place ++ names) → isPage ⟨(pagesOf project).below names, .file⟩ →
        names ∈ ps.map (·.names) := by
  have hkept := FileSystem.Evolving.makeDirectories output s.2 hsound
  rw [compile_eq_steps, machine.run_bind, BuildM.machine_attempt] at h
  rcases hmade : (disk.makeDirectories output).run s.2 with ⟨result, fs⟩
  rw [hmade] at h hkept
  cases result with
  | error cause => cases h
  | ok _ =>
    dsimp only [Except.mapError] at h
    rw [machine.run_bind] at h
    have hwalk := @walkPages_run project output (s.1, fs) hkept.1
    generalize machine.run (disk.walk _ _ _) _ = ran at h hwalk
    obtain ⟨_ | built, s₁⟩ := ran
    · cases h
    · obtain ⟨place, ps, hplace, hbuilds, hapart, hcovers, rfl⟩ := hwalk
      obtain ⟨hcopied, htold, hsummary, hstubs⟩ := finish_ok h
      refine ⟨fs, place, ps, s₁, ⟨hmade, hplace, hbuilds, hcopied, htold, ?_, ?_⟩, hapart, hcovers⟩
      · rw [hsummary, List.map_map]
        rfl
      · rw [hstubs, List.flatMap_map]

/-- A build that fails could not make its output directory, stopped among its pages, or could not
copy the assets. -/
theorem compile_error (hsound : s.2.IsSound) {e : BuildError}
    (h : machine.run (compile project disk output) s = (.error e, s')) :
    (∃ cause, (disk.makeDirectories output).run s.2 = (.error cause, s'.2) ∧ s'.1 = s.1 ∧
        e = .write output cause) ∨
      ∃ fs place ps s₁ last, (disk.makeDirectories output).run s.2 = (.ok (), fs) ∧
        Builds project output place (s.1, fs) ps s₁ ∧
        Machine.Apart [[]] (ps.map (·.names) ++ last) ∧
        (StopsAt project output s₁ last e s' ∨
          last = [] ∧ ∃ cause, (copyAssets project output).run s₁.2 = (.error cause, s'.2) ∧
            s'.1 = s₁.1 ∧ e = .write (output.join ⟨"assets"⟩) cause) := by
  have hkept := FileSystem.Evolving.makeDirectories output s.2 hsound
  rw [compile_eq_steps, machine.run_bind, BuildM.machine_attempt] at h
  rcases hmade : (disk.makeDirectories output).run s.2 with ⟨result, fs⟩
  rw [hmade] at h hkept
  cases result with
  | error cause =>
    cases h
    exact .inl ⟨cause, rfl, rfl, rfl⟩
  | ok _ =>
    dsimp only [Except.mapError] at h
    rw [machine.run_bind] at h
    have hwalk := @walkPages_run project output (s.1, fs) hkept.1
    generalize machine.run (disk.walk _ _ _) _ = ran at h hwalk
    right
    obtain ⟨_ | built, s₁⟩ := ran
    · cases h
      obtain ⟨place, ps, s₁, last, hbuilds, hapart, hstops⟩ := hwalk
      exact ⟨fs, place, ps, s₁, last, rfl, hbuilds, hapart, .inl hstops⟩
    · obtain ⟨place, ps, -, hbuilds, hapart, -, -⟩ := hwalk
      refine ⟨fs, place, ps, s₁, [], rfl, hbuilds, ?_, .inr ⟨rfl, finish_error h⟩⟩
      rw [List.append_nil]
      exact hapart

end Whole

end Site

end StaticSite
