/-
  What a page that fails leaves behind.

  Reading and merging a page only asks the disk (`readPage_resolve_untouched`), and the
  files that it links are written without detours (`resolve_yields`).  The stubs come last,
  so a page that fails has left the disk as it was, unless one of its stubs could not be
  made; then the stubs before it stay, and the disk has only grown by them
  (`compile_failed`).
-/

import StaticSite.Proofs.Stubs
import StaticSite.Proofs.Texts

namespace StaticSite

open FileSystem (disk IsStub Interrupted Grown)

/-! ## Resources -/

namespace ResourceSet

/-- Whether all files of a set are written without detours. -/
def IsStraight (set : ResourceSet) : Prop := ∀ path ∈ set.files, path.IsStraight

theorem isStraight_empty : IsStraight {} := fun _ h => absurd h List.not_mem_nil

theorem isStraight_resolve (root base : Path) (reference : String) :
    (resolve root base reference).IsStraight := by
  unfold resolve
  split <;> exact Path.isStraight_clean _

theorem isStraight_add {set : ResourceSet} (h : set.IsStraight) (root base : Path) (m : Mention) :
    (set.add root base m).IsStraight := by
  unfold add insert
  split
  · exact h
  · intro path hpath
    have hfiles : files ⟨set.items ++ [resourceOf root base m]⟩
        = set.files ++ files ⟨[resourceOf root base m]⟩ := List.filterMap_append
    rw [hfiles] at hpath
    obtain hpath | hpath := List.mem_append.1 hpath
    · exact h path hpath
    · by_cases hexternal : isExternal m.reference
      · simp [files, resourceOf, Location.ofReference, hexternal] at hpath
      · simp only [files, resourceOf, Location.ofReference, hexternal, List.filterMap_cons,
          List.filterMap_nil, Bool.false_eq_true, if_false, List.mem_singleton] at hpath
        rw [hpath]
        exact isStraight_resolve root base m.reference

theorem isStraight_addAll {set : ResourceSet} (h : set.IsStraight) (root base : Path)
    (ms : List Mention) : (set.addAll root base ms).IsStraight := by
  induction ms generalizing set with
  | nil => exact h
  | cons m rest ih => exact ih (isStraight_add h root base m)

end ResourceSet

/-! ## Steps of a build on a file system -/

namespace BuildM

variable {α β : Type}

/-- A step of a build beside itself, if it leaves every file system as it was. -/
def untouched : MonadRel (BuildM (StateM FileSystem)) (BuildM (StateM FileSystem)) where
  rel x _ := ∀ (session : Session) (fs : FileSystem), ((x.run.run session).run fs).2 = fs
  pure _ := fun _ _ => rfl
  bind {α β x y f g} hx hf session fs := by
    have hfs := hx session fs
    rw [run_bind]
    generalize (x.run.run session).run fs = first at hfs
    obtain ⟨⟨_ | a, session'⟩, fs'⟩ := first
    · exact hfs
    · exact (hf a session' fs').trans hfs

/-- A step of a build whose result, if there is one, satisfies a predicate. -/
def Yields (P : α → Prop) (x : BuildM (StateM FileSystem) α) : Prop :=
  ∀ (session : Session) (fs : FileSystem) (a : α), ((x.run.run session).run fs).1.1 = .ok a → P a

theorem Yields.pure {P : α → Prop} {a : α} (h : P a) :
    Yields P (Pure.pure a : BuildM (StateM FileSystem) α) := by
  intro session fs b hb
  cases hb
  exact h

theorem Yields.throw {P : α → Prop} (e : BuildError) :
    Yields P (MonadExcept.throw e : BuildM (StateM FileSystem) α) := by
  intro session fs b hb
  cases hb

theorem Yields.bind {P : α → Prop} {Q : β → Prop} {x : BuildM (StateM FileSystem) α}
    {f : α → BuildM (StateM FileSystem) β} (hx : Yields P x) (hf : ∀ a, P a → Yields Q (f a)) :
    Yields Q (x >>= f) := by
  intro session fs b hb
  have hP := hx session fs
  rw [run_bind] at hb
  generalize (x.run.run session).run fs = first at hP hb
  obtain ⟨⟨_ | a, session'⟩, fs'⟩ := first
  · cases hb
  · exact hf a (hP a rfl) session' fs' b hb

/-- What comes first does not count if what follows it yields the same in any case. -/
theorem Yields.after {Q : β → Prop} (x : BuildM (StateM FileSystem) α)
    {f : α → BuildM (StateM FileSystem) β} (hf : ∀ a, Yields Q (f a)) : Yields Q (x >>= f) :=
  .bind (P := fun _ => True) (fun _ _ _ _ => trivial) fun a _ => hf a

/-- Reading a page only asks. -/
theorem untouched_readPage (path : Path) :
    untouched.rel (readPage disk.source path) (readPage disk.source path) := by
  have hread : untouched.rel (attempt (.read path) (disk.source.read path))
      (attempt (.read path) (disk.source.read path)) := by
    intro session fs
    rw [run_attempt]
    rfl
  exact untouched.bind hread fun _ => untouched.bind (fun _ _ => rfl) fun _ => untouched.pure _

theorem untouched_lift {x : StateM FileSystem α} (h : ∀ fs, (x.run fs).2 = fs) :
    untouched.rel (liftM x) (liftM x) := fun _ fs => h fs

theorem cacheRead_untouched (cache : Cache) (path : Path) (fs : FileSystem) :
    ((cache.read disk.source path).run fs).2 = fs := by
  have hread : (disk.source.read path).run fs = (fs.read path, fs) := rfl
  unfold Cache.read
  split
  · rfl
  · rw [FileSystem.run_bind, hread]
    cases fs.read path <;> rfl

theorem untouched_readCached (path : Path) :
    untouched.rel (readCached disk.source path) (readCached disk.source path) := by
  refine untouched.bind (fun _ _ => rfl) fun session => ?_
  refine untouched.bind (untouched_lift (cacheRead_untouched session.cache path)) fun answer => ?_
  exact untouched.bind (fun _ _ => rfl) fun _ =>
    untouched.bind (fun _ _ => rfl) fun _ => untouched.pure _

theorem untouched_readExisting (path : Path) :
    untouched.rel (readExisting disk.source path) (readExisting disk.source path) := by
  have hhas (cache : Cache) (fs : FileSystem) : ((cache.has disk.source path).run fs).2 = fs := by
    unfold Cache.has
    split <;> rfl
  refine untouched.bind (fun _ _ => rfl) fun session => ?_
  refine untouched.bind (untouched_lift (hhas session.cache)) fun present => ?_
  cases present with
  | true => exact untouched_readCached path
  | false => exact untouched.pure _

theorem untouched_supply : (supply disk.source).Agree untouched (supply disk.source) where
  layout? := untouched_readExisting
  partial? := untouched_readCached
  tell _ := fun _ _ => rfl
  throw _ := fun _ _ => rfl

end BuildM

/-! ## Pages -/

namespace Page

open BuildM (Yields untouched)

variable (project : Project) (page : Page)

section Merged

/-- Whether all files that a merged page links are written without detours. -/
def LinksStraight (merged : Merged) : Prop := merged.resources.IsStraight

variable (supply : Supply (BuildM (StateM FileSystem)))

theorem collect_yields (base : Path) {set : ResourceSet} (h : set.IsStraight)
    (d : Template.Descriptor) :
    Yields ResourceSet.IsStraight (collect project supply base set d) :=
  .after _ fun _ => .pure (ResourceSet.isStraight_addAll h project.root base d.mentions)

theorem mergeWithout_yields (read : Template.Extraction) :
    Yields LinksStraight (mergeWithout project supply page read) := by
  refine .after _ fun _ => .after _ fun _ => ?_
  refine (collect_yields project supply page.dir ResourceSet.isStraight_empty _).bind
    fun resources hresources => ?_
  exact .after _ fun _ => .pure hresources

theorem mergeInto_yields (layoutPath : Path) (layoutText : String) (read : Template.Extraction) :
    Yields LinksStraight (mergeInto project supply page layoutPath layoutText read) := by
  refine .after _ fun _ => .after _ fun _ => ?_
  refine (collect_yields project supply _ ResourceSet.isStraight_empty _).bind
    fun links hlinks => ?_
  refine (collect_yields project supply page.dir hlinks _).bind fun resources hresources => ?_
  refine .after _ fun _ => .after _ fun _ => .after _ fun _ => .after _ fun _ => ?_
  exact .pure hresources

theorem merge_yields (read : Template.Extraction) :
    Yields LinksStraight (merge project supply page read) := by
  unfold merge
  split
  · exact mergeWithout_yields project page supply read
  · refine .after _ fun _ => .after _ fun found => ?_
    cases found with
    | some text => exact mergeInto_yields project page supply _ text read
    | none => exact .throw _

/-- The files that a compiled page links are written without detours. -/
theorem resolve_yields (text : String) :
    Yields (fun compiled : CompiledPage => compiled.resources.IsStraight)
      (resolve project supply page text) := by
  refine .after _ fun _ => (merge_yields project page supply _).bind fun merged hmerged => ?_
  exact .after _ fun _ => .after _ fun _ => .pure hmerged

end Merged

/-- A page read from a file system and compiled, without its stubs. -/
def resolveOn : BuildM (StateM FileSystem) CompiledPage :=
  BuildM.readPage disk.source page.path >>= resolve project (BuildM.supply disk.source) page

/-- The compilation of a page on a file system: how it ends, and the session and the file system
after it. -/
def compileOn (session : Session) (fs : FileSystem) :
    (Except BuildError CompiledPage × Session) × FileSystem :=
  ((compile project page disk.source (Stub.ensureAll disk)).run.run session).run fs

theorem resolveOn_untouched : untouched.rel (resolveOn project page) (resolveOn project page) :=
  untouched.bind (BuildM.untouched_readPage page.path) fun text =>
    resolve_rel BuildM.untouched_supply project page text

theorem resolveOn_yields :
    Yields (fun compiled => compiled.resources.IsStraight) (resolveOn project page) :=
  .after _ fun text => resolve_yields project page _ text

/-- After a page has compiled, only its stubs can fail. -/
theorem finish_error {compiled : CompiledPage} {session session' : Session} {fs fs' : FileSystem}
    {e : BuildError}
    (h : ((finish project page (Stub.ensureAll disk) compiled).run.run session).run fs
      = ((.error e, session'), fs')) :
    project.config.assets.createMissing ∧ session' = session ∧ ∃ cause, e = .io cause ∧
      (Stub.createMissing disk compiled.resources.files).run fs = (.error cause, fs') := by
  unfold finish at h
  split at h
  · next hcreate =>
    rw [BuildM.run_bind, BuildM.run_attempt] at h
    rcases hmade : (Stub.ensureAll disk compiled.resources).run fs with ⟨made, fs₁⟩
    rw [hmade] at h
    cases made with
    | ok stubs => cases h
    | error cause =>
      cases h
      exact ⟨hcreate, rfl, cause, rfl, hmade⟩
  · cases h

/-- What a page that fails leaves behind.  The file system is as it was, unless the page compiled
and one of its stubs could not be made; then the stubs before it stay, and nothing else has
changed: a tree has grown by directories and empty files. -/
theorem compile_failed {session session' : Session} {fs fs' : FileSystem} {e : BuildError}
    (h : compileOn project page session fs = ((.error e, session'), fs')) :
    fs' = fs ∨ ∃ compiled cause, project.config.assets.createMissing ∧ e = .io cause ∧
      ((resolveOn project page).run.run session).run fs = ((.ok compiled, session'), fs) ∧
      fs.Interrupted compiled.resources.files cause fs' ∧
      (fs.IsTree → fs'.IsTree ∧ Grown IsStub fs fs') := by
  have hsame := resolveOn_untouched project page session fs
  have hstraight := resolveOn_yields project page session fs
  have hsteps : compile project page disk.source (Stub.ensureAll disk)
      = (resolveOn project page >>= finish project page (Stub.ensureAll disk)) :=
    compile_eq project page disk.source (Stub.ensureAll disk)
  rw [compileOn, hsteps, BuildM.run_bind] at h
  rcases hresolved : ((resolveOn project page).run.run session).run fs
    with ⟨⟨resolved, session₁⟩, fs₁⟩
  rw [hresolved] at h hsame hstraight
  cases hsame
  cases resolved with
  | error e =>
    -- It failed before the stubs, and what comes before them only asks.
    cases h
    exact .inl rfl
  | ok compiled =>
    obtain ⟨hcreate, rfl, cause, rfl, hstubs⟩ := finish_error project page h
    refine .inr ⟨compiled, cause, hcreate, rfl, rfl, FileSystem.createMissing_error hstubs, ?_⟩
    intro htree
    have hgrown := FileSystem.createMissing_grown htree (hstraight compiled rfl)
    rw [hstubs] at hgrown
    exact hgrown

/-! ## A stub that cannot be made

A page links a new style sheet, and another one below its own file, as if that were a directory.
The first stub is made before the second one fails. -/

def blockedProject : Project where
  root := ⟨"/site"⟩
  config := { assets := { pageAssets := false } }
  version := none

def blockedText : String :=
  "<div data-ham-page-config='\x7b\"css\":[\"new.css\",\"index.html/x.css\"]\x7d'></div>"

def blockedPage : Page := .ofPath blockedProject ⟨"/site/pages/index.html"⟩

def blockedFiles : FileSystem where
  entries := [
    (["site"], .directory FileSystem.directoryMode),
    (["site", "pages"], .directory FileSystem.directoryMode),
    (["site", "pages", "index.html"], .file (Text.encode blockedText) FileSystem.fileMode)]

def blockedStub : Place := ["site", "pages", "new.css"]

/-- The cause, if a page failed on a file. -/
def ioCause? : Except BuildError CompiledPage → Option FileError
  | .error (.io cause) => some cause
  | _ => none

theorem eq_of_ioCause? {result : Except BuildError CompiledPage} {cause : FileError}
    (h : ioCause? result = some cause) : result = .error (.io cause) := by
  unfold ioCause? at h
  split at h
  · rw [Option.some.inj h]
  · cases h

theorem compileOn_blocked : ∃ session fs,
    compileOn blockedProject blockedPage {} blockedFiles = ((.error (.io .exists), session), fs) ∧
      fs.entry? blockedStub = some (.file [] FileSystem.fileMode) := by
  have hend : ∃ run, compileOn blockedProject blockedPage {} blockedFiles = run ∧
      ioCause? run.1.1 = some .exists ∧
      FileSystem.entry? run.2 blockedStub = some (.file [] FileSystem.fileMode) :=
    ⟨_, rfl, by decide +kernel⟩
  obtain ⟨⟨⟨result, session⟩, fs⟩, hrun, hcause, hstub⟩ := hend
  obtain rfl : result = .error (.io .exists) := eq_of_ioCause? hcause
  exact ⟨session, fs, hrun, hstub⟩

theorem blockedFiles_isTree : blockedFiles.IsTree :=
  FileSystem.isTree_of_entries (by decide) (FileSystem.isDirectory_nil _)

theorem blockedStub_free : blockedFiles.entry? blockedStub = none := by decide

theorem compile_failed_blocked : ∃ session fs compiled,
    compileOn blockedProject blockedPage {} blockedFiles = ((.error (.io .exists), session), fs) ∧
      ((resolveOn blockedProject blockedPage).run.run {}).run blockedFiles
        = ((.ok compiled, session), blockedFiles) ∧
      blockedFiles.Interrupted compiled.resources.files .exists fs ∧ fs.IsTree ∧
      Grown IsStub blockedFiles fs := by
  obtain ⟨session, fs, hrun, hstub⟩ := compileOn_blocked
  obtain rfl | ⟨compiled, cause, -, hcause, hresolved, hinterrupted, hgrown⟩ :=
    compile_failed blockedProject blockedPage hrun
  · rw [blockedStub_free] at hstub
    cases hstub
  · cases hcause
    obtain ⟨htree, hgrown⟩ := hgrown blockedFiles_isTree
    exact ⟨session, fs, compiled, hrun, hresolved, hinterrupted, htree, hgrown⟩

/-- The page fails, but the file system is not what it was. -/
theorem stub_outlives_failure : ∃ session fs,
    compileOn blockedProject blockedPage {} blockedFiles = ((.error (.io .exists), session), fs) ∧
      fs ≠ blockedFiles ∧ blockedFiles.entry? blockedStub = none ∧
      fs.entry? blockedStub = some (.file [] FileSystem.fileMode) := by
  obtain ⟨session, fs, hrun, hstub⟩ := compileOn_blocked
  refine ⟨session, fs, hrun, ?_, blockedStub_free, hstub⟩
  rintro rfl
  rw [blockedStub_free] at hstub
  cases hstub

end Page

end StaticSite
