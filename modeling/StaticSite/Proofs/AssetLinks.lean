/-
  Where the links of files lead.

  The URL of a file is `/assets/` and a place.  What lies below the assets directory by its
  name keeps its place there; for any other file the place is what follows the first
  component named `assets`, wherever that is in the path, or else one by kind and name
  (`belowAssets?_below`, `afterAssets?_append`).

  The copy of the assets directory keeps the place of every file, so a link should do the
  same, and it should not matter where the project lies.  `urlFor_copied_iff` and
  `urlFor_moved_iff` say exactly when that is so.
-/

import StaticSite.AssetUrl
import StaticSite.Build.Assets
import StaticSite.Config
import StaticSite.Proofs.Components

namespace StaticSite

open StaticSite.Path (Component slashed)

/-! ## The place of a file -/

/-- What follows the first component named `assets`. -/
def Path.afterFirstAssets? : List Component → Option (List Component)
  | [] => none
  | .normal "assets" :: rest => some rest
  | _ :: rest => afterFirstAssets? rest

namespace AssetUrls

open StaticSite.Path (afterFirstAssets?)

/-- A file is found after the first `assets` on the way to it, or in what follows that way. -/
theorem afterAssets?_append (cs : List Component) {rest : List Component} (hne : rest ≠ []) :
    afterAssets? (cs ++ rest) = match afterFirstAssets? cs with
      | some way => some (way ++ rest)
      | none => afterAssets? rest := by
  induction cs with
  | nil => rfl
  | cons c cs ih =>
    by_cases hc : c = .normal "assets"
    · subst hc
      simp [afterAssets?, afterFirstAssets?, hne]
    · rw [List.cons_append, afterAssets?, afterFirstAssets?, ih]
      · exact fun h => hc h
      · exact fun h => hc h

/-- A file below the project is looked for in the assets directory first. -/
theorem belowAssets?_below {u : AssetUrls} {path : Path} {cs : List Component}
    (hcs : ∀ c ∈ cs, c.IsStep) (hpath : path.components = u.root.components ++ cs) :
    u.belowAssets? path = match u.assetsDir.components.isPrefixOf? cs with
      | some rest => some rest
      | none => afterAssets? path.components := by
  have hinside : (Path.ofComponents cs).components = cs :=
    Path.components_ofComponents (Path.inOrder_of_isStep hcs)
  rw [belowAssets?, Path.stripPrefix?_of_append hpath, Option.bind_some, Path.stripPrefix?, hinside]
  cases hrest : u.assetsDir.components.isPrefixOf? cs with
  | none => rfl
  | some rest =>
    have happend := List.isPrefixOf?_eq_some_iff_append_eq.1 hrest
    have hsteps : ∀ c ∈ rest, c.IsStep := fun c hc =>
      hcs c (happend ▸ List.mem_append_right _ hc)
    exact congrArg some (Path.components_ofComponents (Path.inOrder_of_isStep hsteps))

theorem belowAssets?_outside {u : AssetUrls} {path : Path}
    (hpath : path.stripPrefix? u.root = none) :
    u.belowAssets? path = afterAssets? path.components := by
  rw [belowAssets?, hpath, Option.bind_none]

/-- A directory that is not named by names holds no file that is. -/
theorem isPrefixOf?_eq_none {dir : Path} (hdir : ¬ dir.HasNames) {cs : List Component}
    (hcs : ∀ c ∈ cs, c.isNormal) : dir.components.isPrefixOf? cs = none := by
  rw [Option.eq_none_iff_forall_ne_some]
  intro rest hrest
  have happend := List.isPrefixOf?_eq_some_iff_append_eq.1 hrest
  exact hdir fun c hc => hcs c (happend ▸ List.mem_append_left _ hc)

/-- The ending of a URL is the ending of the place in it. -/
theorem isSuffixOf?_append (place : List Char) :
    ".ts".toList.isSuffixOf? ("/assets/".toList ++ place)
      = (".ts".toList.isSuffixOf? place).map ("/assets/".toList ++ ·) := by
  cases hplace : ".ts".toList.isSuffixOf? place with
  | some stem =>
    have happend := List.isSuffixOf?_eq_some_iff_append_eq.1 hplace
    rw [Option.map_some, List.isSuffixOf?_eq_some_iff_append_eq, List.append_assoc, happend]
  | none =>
    rw [Option.map_none, Option.eq_none_iff_forall_ne_some]
    intro stem hstem
    have happend := List.isSuffixOf?_eq_some_iff_append_eq.1 hstem
    obtain ⟨middle, hmiddle, hts⟩ | ⟨before, -, hbefore⟩ := List.append_eq_append_iff.1 happend
    · -- The ending begins before the place, but there is a slash right before it.
      cases hcases : middle with
      | nil =>
        have hself : ".ts".toList.isSuffixOf? place = some [] := by
          rw [List.isSuffixOf?_eq_some_iff_append_eq, hts, hcases]
          rfl
        rw [hself] at hplace
        cases hplace
      | cons c cs =>
        have hne' : middle ≠ [] := by simp [hcases]
        have hlast : middle.getLast? = some '/' := by
          rw [← List.getLast?_append_of_ne_nil stem hne', ← hmiddle]
          decide
        have hmem : '/' ∈ ".ts".toList := by
          rw [hts]
          exact List.mem_append_left _ (List.mem_of_getLast? hlast)
        exact absurd hmem (by decide)
    · have hself : ".ts".toList.isSuffixOf? place = some before :=
        List.isSuffixOf?_eq_some_iff_append_eq.2 hbefore.symm
      rw [hself] at hplace
      cases hplace

/-- A name is served by its own end, whatever directory it is in. -/
theorem servedName_append (kind : ResourceKind) (place : String) :
    servedName kind ("/assets/" ++ place) = "/assets/" ++ servedName kind place := by
  unfold servedName
  split
  · rfl
  · rw [String.toList_append, isSuffixOf?_append]
    cases ".ts".toList.isSuffixOf? place.toList with
    | none => rfl
    | some stem =>
      show String.ofList ("/assets/".toList ++ stem) ++ ".js" = _
      rw [String.ofList_append, String.ofList_toList, String.append_assoc]

/-- What a build adds to the URLs of files. -/
def versionSuffix (version : Option String) : String :=
  (version.map ("?v=" ++ ·)).getD ""

theorem urlFor_file (u : AssetUrls) (kind : ResourceKind) (path : Path) :
    u.urlFor ⟨kind, .file path⟩ = u.fileUrl kind path ++ versionSuffix u.version := by
  rw [urlFor]
  cases u.version <;> rfl

/-- The URL of a file whose place is found. -/
theorem urlFor_of_belowAssets? {u : AssetUrls} {path : Path} {place : List Component}
    (h : u.belowAssets? path = some place) (kind : ResourceKind) :
    u.urlFor ⟨kind, .file path⟩
      = "/assets/" ++ servedName kind (slashed place) ++ versionSuffix u.version := by
  have hfile : u.fileUrl kind path = servedName kind ("/assets/" ++ slashed place) := by
    simp only [fileUrl, h]
    rfl
  rw [urlFor_file, hfile, servedName_append]

/-- The place of a style sheet, which is one by its name if no other is found. -/
theorem urlFor_styleSheet {u : AssetUrls} {path : Path} {name : String}
    (hname : path.components.getLast? = some (.normal name)) :
    u.urlFor ⟨.styleSheet, .file path⟩
      = "/assets/" ++ slashed ((u.belowAssets? path).getD [.normal "css", .normal name])
        ++ versionSuffix u.version := by
  cases hplace : u.belowAssets? path with
  | some place => exact urlFor_of_belowAssets? hplace .styleSheet
  | none =>
    have hfile : u.fileUrl .styleSheet path
        = "/assets/" ++ slashed [.normal "css", .normal name] := by
      have hslashed : slashed [.normal "css", .normal name] = "css/" ++ name := by
        simp [slashed, Component.text]
      simp [fileUrl, hplace, servedName, placeByName, Path.fileName?, hname, hslashed]
    rw [urlFor_file, hfile, Option.getD_none]

/-- The URLs of style sheets tell their places apart. -/
theorem place_eq_of_url_eq {place place' : List Component} {suffix : String}
    (hplace : ∀ c ∈ place, c.IsStep) (hplace' : ∀ c ∈ place', c.IsStep)
    (h : "/assets/" ++ slashed place ++ suffix = "/assets/" ++ slashed place' ++ suffix) :
    place = place' := by
  have hslashed : slashed place = slashed place' := by simpa using h
  exact Path.slashed_inj hplace hplace' hslashed

/-! ## Files of the assets directory -/

section Copied

variable {root : Path} (habs : root.isAbsolute) (hclean : root.clean = root) (assetsDir : String)
variable (version : Option String) {rel : Path} (hrel : rel.HasNames)
include habs hclean hrel

/-- The place of a file in the assets directory. -/
theorem belowAssets?_copied :
    (make root assetsDir version).belowAssets? ((root.join ⟨assetsDir⟩).join rel).clean =
      if (⟨assetsDir⟩ : Path).clean.HasNames then some rel.components
      else afterAssets? ((root.join ⟨assetsDir⟩).clean.components ++ rel.components) := by
  have hsource : (root.join ⟨assetsDir⟩).isAbsolute := Path.isAbsolute_join habs _
  have hfile := Path.components_clean_join hsource hrel
  have hroot : (make root assetsDir version).root = root := hclean
  split
  · next hnames =>
    have hdir := Path.components_clean_join_of_names habs hclean hnames
    have hsteps : ∀ c ∈ (⟨assetsDir⟩ : Path).clean.components ++ rel.components, c.IsStep := by
      intro c hc
      obtain hc | hc := List.mem_append.1 hc
      · exact hnames.isStep c hc
      · exact hrel.isStep c hc
    have hpath : (((root.join ⟨assetsDir⟩).join rel).clean).components
        = (make root assetsDir version).root.components
          ++ ((⟨assetsDir⟩ : Path).clean.components ++ rel.components) := by
      rw [hfile, hdir, hroot, List.append_assoc]
    have hstarts : (make root assetsDir version).assetsDir.components.isPrefixOf?
        ((⟨assetsDir⟩ : Path).clean.components ++ rel.components) = some rel.components :=
      List.isPrefixOf?_eq_some_iff_append_eq.2 rfl
    rw [belowAssets?_below hsteps hpath, hstarts]
  · next hnames =>
    rw [← hfile]
    cases hstrip : (((root.join ⟨assetsDir⟩).join rel).clean).stripPrefix?
        (make root assetsDir version).root with
    | none => exact belowAssets?_outside hstrip
    | some rest =>
      -- What lies below the project has names only, and the assets directory has not.
      obtain ⟨cs, hcs, -⟩ := Path.components_of_stripPrefix? hstrip
      have hnormal : ∀ c ∈ cs, c.isNormal ∧ c.IsStep := by
        obtain ⟨names, hall, hleft⟩ :=
          Path.cleanComponents_of_isAbsolute (Path.isAbsolute_join hsource rel)
        obtain ⟨above, -, habove⟩ := Path.cleanComponents_of_isAbsolute habs
        rw [← Path.components_clean_of_isAbsolute (Path.isAbsolute_join hsource rel), hcs, hroot,
          ← hclean, Path.components_clean_of_isAbsolute habs, habove, List.cons_append] at hleft
        intro c hc
        refine hall c ?_
        rw [← List.tail_eq_of_cons_eq hleft]
        exact List.mem_append_right _ hc
      have hstarts : (make root assetsDir version).assetsDir.components.isPrefixOf? cs = none :=
        isPrefixOf?_eq_none hnames fun c hc => (hnormal c hc).1
      rw [belowAssets?_below (fun c hc => (hnormal c hc).2) hcs, hstarts]

end Copied

/-- What follows an `assets` component comes after it. -/
theorem exists_before_of_afterFirstAssets? {cs way : List Component}
    (h : afterFirstAssets? cs = some way) : ∃ before, cs = before ++ .normal "assets" :: way := by
  induction cs with
  | nil => cases h
  | cons c cs ih =>
    by_cases hc : c = .normal "assets"
    · subst hc
      exact ⟨[], by rw [List.nil_append, Option.some.inj h]⟩
    · rw [afterFirstAssets?] at h
      · obtain ⟨before, rfl⟩ := ih h
        exact ⟨c :: before, rfl⟩
      · exact fun heq => hc heq

/-- The way from the first `assets` to the end of a path has steps only. -/
theorem isStep_of_afterFirstAssets? {p : Path} {way : List Component}
    (h : afterFirstAssets? p.components = some way) : ∀ c ∈ way, c.IsStep := by
  obtain ⟨before, hbefore⟩ := exists_before_of_afterFirstAssets? h
  have horder := Path.inOrder_components p
  rw [hbefore] at horder
  cases before with
  | nil => exact horder.2
  | cons first rest =>
    intro c hc
    exact horder.2 c (List.mem_append_right _ (List.mem_cons_of_mem _ hc))

theorem isStep_way_append {p rel : Path} {way : List Component}
    (hway : afterFirstAssets? p.components = some way) (hrel : rel.HasNames) :
    ∀ c ∈ way ++ rel.components, c.IsStep := by
  intro c hc
  obtain hc | hc := List.mem_append.1 hc
  · exact isStep_of_afterFirstAssets? hway c hc
  · exact hrel.isStep c hc

/-- Whether the files of an assets directory are linked where they are copied: the directory cleans
to names, or it is itself the first one named `assets` on the way to it. -/
def Covers (root : Path) (assetsDir : String) : Prop :=
  (⟨assetsDir⟩ : Path).clean.HasNames ∨
    afterFirstAssets? (root.join ⟨assetsDir⟩).clean.components = some []

/-- A style sheet that lies directly in the assets directory. -/
def sheet : Path := ⟨"x"⟩

theorem components_sheet : sheet.components = [.normal "x"] := by decide

theorem hasNames_sheet : sheet.HasNames := by decide

section Covered

variable {root : Path} (habs : root.isAbsolute) (hclean : root.clean = root) {assetsDir : String}
variable (version : Option String)
include habs hclean

theorem urlFor_of_covers (h : Covers root assetsDir) (kind : ResourceKind) {rel : Path}
    (hrel : rel.HasNames) (hne : rel.components ≠ []) :
    (make root assetsDir version).urlFor
        ⟨kind, .file ((root.join ⟨assetsDir⟩).join rel).clean⟩
      = "/assets/" ++ servedName kind (slashed rel.components) ++ versionSuffix version := by
  refine urlFor_of_belowAssets? ?_ kind
  rw [belowAssets?_copied habs hclean assetsDir version hrel]
  split
  · rfl
  · next hnames =>
    obtain hnames' | hfirst := h
    · exact absurd hnames' hnames
    · rw [afterAssets?_append _ hne, hfirst]
      rfl

/-- A style sheet that lies directly in the assets directory shows whether the directory is
covered. -/
theorem covers_of_sheet
    (h : (make root assetsDir version).urlFor
        ⟨.styleSheet, .file ((root.join ⟨assetsDir⟩).join sheet).clean⟩
      = "/assets/" ++ slashed sheet.components ++ versionSuffix version) :
    Covers root assetsDir := by
  by_contra hnot
  obtain ⟨hnames, hfirst⟩ := not_or.1 hnot
  have hfile := Path.components_clean_join (Path.isAbsolute_join habs ⟨assetsDir⟩) hasNames_sheet
  have hplace := belowAssets?_copied habs hclean assetsDir version hasNames_sheet
  rw [if_neg hnames, afterAssets?_append _ (by rw [components_sheet]; simp)] at hplace
  have hlast : (((root.join ⟨assetsDir⟩).join sheet).clean).components.getLast?
      = some (.normal "x") := by
    rw [hfile, components_sheet, List.getLast?_append]
    rfl
  have hsheet : ∀ c ∈ sheet.components, c.IsStep := hasNames_sheet.isStep
  rw [urlFor_styleSheet hlast, hplace] at h
  cases hway : afterFirstAssets? (root.join ⟨assetsDir⟩).clean.components with
  | none =>
    -- It is linked by its name, below `css`.
    rw [hway] at h
    have hcss : (⟨"css/x"⟩ : Path).HasNames := by decide
    have heq := place_eq_of_url_eq hcss.isStep hsheet h
    exact absurd heq (by decide)
  | some way =>
    -- It is linked below directories that are not copied.
    rw [hway] at h
    have heq := place_eq_of_url_eq (isStep_way_append hway hasNames_sheet) hsheet h
    rw [List.append_left_eq_self] at heq
    exact hfirst (by rw [hway, heq])

end Covered

/-- The path that a walk gives to a file below a directory. -/
def walkedPath (source rel : Path) : Path :=
  rel.components.foldl (fun p c => p.join ⟨c.text⟩) source

/-- A file of the assets directory is copied to its own place below the assets of the output. -/
theorem take_file {source rel : Path} (hsource : source.components ≠ []) (hrel : rel.HasNames)
    (output : Path) :
    ∃ place : Path, place.components = output.components ++ .normal "assets" :: rel.components ∧
      ∀ (m : Type → Type) [Monad m] (disk : Disk m),
        Assets.take disk source (output.join ⟨"assets"⟩) ⟨walkedPath source rel, .file⟩ = (do
          ExceptT.mk (disk.copyFile (walkedPath source rel) place)
          ExceptT.mk (disk.copyMode (walkedPath source rel) place)
          return [place]) := by
  have hwalked : (walkedPath source rel).components = source.components ++ rel.components :=
    Path.components_foldl_join hsource hrel.isStep
  have hinside : (Path.ofComponents rel.components).components = rel.components :=
    Path.components_ofComponents (Path.inOrder_components rel)
  have hnames : (Path.ofComponents rel.components).HasNames := by
    intro c hc
    rw [hinside] at hc
    exact hrel c hc
  have hassets : (⟨"assets"⟩ : Path).HasNames := by decide
  refine ⟨(output.join ⟨"assets"⟩).join (.ofComponents rel.components), ?_, fun m _ disk => ?_⟩
  · rw [hnames.components_join, hassets.components_join, hinside, List.append_assoc]
    rfl
  · rw [Assets.take, Path.stripPrefix?_of_append hwalked, Option.getD_some]

/-- The files of an assets directory keep their places when they are copied, and each is linked at
the place where it is copied exactly if the directory is covered. -/
theorem urlFor_copied_iff {root : Path} (habs : root.isAbsolute) (hclean : root.clean = root)
    (assetsDir : String) (version : Option String) (output : Path) :
    (∀ rel : Path, rel.HasNames → ∃ place : Path,
      place.components = output.components ++ .normal "assets" :: rel.components ∧
      ∀ (m : Type → Type) [Monad m] (disk : Disk m),
        Assets.take disk (root.join ⟨assetsDir⟩) (output.join ⟨"assets"⟩)
            ⟨walkedPath (root.join ⟨assetsDir⟩) rel, .file⟩ = (do
          ExceptT.mk (disk.copyFile (walkedPath (root.join ⟨assetsDir⟩) rel) place)
          ExceptT.mk (disk.copyMode (walkedPath (root.join ⟨assetsDir⟩) rel) place)
          return [place])) ∧
    ((∀ (kind : ResourceKind) (rel : Path), rel.HasNames → rel.components ≠ [] →
      (make root assetsDir version).urlFor
          ⟨kind, .file ((root.join ⟨assetsDir⟩).join rel).clean⟩
        = "/assets/" ++ servedName kind (slashed rel.components) ++ versionSuffix version) ↔
      Covers root assetsDir) := by
  refine ⟨fun rel hrel => ?_, fun hlinks => ?_, fun hcovers kind rel hrel hne => ?_⟩
  · have hsource : (root.join ⟨assetsDir⟩).components ≠ [] := by
      intro hnil
      obtain ⟨names, -, heq⟩ :=
        Path.cleanComponents_of_isAbsolute (Path.isAbsolute_join habs ⟨assetsDir⟩)
      rw [hnil] at heq
      cases heq
    exact take_file hsource hrel output
  · have hne : sheet.components ≠ [] := by rw [components_sheet]; simp
    exact covers_of_sheet habs hclean version (hlinks .styleSheet sheet hasNames_sheet hne)
  · exact urlFor_of_covers habs hclean version hcovers kind hrel hne

/-- A directory with a name of its own is covered, with all that lies below it. -/
theorem urlFor_copied_iff_named :
    (⟨"/site"⟩ : Path).isAbsolute ∧ (⟨"/site"⟩ : Path).clean = ⟨"/site"⟩ ∧
    (make ⟨"/site"⟩ "./web/../static" (some "7")).urlFor
        ⟨.moduleScript, .file ((Path.join ⟨"/site"⟩ ⟨"./web/../static"⟩).join ⟨"js/app.ts"⟩).clean⟩
      = "/assets/js/app.js?v=7" := by
  have habs : (⟨"/site"⟩ : Path).isAbsolute := by decide
  have hclean : (⟨"/site"⟩ : Path).clean = ⟨"/site"⟩ := by decide
  have hcovers : Covers ⟨"/site"⟩ "./web/../static" := .inl (by decide)
  refine ⟨habs, hclean, ?_⟩
  rw [(urlFor_copied_iff habs hclean "./web/../static" (some "7") ⟨"public"⟩).2.2 hcovers
    .moduleScript ⟨"js/app.ts"⟩ (by decide) (by decide)]
  decide

/-- The project itself may be its assets directory, but then a file in it is linked by its name, not
where it is copied. -/
theorem projectDir_not_covered :
    Config.fault? { assetsDir := "." } = none ∧
    (⟨"/site"⟩ : Path).isAbsolute ∧ (⟨"/site"⟩ : Path).clean = ⟨"/site"⟩ ∧
    (⟨"css/deep/x.css"⟩ : Path).HasNames ∧
    (make ⟨"/site"⟩ "." none).urlFor
        ⟨.styleSheet, .file ((Path.join ⟨"/site"⟩ ⟨"."⟩).join ⟨"css/deep/x.css"⟩).clean⟩
      = "/assets/css/x.css" ∧
    "/assets/css/x.css" ≠ "/assets/" ++ slashed (⟨"css/deep/x.css"⟩ : Path).components := by
  decide

/-! ## Projects in different places -/

section Moved

variable {root : Path} (hclean : root.clean = root) (assetsDir : String) (version : Option String)
variable {rel : Path} (hrel : rel.HasNames) (hne : rel.components ≠ [])
include hclean hrel hne

/-- Of the place of a project, only what follows its first `assets` counts for the place of a
file. -/
theorem belowAssets?_rooted :
    (make root assetsDir version).belowAssets? (root.join rel) =
      match (⟨assetsDir⟩ : Path).clean.components.isPrefixOf? rel.components with
      | some rest => some rest
      | none => match afterFirstAssets? root.components with
        | some way => some (way ++ rel.components)
        | none => afterAssets? rel.components := by
  have hfile : (root.join rel).components = root.components ++ rel.components :=
    hrel.components_join root
  have hpath : (root.join rel).components
      = (make root assetsDir version).root.components ++ rel.components := by
    rw [hfile]
    exact congrArg (·.components ++ _) hclean.symm
  rw [belowAssets?_below hrel.isStep hpath, hfile, afterAssets?_append _ hne]
  rfl

end Moved

/-- The URL of a file depends on its place, its last component and the version. -/
theorem urlFor_congr {u u' : AssetUrls} {path path' : Path} (kind : ResourceKind)
    (hplace : u.belowAssets? path = u'.belowAssets? path')
    (hlast : path.components.getLast? = path'.components.getLast?)
    (hversion : u.version = u'.version) :
    u.urlFor ⟨kind, .file path⟩ = u'.urlFor ⟨kind, .file path'⟩ := by
  have hname : path.fileName? = path'.fileName? := by rw [Path.fileName?, Path.fileName?, hlast]
  have hbyName : placeByName kind path = placeByName kind path' := by
    unfold placeByName Path.fileStem?
    rw [hname]
  rw [urlFor_file, urlFor_file, fileUrl, fileUrl, hplace, hbyName, hversion]

/-- There is a style sheet that neither the assets directory nor a directory named `assets` holds,
and that is not named as if it did. -/
theorem exists_sheet_outside (assetsDir : String) :
    ∃ (rel : Path) (name : String), rel.HasNames ∧ rel.components = [.normal name, .normal "c"] ∧
      name ≠ "css" ∧ afterAssets? rel.components = none ∧
      (⟨assetsDir⟩ : Path).clean.components.isPrefixOf? rel.components = none := by
  have hne : (⟨assetsDir⟩ : Path).clean.components ≠ [] := by
    rw [Path.components_clean]
    split
    · simp
    · next hcs => exact hcs
  have hstarts (name : String) (hname : (⟨assetsDir⟩ : Path).clean.components.head?
        ≠ some (.normal name)) :
      (⟨assetsDir⟩ : Path).clean.components.isPrefixOf? [.normal name, .normal "c"] = none := by
    cases hdir : (⟨assetsDir⟩ : Path).clean.components with
    | nil => exact absurd hdir hne
    | cons first rest =>
      have hfirst : first ≠ .normal name := fun heq => hname (by rw [hdir, heq]; rfl)
      simp [List.isPrefixOf?, hfirst]
  by_cases ha : (⟨assetsDir⟩ : Path).clean.components.head? = some (.normal "a")
  · have hcomponents : (⟨"b/c"⟩ : Path).components = [.normal "b", .normal "c"] := by
      decide
    refine ⟨⟨"b/c"⟩, "b", by decide, hcomponents, by decide, by decide, ?_⟩
    rw [hcomponents]
    exact hstarts "b" (by rw [ha]; decide)
  · have hcomponents : (⟨"a/c"⟩ : Path).components = [.normal "a", .normal "c"] := by
      decide
    refine ⟨⟨"a/c"⟩, "a", by decide, hcomponents, by decide, by decide, ?_⟩
    rw [hcomponents]
    exact hstarts "a" ha

/-- The place of such a style sheet, by the way from the first `assets` to its project. -/
def placeAfter (way? : Option (List Component)) (cs : List Component) : List Component :=
  match way? with
  | some way => way ++ cs
  | none => [.normal "css", .normal "c"]

/-- A place by name is not a place after a directory named `assets`. -/
theorem placeAfter_inj {name : String} (hname : name ≠ "css") {way? way?' : Option (List Component)}
    (h : placeAfter way? [.normal name, .normal "c"]
      = placeAfter way?' [.normal name, .normal "c"]) : way? = way?' := by
  have hdiffer (way : List Component) :
      [.normal "css", .normal "c"] ≠ way ++ [.normal name, .normal "c"] := by
    intro heq
    have hlength := congrArg List.length heq
    simp only [List.length_append, List.length_cons, List.length_nil] at hlength
    rw [List.eq_nil_of_length_eq_zero (by omega : way.length = 0)] at heq
    injection heq with heq
    injection heq with heq
    exact hname heq.symm
  cases way? with
  | none =>
    cases way?' with
    | none => rfl
    | some way' => exact absurd h (hdiffer way')
  | some way =>
    cases way?' with
    | none => exact absurd h.symm (hdiffer way)
    | some way' => rw [List.append_cancel_right h]

theorem isStep_placeAfter (p : Path) {rel : Path} (hrel : rel.HasNames) :
    ∀ c ∈ placeAfter (afterFirstAssets? p.components) rel.components, c.IsStep := by
  cases hway : afterFirstAssets? p.components with
  | none =>
    have hcss : (⟨"css/c"⟩ : Path).HasNames := by decide
    exact hcss.isStep
  | some way => exact isStep_way_append hway hrel

theorem urlFor_outside {root : Path} (hclean : root.clean = root) {assetsDir : String}
    (version : Option String) {rel : Path} {name : String} (hrel : rel.HasNames)
    (hcomponents : rel.components = [.normal name, .normal "c"])
    (hafter : afterAssets? rel.components = none)
    (hstarts : (⟨assetsDir⟩ : Path).clean.components.isPrefixOf? rel.components = none) :
    (make root assetsDir version).urlFor ⟨.styleSheet, .file (root.join rel)⟩
      = "/assets/" ++ slashed (placeAfter (afterFirstAssets? root.components) rel.components)
        ++ versionSuffix version := by
  have hne : rel.components ≠ [] := by rw [hcomponents]; simp
  have hlast : rel.components.getLast? = some (.normal "c") := by rw [hcomponents]; rfl
  have hplace := belowAssets?_rooted hclean assetsDir version hrel hne
  rw [hstarts] at hplace
  rw [urlFor_styleSheet ((hrel.getLast?_join hne root).trans hlast), hplace]
  cases afterFirstAssets? root.components with
  | none =>
    rw [hafter]
    rfl
  | some way => rfl

/-- Two projects link a file in the same place below them by the same URL if it lies in the assets
directory.  They link all files by the same URLs exactly if the same way follows the first `assets`
in their own places, or if neither place has one. -/
theorem urlFor_moved_iff {root root' : Path} (hclean : root.clean = root)
    (hclean' : root'.clean = root') (assetsDir : String) (version : Option String) :
    (∀ (kind : ResourceKind) (rel : Path), rel.HasNames → rel.components ≠ [] →
      (⟨assetsDir⟩ : Path).clean.components <+: rel.components →
      (make root assetsDir version).urlFor ⟨kind, .file (root.join rel)⟩
        = (make root' assetsDir version).urlFor ⟨kind, .file (root'.join rel)⟩) ∧
    ((∀ (kind : ResourceKind) (rel : Path), rel.HasNames → rel.components ≠ [] →
      (make root assetsDir version).urlFor ⟨kind, .file (root.join rel)⟩
        = (make root' assetsDir version).urlFor ⟨kind, .file (root'.join rel)⟩) ↔
      afterFirstAssets? root.components = afterFirstAssets? root'.components) := by
  have hcongr (kind : ResourceKind) {rel : Path} (hrel : rel.HasNames) (hne : rel.components ≠ [])
      (hplace : (make root assetsDir version).belowAssets? (root.join rel)
        = (make root' assetsDir version).belowAssets? (root'.join rel)) :
      (make root assetsDir version).urlFor ⟨kind, .file (root.join rel)⟩
        = (make root' assetsDir version).urlFor ⟨kind, .file (root'.join rel)⟩ := by
    refine urlFor_congr kind hplace ?_ rfl
    rw [hrel.getLast?_join hne, hrel.getLast?_join hne]
  refine ⟨fun kind rel hrel hne hinside => ?_, fun hall => ?_, fun hways kind rel hrel hne => ?_⟩
  · obtain ⟨rest, hrest⟩ := hinside
    refine hcongr kind hrel hne ?_
    rw [belowAssets?_rooted hclean assetsDir version hrel hne,
      belowAssets?_rooted hclean' assetsDir version hrel hne,
      List.isPrefixOf?_eq_some_iff_append_eq.2 hrest]
  · -- One style sheet outside the assets directory tells the ways apart.
    obtain ⟨rel, name, hrel, hcomponents, hname, hafter, hstarts⟩ := exists_sheet_outside assetsDir
    have hurl := hall .styleSheet rel hrel (by rw [hcomponents]; simp)
    rw [urlFor_outside hclean version hrel hcomponents hafter hstarts,
      urlFor_outside hclean' version hrel hcomponents hafter hstarts] at hurl
    have hplaces := place_eq_of_url_eq (isStep_placeAfter root hrel) (isStep_placeAfter root' hrel)
      hurl
    rw [hcomponents] at hplaces
    exact placeAfter_inj hname hplaces
  · refine hcongr kind hrel hne ?_
    rw [belowAssets?_rooted hclean assetsDir version hrel hne,
      belowAssets?_rooted hclean' assetsDir version hrel hne, hways]

/-- Neither place has a directory named `assets`. -/
theorem urlFor_moved_iff_home :
    (⟨"/site"⟩ : Path).clean = ⟨"/site"⟩ ∧ (⟨"/home/site"⟩ : Path).clean = ⟨"/home/site"⟩ ∧
    (make ⟨"/site"⟩ "assets" none).urlFor ⟨.styleSheet, .file (.join ⟨"/site"⟩ ⟨"pages/a.css"⟩)⟩
      = (make ⟨"/home/site"⟩ "assets" none).urlFor
          ⟨.styleSheet, .file (.join ⟨"/home/site"⟩ ⟨"pages/a.css"⟩)⟩ := by
  have hclean : (⟨"/site"⟩ : Path).clean = ⟨"/site"⟩ := by decide
  have hclean' : (⟨"/home/site"⟩ : Path).clean = ⟨"/home/site"⟩ := by decide
  refine ⟨hclean, hclean', ?_⟩
  exact (urlFor_moved_iff hclean hclean' "assets" none).2.2 (by decide) .styleSheet
    ⟨"pages/a.css"⟩ (by decide) (by decide)

/-- A project below a directory named `assets` links the style sheet of a page by the way from that
directory, any other project by its name. -/
theorem urlFor_depends_on_place :
    (⟨"/site"⟩ : Path).isAbsolute ∧ (⟨"/site"⟩ : Path).clean = ⟨"/site"⟩ ∧
    (⟨"/home/assets/site"⟩ : Path).isAbsolute ∧
    (⟨"/home/assets/site"⟩ : Path).clean = ⟨"/home/assets/site"⟩ ∧
    (⟨"assets"⟩ : Path).isAbsolute = false ∧ .parent ∉ (⟨"assets"⟩ : Path).components ∧
    (⟨"pages/index.css"⟩ : Path).HasNames ∧
    (make ⟨"/site"⟩ "assets" none).urlFor
        ⟨.styleSheet, .file (.join ⟨"/site"⟩ ⟨"pages/index.css"⟩)⟩ = "/assets/css/index.css" ∧
    (make ⟨"/home/assets/site"⟩ "assets" none).urlFor
        ⟨.styleSheet, .file (.join ⟨"/home/assets/site"⟩ ⟨"pages/index.css"⟩)⟩
      = "/assets/site/pages/index.css" ∧
    "/assets/css/index.css" ≠ "/assets/site/pages/index.css" := by
  decide

end AssetUrls

end StaticSite
