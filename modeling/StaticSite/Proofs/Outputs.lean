/-
  What the outputs of a build hold.

  Each page is written to a place of its own, and stubs are only made where nothing is, so
  when the pages are finished every output holds the text of its page (`Site.Builds.content`).
  The assets come last, below the name `assets` of the output directory.  There they replace
  what is in their way: a page from a directory `assets` is lost if an asset has its name
  (`Site.asset_replaces_page`).  All other pages stay, and every asset is there
  (`Site.compile_outputs`).
-/

import StaticSite.Proofs.Contents
import StaticSite.Proofs.Reports

open StaticSite.Path (IsName)

namespace StaticSite

open FileSystem (disk)
open BuildM (machine)

namespace FileSystem

variable {fs fs' : FileSystem}

/-- Whether a path leads to a file that holds some content. -/
def Holds (fs : FileSystem) (path : Path) (content : List UInt8) : Prop :=
  ∃ place, fs.follow path = .ok place ∧ fs.content? place = some content

/-- Whether neither of two places is at or below the other. -/
def IsApart (place place' : Place) : Prop := ¬place <+: place' ∧ ¬place' <+: place

theorem IsApart.append_ne {place place' : Place} (h : IsApart place place') (rest rest' : Place) :
    place ++ rest ≠ place' ++ rest' := by
  intro heq
  obtain hprefix | hprefix := List.prefix_or_prefix_of_prefix (List.prefix_append place rest)
    (heq ▸ List.prefix_append place' rest')
  · exact h.1 hprefix
  · exact h.2 hprefix

/-- No file can be written to a path that ends in a slash. -/
theorem writeBytes_slash {base : Path} {content : List UInt8} :
    fs.writeBytes (base.join ⟨""⟩) content ≠ .ok fs' := by
  intro h
  obtain ⟨⟨place, opened⟩, hopen, -⟩ := Except.bind_eq_ok h
  obtain ⟨steps, hsteps, hopen⟩ := Except.bind_eq_ok hopen
  obtain ⟨hne, -, -⟩ := text_of_pieces hsteps
  obtain ⟨before, htext⟩ : ∃ before, (base.join ⟨""⟩).text.toList = before ++ ['/'] := by
    have hbase : base.text ≠ "" := by
      intro hempty
      obtain ⟨text⟩ := base
      cases hempty
      rw [Path.join_empty] at hne
      exact hne rfl
    obtain ⟨before, htext, -⟩ := @Path.toList_join base ⟨""⟩ hbase rfl
    exact ⟨before, htext⟩
  have hend : endsInDirectory steps = true := by
    rw [← pieces_eq_ok hsteps, Text.split, htext, Text.splitAt_append, List.map_append]
    simp [endsInDirectory, Text.splitAt]
  obtain ⟨place', -, hopen⟩ := Except.bind_eq_ok hopen
  rw [if_pos hend] at hopen
  cases hopen

end FileSystem

open FileSystem (IsApart)

namespace Site

variable {project : Project} {output : Path} {s s₁ s' : Session × FileSystem} {place out : Place}
  {ps : List Finished}

/-! ## Pages -/

theorem Finishes.evolved {path : Path} {compiled : CompiledPage} (hsound : s.2.IsSound)
    (h : Finishes project output s path compiled s') :
    s'.2.IsSound ∧ FileSystem.Evolved s.2 s'.2 := by
  obtain ⟨s₁, s₂, hcompiled, hwritten, rfl⟩ := h
  obtain ⟨hsound₁, hevolved₁⟩ :=
    BuildM.evolved_of_keeps (compileAt_keeps project path) hsound hcompiled
  obtain ⟨hsound₂, hevolved₂⟩ :=
    BuildM.evolved_of_keeps (writePage_keeps _ _) hsound₁ hwritten
  exact ⟨hsound₂, hevolved₁.trans hevolved₂⟩

theorem Builds.evolved (h : Builds project output place s ps s') (hsound : s.2.IsSound) :
    s'.2.IsSound ∧ FileSystem.Evolved s.2 s'.2 := by
  induction h with
  | done => exact ⟨hsound, .refl _⟩
  | page _ _ finishes _ ih =>
    obtain ⟨hsound₁, hevolved₁⟩ := finishes.evolved hsound
    obtain ⟨hsound', hevolved'⟩ := ih hsound₁
    exact ⟨hsound', hevolved₁.trans hevolved'⟩

/-- The output of a page that is finished holds its text, and what other files hold stays. -/
theorem Finishes.content {names : List String} {compiled : CompiledPage} (hsound : s.2.IsSound)
    (hout : s.2.foot output = .ok out) (hnames : ∀ name ∈ names, IsName name)
    (h : Finishes project output s ((pagesOf project).below names) compiled s') :
    s'.2.follow (summaryOf project output ((pagesOf project).below names) compiled).output
        = .ok (out ++ names) ∧
      s'.2.content? (out ++ names) = some (Text.encode compiled.html) ∧
      ∀ q content, q ≠ out ++ names → s.2.content? q = some content →
        s'.2.content? q = some content := by
  have hevolved := h.evolved hsound
  obtain ⟨s₁, s₂, hcompiled, hwritten, rfl⟩ := h
  obtain ⟨paths, hstraight, hstubs⟩ := compileAt_stubs project hcompiled
  have hgrown := (FileSystem.createMissing_grown hsound.tree hstraight).2
  have hkept := FileSystem.Evolving.createMissing paths s.2 hsound
  rw [hstubs] at hgrown hkept
  -- Stubs and directories come first, and they take the place of no file.
  obtain ⟨fs, written, mode, hsound', hdirs, hbytes, hfollow, hroot, heq⟩ :=
    writePage_ok hkept.1 hwritten
  -- The output is written below the output directory, so its path leads to the page's own place.
  have hpath : (summaryOf project output ((pagesOf project).below names) compiled).output
      = output.join (Path.ofComponents (names.map .normal)) := by
    rw [summaryOf, relative_below hnames]
  have hne : names ≠ [] := by
    rintro rfl
    rw [hpath] at hbytes
    exact FileSystem.writeBytes_slash hbytes
  have hfoot : fs.foot output = .ok out :=
    hdirs.evolved.foot (hkept.2.foot hout)
  obtain rfl : written = out ++ names := by
    rw [hpath, Path.join_ofNames _ hne hnames] at hfollow
    exact FileSystem.follow_below hfoot hnames hfollow
  have hwrite := (FileSystem.writeBytes_evolved hsound' hbytes).2
  refine ⟨hwrite.follow hfollow, ?_, fun q content hq hcontent => ?_⟩
  · rw [heq]
    exact FileSystem.content?_put_self hroot _ _
  · rw [heq, FileSystem.content?_put_of_ne hq]
    exact hdirs.content? (hgrown.content? hcontent)

/-- When the pages are finished, each output holds the text of its page; what other files hold
stays. -/
theorem Builds.content (h : Builds project output place s ps s') (hsound : s.2.IsSound)
    (hout : s.2.foot output = .ok out) (hnames : ∀ p ∈ ps, ∀ name ∈ p.names, IsName name)
    (hdistinct : (ps.map (·.names)).Nodup) :
    (∀ p ∈ ps, s'.2.follow (p.summary project output).output = .ok (out ++ p.names) ∧
        s'.2.content? (out ++ p.names) = some (Text.encode p.compiled.html)) ∧
      ∀ q content, (∀ p ∈ ps, q ≠ out ++ p.names) → s.2.content? q = some content →
        s'.2.content? q = some content := by
  induction h with
  | done => exact ⟨fun _ h => absurd h List.not_mem_nil, fun _ _ _ h => h⟩
  | @page s s₁ s' p ps there isPage finishes rest ih =>
    obtain ⟨hnew, hdistinct⟩ := List.nodup_cons.1 hdistinct
    obtain ⟨hsound₁, hevolved₁⟩ := finishes.evolved hsound
    obtain ⟨hfollow, hcontent, hkept⟩ := finishes.content hsound hout (hnames p List.mem_cons_self)
    obtain ⟨hpages, hothers⟩ := ih hsound₁ (hevolved₁.foot hout)
      (fun q hq => hnames q (List.mem_cons_of_mem _ hq)) hdistinct
    refine ⟨fun q hq => ?_, fun q content hq hold => ?_⟩
    · obtain rfl | hq := List.mem_cons.1 hq
      · -- No later page has the place of this one.
        refine ⟨(rest.evolved hsound₁).2.follow hfollow, hothers _ _ (fun r hr heq => ?_) hcontent⟩
        exact hnew (List.mem_map.2 ⟨r, hr, (List.append_cancel_left heq).symm⟩)
      · exact hpages q hq
    · exact hothers q content (fun r hr => hq r (List.mem_cons_of_mem _ hr))
        (hkept q content (hq p List.mem_cons_self) hold)

/-! ## Pages and assets -/

theorem Completes.start {fs : FileSystem} {summary : Summary} (hsound : s.2.IsSound)
    (h : Completes project output s fs place ps s₁ summary s') :
    fs.IsSound ∧ FileSystem.Evolved s.2 fs := by
  have hmade := FileSystem.Evolving.makeDirectories output s.2 hsound
  rwa [h.made] at hmade

theorem Completes.evolved {fs : FileSystem} {summary : Summary} (hsound : s.2.IsSound)
    (h : Completes project output s fs place ps s₁ summary s') :
    FileSystem.Evolved s.2 fs ∧ s₁.2.IsSound ∧ FileSystem.Evolved fs s₁.2 ∧
      FileSystem.Evolved s₁.2 s'.2 := by
  obtain ⟨hmade, hevolved⟩ := h.start hsound
  obtain ⟨hsound₁, hevolved₁⟩ := h.built.evolved hmade
  exact ⟨hevolved, hsound₁, hevolved₁, (Assets.copyDirectory_evolved hsound₁ h.copied).2⟩

/-- What a build leaves behind whose output directory is apart from the assets.  Every asset is
where its path below the name `assets` of the output directory leads, and every output holds the
text of its page, unless an asset was copied to its place. -/
theorem compile_outputs {summary : Summary} (hsound : s.2.IsSound)
    (h : machine.run (compile project disk output) s = (.ok summary, s'))
    (hapart : ∀ out assets, s'.2.foot output = .ok out → s'.2.follow (assetsOf project) = .ok assets →
      IsApart out assets) :
    ∃ fs place ps s₁, Completes project output s fs place ps s₁ summary s' ∧
      (∀ assets names content, s₁.2.follow (assetsOf project) = .ok assets → names ≠ [] →
        s₁.2.content? (assets ++ names) = some content →
          s'.2.Holds ((output.join ⟨"assets"⟩).below names) content) ∧
      ∀ p ∈ ps, (∀ assets names, s₁.2.follow (assetsOf project) = .ok assets → names ≠ [] →
          p.names = "assets" :: names → ¬s₁.2.IsFile (assets ++ names)) →
        s'.2.Holds (p.summary project output).output (Text.encode p.compiled.html) := by
  obtain ⟨fs, place, ps, s₁, hcompletes, hpages, -⟩ := compile_ok hsound h
  obtain ⟨-, hsound₁, hevolved₁, hevolved'⟩ := hcompletes.evolved hsound
  obtain ⟨out, hout, -⟩ := FileSystem.foot_of_makeDirectories hsound hcompletes.made
  have hproper : ∀ p ∈ ps, ∀ name ∈ p.names, IsName name := fun p hp =>
    hpages.isName (List.mem_map_of_mem hp)
  have hout₁ : s₁.2.foot output = .ok out := hevolved₁.foot hout
  have hapart₁ : ∀ assets, s₁.2.follow (assetsOf project) = .ok assets →
      ∀ rest rest', assets ++ rest ≠ out ++ "assets" :: rest' := fun assets hassets rest rest' heq =>
    (hapart out assets (hevolved'.foot hout₁) (hevolved'.follow hassets)).append_ne _ _ heq.symm
  obtain ⟨hcopied, hothers⟩ := Assets.copyDirectory_copies (by decide) hsound₁ hout₁ hapart₁
    hcompletes.copied
  obtain ⟨hheld, -⟩ := hcompletes.built.content (hcompletes.start hsound).1 hout hproper hpages.distinct
  refine ⟨fs, place, ps, s₁, hcompletes, fun assets names content hassets hne hcontent => ?_,
    fun p hp hfree => ?_⟩
  · obtain ⟨hfollow, hcontent'⟩ := hcopied assets names content hassets hne hcontent
    exact ⟨_, hfollow, hcontent'⟩
  · obtain ⟨hfollow, hcontent⟩ := hheld p hp
    refine ⟨_, hevolved'.follow hfollow, ?_⟩
    rw [hothers, hcontent]
    intro assets names hassets hne hfile heq
    exact hfree assets names hassets hne (List.append_cancel_left heq) hfile

/-! Output and assets of a site with one page and one asset. -/

theorem compile_outputs_small : smallFiles.IsSound ∧ ∃ summary s',
    machine.run (compile smallProject disk ⟨"/site/public"⟩) ({}, smallFiles) = (.ok summary, s') ∧
      (∀ out assets, s'.2.foot ⟨"/site/public"⟩ = .ok out →
        s'.2.follow (assetsOf smallProject) = .ok assets → IsApart out assets) ∧
      ∃ fs place ps s₁,
        Completes smallProject ⟨"/site/public"⟩ ({}, smallFiles) fs place ps s₁ summary s' ∧
        (∀ assets names content, s₁.2.follow (assetsOf smallProject) = .ok assets → names ≠ [] →
          s₁.2.content? (assets ++ names) = some content →
            s'.2.Holds ((Path.join ⟨"/site/public"⟩ ⟨"assets"⟩).below names) content) ∧
        ∀ p ∈ ps, (∀ assets names, s₁.2.follow (assetsOf smallProject) = .ok assets → names ≠ [] →
            p.names = "assets" :: names → ¬s₁.2.IsFile (assets ++ names)) →
          s'.2.Holds (p.summary smallProject ⟨"/site/public"⟩).output
            (Text.encode p.compiled.html) := by
  refine ⟨smallFiles_isSound, ?_⟩
  have hend : ∃ run, machine.run (compile smallProject disk ⟨"/site/public"⟩) ({}, smallFiles) = run ∧
      run.1.isOk = true ∧
      (FileSystem.foot run.2.2 ⟨"/site/public"⟩).toOption = some ["site", "public"] ∧
      (FileSystem.follow run.2.2 (assetsOf smallProject)).toOption = some ["site", "assets"] :=
    ⟨_, rfl, by decide +kernel⟩
  obtain ⟨⟨_ | summary, s'⟩, hrun, hok, hout, hassets⟩ := hend
  · cases hok
  · have hapart : ∀ out assets, s'.2.foot ⟨"/site/public"⟩ = .ok out →
        s'.2.follow (assetsOf smallProject) = .ok assets → IsApart out assets := by
      intro out assets hout' hassets'
      obtain rfl := Except.ok.inj ((Except.eq_ok_of_toOption hout).symm.trans hout')
      obtain rfl := Except.ok.inj ((Except.eq_ok_of_toOption hassets).symm.trans hassets')
      exact ⟨by decide, by decide⟩
    exact ⟨summary, s', hrun, hapart, compile_outputs smallFiles_isSound hrun hapart⟩

/-! ## A page that an asset replaces

The page is in a directory `assets` of the pages, and an asset has its name. -/

def reservedProject : Project where
  root := ⟨"/site"⟩
  config := { assets := { createMissing := false, pageAssets := false } }
  version := none

def reservedFiles : FileSystem where
  entries := [
    (["site"], .directory FileSystem.directoryMode),
    (["site", "assets"], .directory FileSystem.directoryMode),
    (["site", "assets", "a.html"], .file (Text.encode "asset") FileSystem.fileMode),
    (["site", "pages"], .directory FileSystem.directoryMode),
    (["site", "pages", "assets"], .directory FileSystem.directoryMode),
    (["site", "pages", "assets", "a.html"], .file (Text.encode "page") FileSystem.fileMode)]

def reservedOutput : Path := ⟨"/site/public"⟩

def reservedRun : Except BuildError Summary × Session × FileSystem :=
  machine.run (compile reservedProject disk reservedOutput) ({}, reservedFiles)

/-- The text that the page comes to, once the output directory was made. -/
def reservedText? : Option String :=
  ((machine.run (compileAt reservedProject ⟨"/site/pages/assets/a.html"⟩)
    ({}, ((disk.makeDirectories reservedOutput).run reservedFiles).2)).1.toOption).map (·.html)

theorem reservedFiles_isSound : reservedFiles.IsSound :=
  FileSystem.isSound_of_entries (by decide) (FileSystem.isDirectory_nil _) (by decide) (by decide)

theorem reservedRun_ends : ∃ summary s', reservedRun = (.ok summary, s') ∧
    summary.pages.map (·.output) = [⟨"/site/public/assets/a.html"⟩] ∧
    s'.2.foot reservedOutput = .ok ["site", "public"] ∧
    s'.2.follow (pagesOf reservedProject) = .ok ["site", "pages"] ∧
    s'.2.follow (assetsOf reservedProject) = .ok ["site", "assets"] ∧
    s'.2.follow ⟨"/site/public/assets/a.html"⟩ = .ok ["site", "public", "assets", "a.html"] ∧
    s'.2.content? ["site", "public", "assets", "a.html"] = some (Text.encode "asset") := by
  have hend : ∃ run, reservedRun = run ∧
      run.1.toOption.map (fun summary => summary.pages.map (·.output))
        = some [⟨"/site/public/assets/a.html"⟩] ∧
      (FileSystem.foot run.2.2 reservedOutput).toOption = some ["site", "public"] ∧
      (FileSystem.follow run.2.2 (pagesOf reservedProject)).toOption = some ["site", "pages"] ∧
      (FileSystem.follow run.2.2 (assetsOf reservedProject)).toOption = some ["site", "assets"] ∧
      (FileSystem.follow run.2.2 ⟨"/site/public/assets/a.html"⟩).toOption
        = some ["site", "public", "assets", "a.html"] ∧
      FileSystem.content? run.2.2 ["site", "public", "assets", "a.html"]
        = some (Text.encode "asset") := ⟨_, rfl, by decide +kernel⟩
  obtain ⟨⟨_ | summary, s'⟩, hrun, hpages, hout, hsource, hassets, hfollow, hcontent⟩ := hend
  · cases hpages
  · exact ⟨summary, s', hrun, Option.some.inj hpages, Except.eq_ok_of_toOption hout,
      Except.eq_ok_of_toOption hsource, Except.eq_ok_of_toOption hassets,
      Except.eq_ok_of_toOption hfollow, hcontent⟩

/-- The build comes to its end, its output directory is apart from pages and assets, and the output
of its page does not hold the text of the page. -/
theorem asset_replaces_page : ∃ summary s' fs place ps s₁,
    machine.run (compile reservedProject disk reservedOutput) ({}, reservedFiles) = (.ok summary, s') ∧
      Completes reservedProject reservedOutput ({}, reservedFiles) fs place ps s₁ summary s' ∧
      s'.2.foot reservedOutput = .ok ["site", "public"] ∧
      s'.2.follow (pagesOf reservedProject) = .ok ["site", "pages"] ∧
      s'.2.follow (assetsOf reservedProject) = .ok ["site", "assets"] ∧
      ∃ p ∈ ps, ¬s'.2.Holds (p.summary reservedProject reservedOutput).output
        (Text.encode p.compiled.html) := by
  obtain ⟨summary, s', hrun, hpages, hout, hsource, hassets, hfollow, hcontent⟩ := reservedRun_ends
  obtain ⟨fs, place, ps, s₁, hcompletes, hapart, hcovers⟩ := compile_ok reservedFiles_isSound hrun
  obtain ⟨hevolved, -, hevolved₁, hevolved'⟩ := hcompletes.evolved reservedFiles_isSound
  obtain rfl : ["site", "pages"] = place := Except.ok.inj
    (hsource.symm.trans (hevolved'.follow (hevolved₁.follow hcompletes.found)))
  have hmem : ["assets", "a.html"] ∈ ps.map (·.names) :=
    hcovers _ (hevolved.kinds _ _ (by decide)) (by decide +kernel)
  obtain ⟨p, hp, hnames⟩ := List.mem_map.1 hmem
  -- The summary lists one page, so this is the first one that was compiled.
  have hlength := congrArg List.length hpages
  rw [hcompletes.pages, List.length_map, List.length_map] at hlength
  obtain ⟨q, rfl⟩ := List.length_eq_one_iff.1 hlength
  obtain rfl := List.mem_singleton.1 hp
  have houtput : (p.summary reservedProject reservedOutput).output
      = ⟨"/site/public/assets/a.html"⟩ := by
    rw [hcompletes.pages] at hpages
    simpa using hpages
  have hhtml : reservedText? = some p.compiled.html := by
    have hbuilt := hcompletes.built
    cases hbuilt with
    | page _ _ finishes _ =>
      obtain ⟨_, _, hcompiled, -, -⟩ := finishes
      have hpath : (pagesOf reservedProject).below p.names = ⟨"/site/pages/assets/a.html"⟩ := by
        rw [hnames]
        decide
      rw [Finished.source, hpath] at hcompiled
      rw [reservedText?, hcompletes.made, hcompiled]
      rfl
  refine ⟨summary, s', fs, _, [p], s₁, hrun, hcompletes, hout, hsource, hassets, p,
    List.mem_singleton_self _, ?_⟩
  rintro ⟨place, hplace, hholds⟩
  rw [houtput, hfollow] at hplace
  cases hplace
  rw [hcontent] at hholds
  have hsame : reservedText?.map Text.encode = some (Text.encode "asset") := by
    rw [hhtml, Option.map_some, Option.some.inj hholds]
  exact absurd hsame (by decide +kernel)

end Site

end StaticSite
