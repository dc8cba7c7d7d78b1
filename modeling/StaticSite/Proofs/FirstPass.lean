/-
  What the first pass over a page in a layout writes.

  The pass splices the layout, splices the page, puts the page into the layout, fills the
  places for links and drops the slots that are left, one after the other.  What it
  writes is one walk over the markers of the layout, where the first place for a page is
  a walk over the markers of the page (`Page.oneWalk`).  A walk goes over the segments
  that were read and copies what it puts in their place, so nothing that a partial, the
  page or a link brings along is looked at again (`Page.compile_oneWalk`).
-/

import StaticSite.Proofs.PassLimit

namespace StaticSite

open Template (Fragment Segment Marker Reference Extraction Replacement fragmentOf)

/-! ## Walks -/

namespace Template.Fragment

section Walk

variable (text : Reference → String) (css js : String)

/-- The text of some segments with something in the place of every marker; the content goes to the
first place for it, and to no other. -/
def walk (content : String) : List Segment → String
  | [] => ""
  | .html t :: rest => t ++ walk content rest
  | .marker (.splice ref) :: rest => text ref ++ walk content rest
  | .marker (.slot .css) :: rest => css ++ walk content rest
  | .marker (.slot .js) :: rest => js ++ walk content rest
  | .marker (.slot .page) :: rest => content ++ walk "" rest

variable {text css js} {content : String}

@[simp]
theorem walk_nil : walk text css js content [] = "" := rfl

@[simp]
theorem walk_html (t : String) (rest : List Segment) :
    walk text css js content (.html t :: rest) = t ++ walk text css js content rest := rfl

/-- A walk without content is as good as one over the parts. -/
theorem walk_append (a b : List Segment) : walk text css js "" (a ++ b) =
    walk text css js "" a ++ walk text css js "" b := by
  induction a with
  | nil => rw [List.nil_append, walk_nil, String.empty_append]
  | cons s rest ih =>
    rw [List.cons_append]
    cases s with
    | html t => rw [walk_html, walk_html, ih, String.append_assoc]
    | marker m =>
      cases m with
      | splice ref => rw [walk, walk, ih, String.append_assoc]
      | slot slot => cases slot <;> rw [walk, walk, ih, String.append_assoc]

theorem walk_htmlSegments (before : String) (rest : List Segment) :
    walk text css js content (htmlSegments before ++ rest) =
      before ++ walk text css js content rest := by
  unfold htmlSegments
  split
  · next hempty =>
    have hbefore : before = "" := by simpa using hempty
    rw [hbefore, List.nil_append, String.empty_append]
  · rfl

/-- A walk does not see how texts are joined. -/
theorem walk_joinHtml (before : String) (segments : List Segment) :
    walk text css js content (joinHtml before segments) =
      before ++ walk text css js content segments := by
  induction segments generalizing before content with
  | nil =>
    have h := @walk_htmlSegments text css js content before []
    rwa [List.append_nil] at h
  | cons s rest ih =>
    cases s with
    | html t => rw [joinHtml, ih, walk_html, String.append_assoc]
    | marker m =>
      rw [joinHtml, walk_htmlSegments]
      cases m with
      | splice ref => rw [walk, walk, ih, String.empty_append]
      | slot slot => cases slot <;> rw [walk, walk, ih, String.empty_append]

theorem walk_ofSegments (segments : List Segment) :
    walk text css js content (ofSegments segments).segments =
      walk text css js content segments := by
  rw [ofSegments, walk_joinHtml, String.empty_append]

theorem walk_ofHtml (t : String) : walk text css js content (ofHtml t).segments = t := by
  rw [ofHtml, walk_ofSegments, walk_html, walk_nil, String.append_empty]

/-- Without a place for it, the content is lost. -/
theorem walk_of_not_mem {segments : List Segment}
    (h : .slot .page ∉ segments.filterMap Segment.marker?) :
    walk text css js content segments = walk text css js "" segments := by
  induction segments with
  | nil => rfl
  | cons s rest ih =>
    cases s with
    | html t => rw [walk_html, walk_html, ih h]
    | marker m =>
      have hrest := ih fun hmem => h (List.mem_cons_of_mem m hmem)
      cases m with
      | splice ref => rw [walk, walk, hrest]
      | slot slot =>
        cases slot with
        | page => exact absurd List.mem_cons_self h
        | css => rw [walk, walk, hrest]
        | js => rw [walk, walk, hrest]

/-! ### Filling and walking -/

theorem walk_cons_marker_of_ne {m : Marker} (hm : m ≠ .slot .page) (rest : List Segment) :
    walk text css js content (.marker m :: rest) =
      walk text css js "" [.marker m] ++ walk text css js content rest := by
  cases m with
  | splice ref => simp only [walk, String.append_empty]
  | slot slot =>
    cases slot with
    | page => exact absurd rfl hm
    | css => simp only [walk, String.append_empty]
    | js => simp only [walk, String.append_empty]

/-- Splicing first and walking over the result. -/
theorem walk_filled {other : Reference → String} {fill : Marker → Option Fragment}
    (hsplice : ∀ ref, fill (.splice ref) = some (.ofHtml (text ref)))
    (hslot : ∀ slot, fill (.slot slot) = none) (f : Fragment) :
    walk other css js content (f.filled fill).segments = walk text css js content f.segments := by
  rw [filled, walk_ofSegments]
  induction f.segments generalizing content with
  | nil => rfl
  | cons s rest ih =>
    rw [List.flatMap_cons]
    cases s with
    | html t => exact congrArg (t ++ ·) ih
    | marker m =>
      cases m with
      | splice ref =>
        -- The text of the partial is one text, and the walk copies it.
        rw [fillSegment, hsplice, Option.map_some, Option.getD_some, walk, ← ih, ofHtml, ofSegments,
          joinHtml, joinHtml, String.empty_append, walk_htmlSegments]
      | slot slot =>
        rw [fillSegment, hslot, Option.map_none, Option.getD_none]
        cases slot <;> simp only [List.cons_append, List.nil_append, walk, ih]

/-- Putting the content into its place first and walking over the result. -/
theorem walk_replaceFirst? (frame inner : Fragment) :
    walk text css js "" ((frame.replaceFirst? (.slot .page) inner).getD frame).segments =
      walk text css js (walk text css js "" inner.segments) frame.segments := by
  have hcut (segments : List Segment) : walk text css js
      "" (((cutAtMarker (.slot .page) segments).map fun cut =>
        cut.1 ++ inner.segments ++ cut.2).getD segments) =
      walk text css js (walk text css js "" inner.segments) segments := by
    induction segments with
    | nil => rfl
    | cons s rest ih =>
      unfold cutAtMarker
      by_cases hs : s = .marker (.slot .page)
      · rw [if_pos hs, hs, Option.map_some, Option.getD_some]
        exact walk_append inner.segments rest
      · -- The segment is kept, whether or not the place is found after it.
        have hkeep : ((((cutAtMarker (.slot .page) rest).map fun cut =>
              (s :: cut.1, cut.2)).map fun cut =>
                cut.1 ++ inner.segments ++ cut.2).getD (s :: rest)) =
            s :: (((cutAtMarker (.slot .page) rest).map fun cut =>
              cut.1 ++ inner.segments ++ cut.2).getD rest) := by
          cases cutAtMarker (.slot .page) rest <;> rfl
        rw [if_neg hs]
        refine (congrArg (walk text css js "") hkeep).trans ?_
        cases s with
        | html t => rw [walk_html, walk_html, ih]
        | marker m =>
          have hm : m ≠ .slot .page := fun h => hs (by rw [h])
          rw [walk_cons_marker_of_ne hm, ih]
          exact (walk_cons_marker_of_ne hm rest).symm
  rw [← hcut, replaceFirst?]
  cases cutAtMarker (.slot .page) frame.segments with
  | none => rfl
  | some pieces => exact walk_ofSegments _

/-- Rendering without slots is a walk that puts nothing in their place. -/
theorem render_withoutSlots {f : Fragment} (h : f.references = []) :
    f.withoutSlots.render = walk text "" "" "" f.segments := by
  rw [withoutSlots, render_ofSegments]
  rw [references, markers] at h
  generalize f.segments = segments at h
  induction segments with
  | nil => rfl
  | cons s rest ih =>
    cases s with
    | html t =>
      rw [walk_html, ← ih h, List.filter_cons_of_pos rfl, List.map_cons, String.join_cons]
      rfl
    | marker m =>
      cases m with
      | splice ref => cases h
      | slot slot =>
        rw [List.filter_cons_of_neg (by simp [Segment.marker?, Marker.slot?]), ih h]
        cases slot <;> rw [walk, String.empty_append]

end Walk

end Template.Fragment

/-! ## The first pass -/

namespace Partial

variable {project : Project} {page : Page} {texts : Path → Option String}

/-- What a reference in a file of the base directory stands for: the text of its own file under its
own directive, or nothing if there is no such file. -/
def textOf (project : Project) (texts : Path → Option String) (base : Path) (ref : Reference) :
    String :=
  match texts (resolve project.root base ref.src) with
  | some content => Replacement.expand content ref.replace
  | none => ""

theorem expand_empty (directive : Option String) : Replacement.expand "" directive = "" := by
  cases directive with
  | none => rfl
  | some directive =>
    rw [Replacement.expand, Replacement.applyAll]
    have hpairs (pairs : List Replacement) : pairs.foldl Replacement.apply [] = [] := by
      induction pairs with
      | nil => rfl
      | cons pair rest ih => rw [List.foldl_cons, Replacement.apply, Replacement.replaceFrom, ih]
    rw [String.toList_empty, hpairs, String.ofList_nil]

theorem splicedContent_splice (base : Path) (ref : Reference) :
    splicedContent project texts base (.splice ref) =
      some (.ofHtml (textOf project texts base ref)) := by
  rw [splicedContent, textOf]
  cases texts (resolve project.root base ref.src) with
  | some content => rfl
  | none => rw [Option.getD_none, expand_empty]

/-- Where partials that are missing do no harm, splicing puts a text for each. -/
theorem spliceAll_eq (hwarn : project.config.embeds.onMissing = .warn) (base : Path) (f : Fragment) :
    spliceAll project (.ofTexts texts) page base f =
      .ok (f.filled (splicedContent project texts base)) :=
  Fragment.substitute_pure fun m _ => by
    cases m with
    | slot s => rfl
    | splice ref =>
      simp only [textFor_ofTexts hwarn, Except.ok_bind]
      rfl

end Partial

namespace Page

open Template.Fragment (walk)

variable (project : Project) (page : Page) (texts : Path → Option String)

/-- The resources of a layout and then those of a page in it. -/
def resourcesIn (layoutPath : Path) (layout read : Extraction) : ResourceSet :=
  ResourceSet.addAll project.root page.dir
    (ResourceSet.addAll project.root (layoutPath.parent?.getD project.root) {}
      layout.descriptor.mentions)
    (withPageAssets project page read.descriptor).mentions

/-- What stands in the place of the style sheets of a page. -/
def cssText (resources : ResourceSet) : String :=
  (AssetUrls.make project.root project.config.assetsDir project.version).cssMarkup resources

def jsText (resources : ResourceSet) : String :=
  (AssetUrls.make project.root project.config.assetsDir project.version).jsMarkup resources

/-- One walk over the markers of a layout: a partial is its text, read from the directory of the
layout, a place for links is their markup, and the first place for a page is a walk over the page,
where partials are read from the directory of the page and there is no place for another page. -/
def oneWalk (layoutPath : Path) (layout read : Extraction) : String :=
  let resources := resourcesIn project page layoutPath layout read
  let css := cssText project resources
  let js := jsText project resources
  walk (Partial.textOf project texts (layoutPath.parent?.getD project.root)) css js
    (walk (Partial.textOf project texts page.dir) css js "" (bodyOf read.fragment).segments)
    layout.fragment.segments

variable {project page texts}

/-- Links are filled before the slots that are left are dropped. -/
theorem render_withLinks {text : Reference → String} {resources : ResourceSet} {f : Fragment}
    (h : f.references = []) : (withLinks project resources f).withoutSlots.render =
      walk text (cssText project resources) (jsText project resources) "" f.segments := by
  rw [withLinks, @Template.Fragment.render_withoutSlots text _ (references_fillLinks h), fillLinks_eq,
    Fragment.filled, Fragment.walk_ofSegments]
  rw [Fragment.references, Fragment.markers] at h
  generalize f.segments = segments at h
  induction segments with
  | nil => rfl
  | cons s rest ih =>
    rw [List.flatMap_cons]
    cases s with
    | html t => exact congrArg (t ++ ·) (ih h)
    | marker m =>
      cases m with
      | splice ref => cases h
      | slot slot =>
        rw [Fragment.walk_append, ih h]
        -- The markup of the links is one text; the walk drops any other slot.
        cases slot with
        | page => rfl
        | css =>
          rw [walk]
          exact congrArg (· ++ _) (Fragment.walk_ofHtml _)
        | js =>
          rw [walk]
          exact congrArg (· ++ _) (Fragment.walk_ofHtml _)

section InLayout

variable {text layoutText : String} {layoutPath : Path}
variable (hpath : layoutPath? project page text = some layoutPath)
variable (hlayout : texts layoutPath = some layoutText)
include hpath hlayout

/-- A page in a layout refers to what it mentions and then to what its layout mentions. -/
theorem roots_inLayout : roots project page texts text =
    (fragmentOf text).references.map (.ofReference project.root page.dir) ++
      (Template.extract .layout (.parse layoutText)).fragment.references.map
        (.ofReference project.root (layoutPath.parent?.getD project.root)) := by
  rw [roots, hpath, Option.map_some, Option.getD_some, layoutRoots, hlayout]

/-- A page in a layout that passes the check is merged into it. -/
theorem merged_inLayout (hwarn : project.config.embeds.onMissing = .warn)
    (hcheck : Partial.checkCycles project (.ofTexts texts) page (roots project page texts text)
      = .ok ())
    {layout read : Extraction} (hframe : Template.extract .layout (.parse layoutText) = layout)
    (hread : Template.extract .page (.parse text) = read) :
    let frame := layout.fragment.filled
      (Partial.splicedContent project texts (layoutPath.parent?.getD project.root))
    let inner := (bodyOf read.fragment).filled (Partial.splicedContent project texts page.dir)
    merged project page texts text = .ok {
      fragment := (frame.replaceFirst? (.slot .page) inner).getD frame
      resources := resourcesIn project page layoutPath layout read
      partials := layout.fragment.references.length + read.fragment.references.length } := by
  intro frame inner
  have hrefs := (references_withPageAssets project page read.descriptor).trans
    (hread ▸ Template.references_of_text text)
  have hlayoutRefs := hframe ▸ Template.extract_references .layout (.parse layoutText)
  have hd := layout_withPageAssets project page read.descriptor
  rw [roots_inLayout hpath hlayout, hframe] at hcheck
  rw [layoutPath?_eq, hread] at hpath
  split at hpath
  · cases hpath
  · next hne =>
    rw [← hd] at hne hpath
    cases hpath
    rw [merged, hread, merge_ofTexts_inLayout hne, hlayout]
    simp only [mergeInto_ofTexts _ hframe, hrefs, hlayoutRefs, Partial.spliceAll_eq hwarn]
    rw [hcheck]
    rfl

/-- The first pass over a page in a layout that passes the check writes one walk over both. -/
theorem firstPass_oneWalk (hwarn : project.config.embeds.onMissing = .warn)
    (hcheck : Partial.checkCycles project (.ofTexts texts) page (roots project page texts text)
      = .ok ()) :
    ∃ merged, Page.merged project page texts text = .ok merged ∧
      merged.resources = resourcesIn project page layoutPath
        (Template.extract .layout (.parse layoutText)) (Template.extract .page (.parse text)) ∧
      firstPass project (.ofTexts texts) page merged = .ok (afterMerge project merged) ∧
      (afterMerge project merged).html =
        oneWalk project page texts layoutPath (Template.extract .layout (.parse layoutText))
          (Template.extract .page (.parse text)) := by
  have hmerged := merged_inLayout hpath hlayout hwarn hcheck rfl rfl
  generalize Template.extract .layout (.parse layoutText) = layout at hmerged ⊢
  generalize Template.extract .page (.parse text) = read at hmerged ⊢
  refine ⟨_, hmerged, rfl, rfl, ?_⟩
  have hframe := Partial.references_spliceAll (@Partial.spliceAll_eq project page texts hwarn
    (layoutPath.parent?.getD project.root) layout.fragment)
  have hinner := Partial.references_spliceAll (@Partial.spliceAll_eq project page texts hwarn
    page.dir (bodyOf read.fragment))
  -- The last two rewrites of the pass are a walk, and the walk goes back over the first three.
  refine (@render_withLinks project (Partial.textOf project texts page.dir) _ _
    (references_inserted hframe hinner)).trans ?_
  rw [Template.Fragment.walk_replaceFirst?,
    Template.Fragment.walk_filled (Partial.splicedContent_splice _) fun _ => rfl,
    Template.Fragment.walk_filled (Partial.splicedContent_splice _) fun _ => rfl]
  rfl

end InLayout

/-! ## A page over a store -/

/-- After merging, a page goes on with its first pass and the loop. -/
theorem resolve_eq_merged (text : String) : resolve project (.ofTexts texts) page text =
    (merged project page texts text >>= fun merged =>
      furtherPasses project (.ofTexts texts) page (afterMerge project merged) >>= fun done =>
        .ok (Merged.compiled merged done)) := rfl

/-- The first pass over a page in a layout writes one walk over the markers of both, and what the
page compiles to comes from there; without a place for it, the page is lost. -/
theorem compile_oneWalk
    {ensureStubs : ResourceSet → StateM Store (Except FileError (List Path))} {session : Session}
    {store : Store} {text layoutText : String} {layoutPath : Path}
    (hwarn : project.config.embeds.onMissing = .warn)
    (hcreate : project.config.assets.createMissing = false)
    (htext : store.text? page.path = some text)
    (hpath : layoutPath? project page text = some layoutPath)
    (hlayout : session.found store layoutPath = some layoutText)
    (hcheck : Partial.checkOver project page session store project.maxDepth
      (roots project page (session.found store) text) = .ok ()) :
    ∃ merged first,
      Page.merged project page (session.found store) text = .ok merged ∧
      firstPass project (.ofTexts (session.found store)) page merged = .ok first ∧
      first.html = oneWalk project page (session.found store) layoutPath
        (Template.extract .layout (.parse layoutText)) (Template.extract .page (.parse text)) ∧
      ((compile project page Store.source ensureStubs).runOver session store).1.1 =
        (furtherPasses project (.ofTexts (session.found store)) page first >>= fun done =>
          .ok (Merged.compiled merged done)) ∧
      (.slot .page ∉ (Template.extract .layout (.parse layoutText)).fragment.markers →
        first.html = walk
          (Partial.textOf project (session.found store) (layoutPath.parent?.getD project.root))
          (cssText project merged.resources) (jsText project merged.resources) ""
          (Template.extract .layout (.parse layoutText)).fragment.segments) := by
  rw [Partial.checkOver_eq] at hcheck
  obtain ⟨merged, hmerged, hresources, hfirst, hwalk⟩ :=
    firstPass_oneWalk hpath hlayout hwarn hcheck
  refine ⟨merged, _, hmerged, hfirst, hwalk, ?_, fun hplace => ?_⟩
  · rw [compile_result project page ensureStubs session store hcreate, htext]
    show resolve project (.ofTexts (session.found store)) page text = _
    rw [resolve_eq_merged, hmerged, Except.ok_bind]
  · rw [hwalk, oneWalk, Template.Fragment.walk_of_not_mem hplace, hresources]

/-! ### A page and a layout that refer to two files of one name -/

def crossedText : String :=
  "<p data-ham-page-config='\x7b\"layout\":\"l/f\",\"css\":[\"s.css\"]\x7d'>" ++
    "<embed type=ham/partial src=a data-ham-replace=k:1><embed type=ham/page>" ++
    "<embed type=ham/partial src=a>"

def crossedLayout : String :=
  "<embed type=ham/layout-css><embed type=ham/partial src=a>" ++
    "<embed type=ham/page><embed type=ham/page>"

def crossedStore : Store where
  files := [
    ((⟨"/p"⟩ : Path).components, crossedText),
    ((⟨"/l/f"⟩ : Path).components, crossedLayout),
    ((⟨"/l/a"⟩ : Path).components, "<embed type=ham/layout-css>"),
    ((⟨"/a"⟩ : Path).components, "__k__<embed type=ham/page>")]

/-- Both partials bring a slot along that the first pass does not look at. -/
def crossedBuffer : String :=
  "<html><head></head><body><link rel=\"stylesheet\" href=\"/assets/css/s.css\">" ++
    "<embed type=ham/layout-css><p>1<embed type=ham/page>__k__<embed type=ham/page></p>" ++
    "</body></html>"

/-- Each file is found from where it is mentioned, each directive changes its own copy, and what
the partials bring along stays. -/
theorem compile_oneWalk_crossed :
    crossedStore.text? nestedPage.path = some crossedText ∧
    layoutPath? nestedProject nestedPage crossedText = some ⟨"/l/f"⟩ ∧
    Session.found {} crossedStore ⟨"/l/f"⟩ = some crossedLayout ∧
    ∃ merged first,
      Page.merged nestedProject nestedPage (Session.found {} crossedStore) crossedText
        = .ok merged ∧
      firstPass nestedProject (.ofTexts (Session.found {} crossedStore)) nestedPage merged
        = .ok first ∧
      first.html = crossedBuffer := by
  have htext : crossedStore.text? nestedPage.path = some crossedText := by decide +kernel
  have hpath : layoutPath? nestedProject nestedPage crossedText = some ⟨"/l/f"⟩ := by
    decide +kernel
  have hlayout : Session.found {} crossedStore ⟨"/l/f"⟩ = some crossedLayout := by decide +kernel
  have hcheck : Partial.checkOver nestedProject nestedPage {} crossedStore nestedProject.maxDepth
      (roots nestedProject nestedPage (Session.found {} crossedStore) crossedText) = .ok () :=
    Except.eq_ok_of_toOption (by decide +kernel)
  have hwalk : oneWalk nestedProject nestedPage (Session.found {} crossedStore) ⟨"/l/f"⟩
      (Template.extract .layout (.parse crossedLayout))
      (Template.extract .page (.parse crossedText)) = crossedBuffer := by decide +kernel
  obtain ⟨merged, first, hmerged, hfirst, hhtml, -, -⟩ := @compile_oneWalk nestedProject
    nestedPage (fun _ => pure (.ok [])) {} crossedStore _ _ _ rfl rfl htext hpath hlayout hcheck
  exact ⟨htext, hpath, hlayout, merged, first, hmerged, hfirst, hhtml.trans hwalk⟩

end Page

end StaticSite
