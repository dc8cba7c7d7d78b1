/-
  The passes over a page.

  A `Pass` is what one pass reads and what it writes into the buffer.  `Pass.First` and
  `Pass.Next` say how a pass comes from the text of the page or from the buffer of the
  pass before; they do not mention the counters of the loop.  A page that compiles went
  through a chain of passes: nothing is left open in any buffer, only the last pass found
  nothing to splice, and the counters are those of the chain (`Page.resolve_passes`).
-/

import StaticSite.Proofs.Markers
import StaticSite.Proofs.Texts

namespace StaticSite

open Template (Fragment Marker Reference Extraction fragmentOf)

/-! ## Splicing -/

namespace Partial

variable {project : Project} {page : Page} {texts : Path → Option String} {base : Path}
variable {f g : Fragment}

/-- Splicing that does not fail leaves no reference; the text of a file is not a marker. -/
theorem references_spliceAll (h : spliceAll project (.ofTexts texts) page base f = .ok g) :
    g.references = [] := by
  obtain ⟨hanswers, rfl⟩ := Fragment.substitute_eq_ok h
  -- Every reference has an answer, and every answer is text.
  refine Fragment.references_filled_eq_nil (fun m hm hnone => ?_) fun m hm g hsome => ?_
  · cases m with
    | slot s => rfl
    | splice ref =>
      obtain ⟨answer, hanswer⟩ := hanswers _ hm
      obtain ⟨text, -, h⟩ := Except.bind_eq_ok hanswer
      cases h
      simp only [hanswer] at hnone
      cases hnone
  · cases m with
    | slot s => cases hsome
    | splice ref =>
      obtain ⟨answer, hanswer⟩ := hanswers _ hm
      obtain ⟨text, -, h⟩ := Except.bind_eq_ok hanswer
      cases h
      simp only [hanswer] at hsome
      cases hsome
      exact Fragment.references_ofHtml text

/-- Without references there is nothing to splice. -/
theorem spliceAll_of_references_nil (hf : f.IsJoined) (hrefs : f.references = []) :
    spliceAll project (.ofTexts texts) page base f = .ok f := by
  have hkept : spliceAll project (.ofTexts texts) page base f = .ok (f.filled fun _ => none) :=
    Fragment.substitute_pure fun m hm => by
      cases m with
      | slot s => rfl
      | splice ref =>
        have href := Fragment.mem_references.2 hm
        rw [hrefs] at href
        cases href
  rw [hkept, Fragment.filled_of_forall_none hf fun _ _ => rfl]

end Partial

namespace Page

/-- What stands in the place of a slot for resources. -/
def linkContent (css js : String) : Marker → Option Fragment
  | .slot .css => some (.ofHtml css)
  | .slot .js => some (.ofHtml js)
  | _ => none

theorem fillLinks_eq (css js : String) (f : Fragment) :
    fillLinks css js f = f.filled (linkContent css js) :=
  Fragment.substitute_pure fun m _ => by
    cases m with
    | slot s => cases s <;> rfl
    | splice ref => rfl

theorem references_fillLinks {css js : String} {f : Fragment} (h : f.references = []) :
    (fillLinks css js f).references = [] := by
  rw [fillLinks_eq]
  refine Fragment.references_filled_eq_nil (fun m hm _ => ?_) fun m _ g hsome => ?_
  · cases m with
    | slot s => rfl
    | splice ref =>
      have href := Fragment.mem_references.2 hm
      rw [h] at href
      cases href
  · unfold linkContent at hsome
    split at hsome <;> cases hsome <;> exact Fragment.references_ofHtml _

theorem references_bodyOf (f : Fragment) : (bodyOf f).references = f.references := by
  have hopened : ((f.dropStart? bodyStart).getD f).markers = f.markers := by
    cases h : f.dropStart? bodyStart with
    | none => rfl
    | some g => exact Fragment.markers_dropStart? h
  have hclosed (g : Fragment) : ((g.dropEnd? bodyEnd).getD g).markers = g.markers := by
    cases h : g.dropEnd? bodyEnd with
    | none => rfl
    | some g' => exact Fragment.markers_dropEnd? h
  rw [Fragment.references, bodyOf, hclosed, hopened, Fragment.references]

theorem references_inserted {frame inner : Fragment} (hframe : frame.references = [])
    (hinner : inner.references = []) :
    ((frame.replaceFirst? (.slot .page) inner).getD frame).references = [] := by
  cases h : frame.replaceFirst? (.slot .page) inner with
  | none => exact hframe
  | some g =>
    obtain ⟨before, after, hf, hg⟩ := Fragment.markers_replaceFirst? h
    rw [Fragment.references, hf, List.filterMap_append, List.append_eq_nil_iff] at hframe
    rw [Option.getD_some, Fragment.references, hg, List.filterMap_append, List.filterMap_append]
    rw [hframe.1, ← Fragment.references, hinner]
    exact hframe.2

/-- The style sheets and scripts of a page in the places for them. -/
def withLinks (project : Project) (resources : ResourceSet) (f : Fragment) : Fragment :=
  let urls := AssetUrls.make project.root project.config.assetsDir project.version
  fillLinks (urls.cssMarkup resources) (urls.jsMarkup resources) f

end Page

/-! ## Passes -/

/-- One pass over a page. -/
structure Pass where
  /-- The fragments that are read, each with the directory from which it refers to files. -/
  read : List (Path × Fragment)
  /-- The fragment that is rendered into the buffer. -/
  written : Fragment

namespace Pass

/-- The references that are read in a pass. -/
def references (pass : Pass) : List Reference := pass.read.flatMap (·.2.references)

variable (project : Project) (page : Page) (texts : Path → Option String)

/-- The first pass, over the text of the page and of its layout. -/
inductive First (text : String) (resources : ResourceSet) : Pass → Prop where
  | alone {read : Extraction} {spliced : Fragment}
    (hread : read = Template.extract .page (.parse text))
    (hlayout : read.descriptor.layout = "")
    (hspliced : Partial.spliceAll project (.ofTexts texts) page page.dir read.fragment
      = .ok spliced) :
    First text resources {
      read := [(page.dir, read.fragment)]
      written := (Page.withLinks project resources spliced).withoutSlots }
  | inLayout {read layout : Extraction} {layoutPath : Path} {layoutText : String}
    {frame inner : Fragment}
    (hread : read = Template.extract .page (.parse text))
    (hlayout : read.descriptor.layout ≠ "")
    (hpath : layoutPath = resolve project.root page.dir read.descriptor.layout)
    (htext : texts layoutPath = some layoutText)
    (hframe : layout = Template.extract .layout (.parse layoutText))
    (hspliced : Partial.spliceAll project (.ofTexts texts) page
      (layoutPath.parent?.getD project.root) layout.fragment = .ok frame)
    (hinner : Partial.spliceAll project (.ofTexts texts) page page.dir
      (Page.bodyOf read.fragment) = .ok inner) :
    First text resources {
      read := [(layoutPath.parent?.getD project.root, layout.fragment),
        (page.dir, read.fragment)]
      written := (Page.withLinks project resources
        ((frame.replaceFirst? (.slot .page) inner).getD frame)).withoutSlots }

/-- The fragment that is read from the buffer of a pass. -/
def reread (before : Pass) : Fragment := fragmentOf before.written.render

/-- A pass over the buffer of the pass before. -/
structure Next (before after : Pass) : Prop where
  read : after.read = [(page.dir, before.reread)]
  written : ∃ spliced, Partial.spliceAll project (.ofTexts texts) page page.dir before.reread
    = .ok spliced ∧ after.written = spliced.withoutSlots

variable {project page texts}

theorem First.written_closed {text : String} {resources : ResourceSet} {pass : Pass}
    (h : First project page texts text resources pass) : pass.written.markers = [] := by
  cases h with
  | alone _ _ hspliced =>
    exact Fragment.markers_withoutSlots_eq_nil
      (Page.references_fillLinks (Partial.references_spliceAll hspliced))
  | inLayout _ _ _ _ _ hframe hinner =>
    refine Fragment.markers_withoutSlots_eq_nil (Page.references_fillLinks ?_)
    exact Page.references_inserted (Partial.references_spliceAll hframe)
      (Partial.references_spliceAll hinner)

theorem reread_isJoined (before : Pass) : before.reread.IsJoined := Template.fragmentOf_isJoined _

@[simp]
theorem references_singleton (base : Path) (found written : Fragment) :
    (Pass.mk [(base, found)] written).references = found.references :=
  List.flatMap_singleton _ _

theorem references_pair (b₁ b₂ : Path) (f₁ f₂ written : Fragment) :
    (Pass.mk [(b₁, f₁), (b₂, f₂)] written).references = f₁.references ++ f₂.references := by
  rw [Pass.references, List.flatMap_cons, List.flatMap_singleton]

theorem Next.references {before after : Pass} (h : Next project page texts before after) :
    after.references = before.reread.references := by
  rw [Pass.references, h.read]
  exact List.flatMap_singleton _ _

theorem Next.written_closed {before after : Pass} (h : Next project page texts before after) :
    after.written.markers = [] := by
  obtain ⟨spliced, hspliced, hwritten⟩ := h.written
  rw [hwritten]
  exact Fragment.markers_withoutSlots_eq_nil (Partial.references_spliceAll hspliced)

/-- A pass that finds nothing to splice writes what it read without its slots. -/
theorem Next.written_of_references_nil {before after : Pass}
    (h : Next project page texts before after) (hrefs : after.references = []) :
    after.written = before.reread.withoutSlots := by
  obtain ⟨spliced, hspliced, hwritten⟩ := h.written
  rw [h.references] at hrefs
  rw [Partial.spliceAll_of_references_nil before.reread_isJoined hrefs] at hspliced
  cases hspliced
  exact hwritten

/-- No pass leaves anything open if the first one does not. -/
theorem written_closed {first : Pass} {rest : List Pass} (hfirst : first.written.markers = [])
    (h : (first :: rest).IsChain (Next project page texts)) :
    ∀ pass ∈ first :: rest, pass.written.markers = [] :=
  List.IsChain.induction _ _ h (fun _ _ hnext _ => hnext.written_closed) fun _ => hfirst

variable (project page texts) in
/-- The passes after a pass, up to the first that finds nothing to splice. -/
structure Chain (before : Pass) (rest : List Pass) (last : Pass) : Prop where
  next : (before :: (rest ++ [last])).IsChain (Next project page texts)
  splices : ∀ pass ∈ rest, pass.references ≠ []
  ends : last.references = []

namespace Chain

theorem nil {before : Pass} (h : before.reread.references = []) :
    Chain project page texts before []
      { read := [(page.dir, before.reread)], written := before.reread.withoutSlots } where
  next := List.isChain_pair.2
    ⟨rfl, _, Partial.spliceAll_of_references_nil before.reread_isJoined h, rfl⟩
  splices _ hpass := (List.not_mem_nil hpass).elim
  ends := by rw [references_singleton, h]

theorem cons {before pass last : Pass} {rest : List Pass}
    (hnext : Next project page texts before pass) (hrefs : pass.references ≠ [])
    (h : Chain project page texts pass rest last) :
    Chain project page texts before (pass :: rest) last where
  next := .cons_cons hnext h.next
  splices := List.forall_mem_cons.2 ⟨hrefs, h.splices⟩
  ends := h.ends

variable {before last : Pass} {rest : List Pass} (h : Chain project page texts before rest last)
include h

/-- The last pass only drops the slots of what it reads. -/
theorem last_written : ∃ passes previous, before :: rest = passes ++ [previous] ∧
    previous.reread.references = [] ∧ last.written = previous.reread.withoutSlots := by
  -- The pass before the last one is the last of the others.
  have hsplit : before :: rest = (before :: rest).dropLast ++ [(before :: rest).getLast _] :=
    (List.dropLast_append_getLast (List.cons_ne_nil before rest)).symm
  have hnext : Next project page texts ((before :: rest).getLast (List.cons_ne_nil _ _)) last := by
    have hchain := h.next
    rw [← List.cons_append, hsplit, List.append_assoc] at hchain
    exact List.isChain_pair.1 hchain.right_of_append
  refine ⟨_, _, hsplit, ?_, hnext.written_of_references_nil h.ends⟩
  rw [← hnext.references, h.ends]

theorem countP_splicing (hbefore : before.references ≠ []) :
    (before :: (rest ++ [last])).countP (!·.references.isEmpty) = rest.length + 1 := by
  have hrest : rest.countP (!·.references.isEmpty) = rest.length := by
    rw [List.countP_eq_length]
    intro pass hpass
    simpa using h.splices pass hpass
  rw [List.countP_cons_of_pos (by simpa using hbefore), List.countP_append, hrest,
    List.countP_singleton, h.ends]
  rfl

end Chain

end Pass

/-! ## The loop -/

/-- The progress when a pass has found nothing to splice. -/
def Progress.finished (p : Progress) (found : Fragment) : Progress :=
  { p with html := found.withoutSlots.render, passes := p.passes + 1 }

/-- The progress when a pass has spliced the references that it found. -/
def Progress.spliced (p : Progress) (found spliced : Fragment) : Progress where
  html := spliced.withoutSlots.render
  passes := p.passes + 1
  partials := p.partials + found.references.length
  splicing := p.splicing + 1

/-- The progress at the end of a chain of passes. -/
def Progress.after (p : Progress) (rest : List Pass) (last : Pass) : Progress where
  html := last.written.render
  passes := p.passes + (rest.length + 1)
  partials := p.partials + (rest.map (·.references.length)).sum
  splicing := p.splicing + rest.length

theorem Progress.after_cons (p : Progress) (base : Path) (found spliced : Fragment)
    (rest : List Pass) (last : Pass) :
    (p.spliced found spliced).after rest last =
      p.after ({ read := [(base, found)], written := spliced.withoutSlots } :: rest) last := by
  simp only [Progress.after, Progress.spliced, Progress.mk.injEq, List.length_cons, List.map_cons,
    List.sum_cons, Pass.references_singleton]
  refine ⟨trivial, ?_, ?_, ?_⟩ <;> omega

namespace Page

variable {project : Project} {page : Page} {texts : Path → Option String}

open Pass (First Next)

theorem reread_ofTexts (p : Progress) :
    reread (.ofTexts texts) p = .ok (Template.extract .page (.parse p.html)) := rfl

theorem lastPass_ofTexts (p : Progress) (read : Extraction) :
    lastPass (.ofTexts texts) page p read = .ok (Progress.finished p read.fragment) := rfl

theorem splicingPass_ofTexts (p : Progress) (read : Extraction) :
    splicingPass project (.ofTexts texts) page p read =
      (Partial.spliceAll project (.ofTexts texts) page page.dir read.fragment >>= fun spliced =>
        .ok (Progress.spliced p read.fragment spliced)) := rfl

theorem passesFrom_zero (p : Progress) :
    passesFrom project (.ofTexts texts) page 0 p =
      if (fragmentOf p.html).references.isEmpty then .ok (Progress.finished p (fragmentOf p.html))
      else .error (.passLimit page.path p.splicing) := by
  rw [passesFrom, reread_ofTexts, Except.ok_bind, Template.fragmentOf_eq]
  rfl

theorem passesFrom_succ (left : Nat) (p : Progress) :
    passesFrom project (.ofTexts texts) page (left + 1) p =
      if (fragmentOf p.html).references.isEmpty then .ok (Progress.finished p (fragmentOf p.html))
      else Partial.spliceAll project (.ofTexts texts) page page.dir (fragmentOf p.html) >>=
        fun spliced => passesFrom project (.ofTexts texts) page left
          (Progress.spliced p (fragmentOf p.html) spliced) := by
  rw [passesFrom, reread_ofTexts, Except.ok_bind, lastPass_ofTexts, splicingPass_ofTexts,
    bind_assoc, Template.fragmentOf_eq]
  rfl

/-- A loop that comes to an end went through a chain of passes. -/
theorem passesFrom_eq_ok {left : Nat} {p q : Progress} {before : Pass}
    (hp : p.html = before.written.render)
    (h : passesFrom project (.ofTexts texts) page left p = .ok q) :
    ∃ rest last, Pass.Chain project page texts before rest last ∧ rest.length ≤ left ∧
      q = p.after rest last := by
  induction left generalizing p before with
  | zero =>
    rw [passesFrom_zero, hp] at h
    split at h
    · next hempty =>
      cases h
      exact ⟨[], _, .nil (List.isEmpty_iff.1 hempty), Nat.le_refl 0, rfl⟩
    · cases h
  | succ left ih =>
    rw [passesFrom_succ, hp] at h
    split at h
    · next hempty =>
      cases h
      exact ⟨[], _, .nil (List.isEmpty_iff.1 hempty), Nat.zero_le _, rfl⟩
    · next hnonempty =>
      obtain ⟨spliced, hspliced, h⟩ := Except.bind_eq_ok h
      -- The pass that splices is the one before the rest of the loop.
      have hhtml : (p.spliced (fragmentOf before.written.render) spliced).html
          = (Pass.mk [(page.dir, before.reread)] spliced.withoutSlots).written.render := rfl
      obtain ⟨rest, last, hchain, hlength, rfl⟩ := ih hhtml h
      refine ⟨_ :: rest, last, .cons ⟨rfl, spliced, hspliced, rfl⟩ ?_ hchain,
        Nat.succ_le_succ hlength, p.after_cons _ _ _ rest last⟩
      rw [Pass.references_singleton]
      exact fun hnil => hnonempty (List.isEmpty_iff.2 hnil)

/-! ## A whole page -/

variable (project page) in
theorem layout_withPageAssets (d : Template.Descriptor) :
    (withPageAssets project page d).layout = d.layout := by
  unfold withPageAssets
  split
  · split <;> rfl
  · rfl

/-- The progress after the first pass. -/
def Progress.afterFirst (first : Pass) : Progress where
  html := first.written.render
  passes := 1
  partials := first.references.length
  splicing := if first.references.length > 0 then 1 else 0

theorem firstPass_ofTexts (merged : Merged) :
    firstPass project (.ofTexts texts) page merged = .ok {
      html := (withLinks project merged.resources merged.fragment).withoutSlots.render
      passes := 1
      partials := merged.partials
      splicing := if merged.partials > 0 then 1 else 0 } := rfl

theorem insertContent_ofTexts (layout : Path) (frame inner : Fragment) :
    insertContent (.ofTexts texts) page layout frame inner
      = .ok ((frame.replaceFirst? (.slot .page) inner).getD frame) := by
  unfold insertContent
  cases frame.replaceFirst? (.slot .page) inner <;> rfl

theorem mergeWithout_ofTexts (read : Extraction) :
    mergeWithout project (.ofTexts texts) page read =
      (Partial.checkCycles project (.ofTexts texts) page
          (read.descriptor.references.map (.ofReference project.root page.dir)) >>= fun _ =>
        Partial.spliceAll project (.ofTexts texts) page page.dir read.fragment >>= fun spliced =>
        .ok {
          fragment := spliced
          resources := ResourceSet.addAll project.root page.dir {} read.descriptor.mentions
          partials := read.fragment.references.length }) := rfl

theorem mergeInto_ofTexts (layoutPath : Path) {layoutText : String} {layout : Extraction}
    (hlayout : Template.extract .layout (.parse layoutText) = layout) (read : Extraction) :
    mergeInto project (.ofTexts texts) page layoutPath layoutText read =
      (Partial.checkCycles project (.ofTexts texts) page
          (read.descriptor.references.map (.ofReference project.root page.dir)
            ++ layout.descriptor.references.map
              (.ofReference project.root (layoutPath.parent?.getD project.root))) >>= fun _ =>
        Partial.spliceAll project (.ofTexts texts) page (layoutPath.parent?.getD project.root)
          layout.fragment >>= fun frame =>
        Partial.spliceAll project (.ofTexts texts) page page.dir (bodyOf read.fragment)
          >>= fun inner =>
        .ok {
          fragment := (frame.replaceFirst? (.slot .page) inner).getD frame
          resources := ResourceSet.addAll project.root page.dir
            (ResourceSet.addAll project.root (layoutPath.parent?.getD project.root) {}
              layout.descriptor.mentions)
            read.descriptor.mentions
          partials := layout.fragment.references.length + read.fragment.references.length }) := by
  rw [mergeInto, hlayout]
  simp only [insertContent_ofTexts, references_bodyOf]
  rfl

theorem merge_ofTexts_alone {read : Extraction} (h : read.descriptor.layout = "") :
    merge project (.ofTexts texts) page read = mergeWithout project (.ofTexts texts) page read := by
  rw [merge, if_pos (beq_iff_eq.2 h)]

theorem merge_ofTexts_inLayout {read : Extraction} (h : read.descriptor.layout ≠ "") :
    merge project (.ofTexts texts) page read =
      match texts (StaticSite.resolve project.root page.dir read.descriptor.layout) with
      | some layoutText => mergeInto project (.ofTexts texts) page
          (StaticSite.resolve project.root page.dir read.descriptor.layout) layoutText read
      | none => .error (.missingLayout page.path
          (StaticSite.resolve project.root page.dir read.descriptor.layout)) := by
  rw [merge, if_neg fun hbeq => h (beq_iff_eq.1 hbeq)]
  simp only [Supply.layout?_ofTexts, Supply.tell_ofTexts, Except.ok_bind]
  cases texts (StaticSite.resolve project.root page.dir read.descriptor.layout) <;> rfl

/-- Merging a page that was read is the beginning of a first pass. -/
theorem first_of_merge {text : String} {d : Template.Descriptor} {merged : Merged}
    (hd : d.layout = (Template.extract .page (.parse text)).descriptor.layout)
    (h : merge project (.ofTexts texts) page
      { Template.extract .page (.parse text) with descriptor := d } = .ok merged) :
    ∃ first, First project page texts text merged.resources first ∧
      firstPass project (.ofTexts texts) page merged = .ok (Progress.afterFirst first) := by
  generalize hread : Template.extract .page (.parse text) = read at h hd
  by_cases hlayout : d.layout = ""
  · rw [merge_ofTexts_alone hlayout, mergeWithout_ofTexts] at h
    obtain ⟨_, -, h⟩ := Except.bind_eq_ok h
    obtain ⟨spliced, hspliced, h⟩ := Except.bind_eq_ok h
    cases h
    refine ⟨_, .alone hread.symm (hd.symm.trans hlayout) hspliced, ?_⟩
    rw [firstPass_ofTexts, Progress.afterFirst, Pass.references_singleton]
  · rw [merge_ofTexts_inLayout hlayout] at h
    split at h
    · next layoutText htext =>
      generalize hframe : Template.extract .layout (.parse layoutText) = layout
      rw [mergeInto_ofTexts _ hframe] at h
      obtain ⟨_, -, h⟩ := Except.bind_eq_ok h
      obtain ⟨frame, hspliced, h⟩ := Except.bind_eq_ok h
      obtain ⟨inner, hinner, h⟩ := Except.bind_eq_ok h
      cases h
      -- The descriptor with the assets of the page asks for the layout that was read.
      simp only [hd] at hlayout htext hspliced
      refine ⟨_, .inLayout hread.symm hlayout rfl htext hframe.symm hspliced hinner, ?_⟩
      rw [firstPass_ofTexts, Progress.afterFirst, Pass.references_pair, List.length_append]
    · cases h

/-- Without anything to splice, the first pass is the only one. -/
theorem furtherPasses_of_nil {first : Pass} (h : first.references = []) :
    furtherPasses project (.ofTexts texts) page (Progress.afterFirst first) =
      .ok (Progress.afterFirst first) := by
  have hzero : (Progress.afterFirst first).splicing = 0 := by
    rw [Progress.afterFirst, h]
    rfl
  rw [furtherPasses, hzero]
  rfl

/-- The first pass counts as one that splices. -/
theorem furtherPasses_of_ne_nil {first : Pass} (h : first.references ≠ []) :
    furtherPasses project (.ofTexts texts) page (Progress.afterFirst first) =
      passesFrom project (.ofTexts texts) page (project.config.embeds.maxPasses - 1)
        (Progress.afterFirst first) := by
  have hone : (Progress.afterFirst first).splicing = 1 := if_pos (List.length_pos_iff.2 h)
  rw [furtherPasses, hone]
  rfl

/-- A text that compiles went through a first pass and, if that found something to splice, a chain
of passes after it. -/
theorem resolve_eq_ok {text : String} {c : CompiledPage}
    (h : resolve project (.ofTexts texts) page text = .ok c) :
    ∃ first, First project page texts text c.resources first ∧
      ((first.references = [] ∧ c.html = first.written.render ∧ c.passes = 1 ∧ c.partials = 0) ∨
        (first.references ≠ [] ∧ ∃ rest last, Pass.Chain project page texts first rest last ∧
          rest.length ≤ project.config.embeds.maxPasses - 1 ∧ c.html = last.written.render ∧
          c.passes = rest.length + 2 ∧
          c.partials = first.references.length + (rest.map (·.references.length)).sum)) := by
  obtain ⟨_, -, h⟩ := Except.bind_eq_ok h
  obtain ⟨merged, hmerged, h⟩ := Except.bind_eq_ok h
  obtain ⟨first, hfirst, hp⟩ := first_of_merge (layout_withPageAssets _ _ _) hmerged
  rw [hp, Except.ok_bind] at h
  obtain ⟨done, hdone, h⟩ := Except.bind_eq_ok h
  cases h
  refine ⟨first, hfirst, ?_⟩
  by_cases hrefs : first.references = []
  · left
    rw [furtherPasses_of_nil hrefs] at hdone
    cases hdone
    exact ⟨hrefs, rfl, rfl, by rw [Progress.afterFirst, hrefs]; rfl⟩
  · right
    rw [furtherPasses_of_ne_nil hrefs] at hdone
    obtain ⟨rest, last, hchain, hlength, rfl⟩ := passesFrom_eq_ok rfl hdone
    refine ⟨hrefs, rest, last, hchain, hlength, rfl, ?_, rfl⟩
    show 1 + (rest.length + 1) = rest.length + 2
    omega

end Page

/-! ## Pages over a store -/

/-- A configuration that was read has no fault. -/
theorem Config.fault?_of_parse {json : String} {config : Config}
    (h : Config.parse json = .ok config) : config.fault? = none := by
  unfold Config.parse at h
  dsimp only at h
  split at h
  all_goals
    obtain ⟨parsed, -, h⟩ := Except.bind_eq_ok h
    split at h
    · cases h
    · next hfault =>
      cases h
      exact hfault

theorem Config.maxPasses_of_parse {json : String} {config : Config}
    (h : Config.parse json = .ok config) : 1 ≤ config.embeds.maxPasses := by
  have hfault := Config.fault?_of_parse h
  unfold Config.fault? at hfault
  split at hfault
  · cases hfault
  · split at hfault
    · cases hfault
    · split at hfault
      · cases hfault
      · next hzero =>
        rw [beq_iff_eq] at hzero
        omega

/-- The passes that a compiled page went through. -/
structure CompiledPage.Passes (c : CompiledPage) (project : Project) (page : Page)
    (texts : Path → Option String) (text : String) (first : Pass) (rest : List Pass) : Prop where
  starts : Pass.First project page texts text c.resources first
  goesOn : (first :: rest).IsChain (Pass.Next project page texts)
  /-- No buffer has a reference or a slot in it. -/
  closed : ∀ pass ∈ first :: rest, pass.written.markers = []
  /-- Where nothing was spliced, there was nothing to splice and no further pass. -/
  alone : c.partials = 0 → rest = [] ∧ first.references = [] ∧ c.html = first.written.render
  /-- Otherwise the page is what was read from the last buffer but one, without its slots. -/
  fixed : c.partials ≠ 0 → ∃ before previous last, first :: rest = before ++ [previous, last] ∧
    previous.reread.references = [] ∧ c.html = previous.reread.withoutSlots.render
  partials : c.partials = ((first :: rest).map (·.references.length)).sum
  length : c.passes = (first :: rest).length
  passes : c.passes = 1 + (first :: rest).countP (!·.references.isEmpty)
  bound : (first :: rest).countP (!·.references.isEmpty) ≤ project.config.embeds.maxPasses

namespace Page

variable {project : Project} {page : Page}

theorem resolve_passes {texts : Path → Option String} {text : String} {c : CompiledPage}
    (hmax : 1 ≤ project.config.embeds.maxPasses)
    (h : resolve project (.ofTexts texts) page text = .ok c) :
    ∃ first rest, c.Passes project page texts text first rest := by
  obtain ⟨first, hfirst, ⟨hrefs, hhtml, hpasses, hpartials⟩ |
    ⟨hrefs, rest, last, hchain, hlength, hhtml, hpasses, hpartials⟩⟩ := resolve_eq_ok h
  · refine ⟨first, [], {
      starts := hfirst
      goesOn := .singleton _
      closed := List.forall_mem_singleton.2 hfirst.written_closed
      alone := fun _ => ⟨rfl, hrefs, hhtml⟩
      fixed := fun h => absurd hpartials h
      partials := ?_
      length := hpasses
      passes := ?_
      bound := ?_ }⟩
    · rw [hpartials, List.map_singleton, hrefs]
      rfl
    · rw [hpasses, List.countP_singleton, hrefs]
      rfl
    · rw [List.countP_singleton, hrefs]
      exact Nat.zero_le _
  · have hpos := List.length_pos_iff.2 hrefs
    -- All passes but the last one splice.
    have hcount := hchain.countP_splicing hrefs
    refine ⟨first, rest ++ [last], {
      starts := hfirst
      goesOn := hchain.next
      closed := Pass.written_closed hfirst.written_closed hchain.next
      alone := fun h => ?_
      fixed := fun _ => ?_
      partials := ?_
      length := ?_
      passes := ?_
      bound := ?_ }⟩
    · omega
    · obtain ⟨passes, previous, hsplit, hprevious, hlast⟩ := hchain.last_written
      refine ⟨passes, previous, last, ?_, hprevious, by rw [hhtml, hlast]⟩
      rw [← List.cons_append, hsplit, List.append_assoc]
      rfl
    · rw [hpartials, List.map_cons, List.map_append, List.sum_cons, List.sum_append,
        List.map_singleton, hchain.ends]
      rfl
    · rw [hpasses, List.length_cons, List.length_append]
      rfl
    · omega
    · omega

/-- A page that compiles over any store, after whatever was compiled before, went through passes
that leave nothing open; its counters and its text are those of the passes. -/
theorem compile_passes {json : String} (hconfig : Config.parse json = .ok project.config)
    (hcreate : project.config.assets.createMissing = false)
    {ensureStubs : ResourceSet → StateM Store (Except FileError (List Path))} {session : Session}
    {store : Store} {c : CompiledPage}
    (hcompile :
      ((compile project page Store.source ensureStubs).runOver session store).1.1 = .ok c) :
    ∃ text first rest, store.text? page.path = some text ∧
      c.Passes project page (session.found store) text first rest := by
  rw [compile_result project page ensureStubs session store hcreate] at hcompile
  cases htext : store.text? page.path with
  | none =>
    rw [htext] at hcompile
    cases hcompile
  | some text =>
    rw [htext] at hcompile
    obtain ⟨first, rest, hpasses⟩ := resolve_passes (Config.maxPasses_of_parse hconfig) hcompile
    exact ⟨text, first, rest, rfl, hpasses⟩

/-! ### A page in a layout, with a reference in a reference -/

def nestedProject : Project where
  root := ⟨"/"⟩
  config := { assets := { createMissing := false, pageAssets := false } }
  version := none

def nestedText : String :=
  "<p data-ham-page-config='\x7b\"layout\":\"l\"\x7d'><embed type=ham/partial src=a>"

def nestedStore : Store where
  files := [
    ((⟨"/p"⟩ : Path).components, nestedText),
    ((⟨"/l"⟩ : Path).components, "<embed type=ham/page>"),
    ((⟨"/a"⟩ : Path).components, "<embed type=ham/partial src=b>"),
    ((⟨"/b"⟩ : Path).components, "B")]

def nestedPage : Page := .ofPath nestedProject ⟨"/p"⟩

def nestedCompiled : CompiledPage where
  html := "<html><head></head><body><p>B</p></body></html>"
  passes := 3
  partials := 2
  resources := {}

theorem compile_passes_nested :
    ((compile nestedProject nestedPage Store.source fun _ => pure (.ok [])).runOver {}
      nestedStore).1.1 = .ok nestedCompiled ∧
    ∃ text first rest, nestedStore.text? nestedPage.path = some text ∧
      nestedCompiled.Passes nestedProject nestedPage (Session.found {} nestedStore) text first
        rest := by
  have hconfig : Config.parse
      "\x7b\"assets\":\x7b\"create_missing\":false,\"page_assets\":false\x7d\x7d"
        = .ok nestedProject.config := Except.eq_ok_of_toOption (by decide +kernel)
  have hcompile : ((compile nestedProject nestedPage Store.source fun _ => pure (.ok [])).runOver {}
      nestedStore).1.1 = .ok nestedCompiled := Except.eq_ok_of_toOption (by decide +kernel)
  exact ⟨hcompile, compile_passes hconfig rfl hcompile⟩

end Page

end StaticSite
