/-
  References that start at the project.

  A reference with a slash in front counts from the project, and only its names count: the
  result is the root with these names below it, from whatever directory it was written
  (`resolve_rooted`).  A reference with two slashes in front is another matter.  What
  follows its first slash is an absolute path itself, and such a path takes the place of
  the root it is joined to; so the names count from the root of the disk, and unless the
  project is there they lead out of it (`resolve_leaves_project`).
-/

import StaticSite.Build.Partial
import StaticSite.Proofs.Components

open StaticSite.Path (Component)

namespace StaticSite

/-! ## Names below a place that is clean -/

namespace Path

theorem clean_eq_ofComponents {p : Path} {cs : List Component}
    (h : cleanComponents p.components = cs) (hne : cs ≠ []) : p.clean = ofComponents cs := by
  unfold clean
  rw [h]
  cases cs with
  | nil => exact absurd rfl hne
  | cons c rest => rfl

/-- Names are left alone, so they stay on top of whatever is clean already. -/
theorem cleanComponents_append {start names : List Component}
    (hstart : cleanComponents start = start) (hnames : ∀ c ∈ names, c.isNormal) :
    cleanComponents (start ++ names) = start ++ names := by
  have hstack : start.foldl pushClean [] = start.reverse := by
    rw [← List.reverse_eq_iff]
    exact hstart
  rw [cleanComponents, List.foldl_append, hstack, foldl_pushClean_normal hnames,
    List.reverse_append, List.reverse_reverse, List.reverse_reverse]

theorem isNormal_of_isStep {c : Component} (h : c.IsStep) (hup : c ≠ .parent) : c.isNormal := by
  cases c with
  | normal name => rfl
  | parent => exact absurd rfl hup
  | root => exact h.elim
  | current => exact h.elim

theorem components_of_isAbsolute {p : Path} (h : p.isAbsolute) :
    p.components = .root :: p.steps := by
  rw [components_eq, origin, if_pos h]
  rfl

/-- A slash in front is no step. -/
theorem steps_slash (rest : List Char) :
    (⟨String.ofList ('/' :: rest)⟩ : Path).steps = (⟨String.ofList rest⟩ : Path).steps := by
  simp only [steps, Text.split, String.toList_ofList, Text.splitAt]
  rfl

end Path

/-! ## Resolving -/

/-- The names that a path is made of. -/
def Path.names (p : Path) : List Component := p.components.filter Component.isNormal

/-- The components from which the names of a reference count if it starts with a slash. -/
def rootedStart (root : Path) (reference : String) : List Component :=
  if "//".toList.isPrefixOf reference.toList then [.root] else root.components

theorem names_eq_steps {reference : String} (hslash : reference.toList.head? = some '/')
    (hup : .parent ∉ (⟨reference⟩ : Path).components) :
    (⟨reference⟩ : Path).names = (⟨reference⟩ : Path).steps ∧
      ∀ c ∈ (⟨reference⟩ : Path).steps, c.isNormal := by
  have habs : (⟨reference⟩ : Path).isAbsolute := by simpa [Path.isAbsolute] using hslash
  have hcomponents := Path.components_of_isAbsolute habs
  have hnormal : ∀ c ∈ (⟨reference⟩ : Path).steps, c.isNormal := by
    intro c hc
    apply Path.isNormal_of_isStep (Path.isStep_of_mem_steps hc)
    rintro rfl
    exact hup (hcomponents ▸ List.mem_cons_of_mem _ hc)
  refine ⟨?_, hnormal⟩
  rw [Path.names, hcomponents, List.filter_cons_of_neg (by decide), List.filter_eq_self]
  exact hnormal

theorem resolve_slash (root base : Path) (rest : List Char) :
    resolve root base (String.ofList ('/' :: rest)) = (root.join ⟨String.ofList rest⟩).clean := by
  unfold resolve
  rw [String.toList_ofList]
  rfl

/-- What a reference with a slash in front is before it is cleaned. -/
theorem components_join_rooted {root : Path} (habs : root.isAbsolute) (rest : List Char) :
    (root.join ⟨String.ofList rest⟩).components =
      rootedStart root (String.ofList ('/' :: rest)) ++ (⟨String.ofList rest⟩ : Path).steps := by
  have hne : root.text ≠ "" :=
    Path.text_ne_empty (by rw [Path.components_of_isAbsolute habs]; exact List.cons_ne_nil _ _)
  -- The first slash is cut off, so a second one decides what the rest is joined as.
  have hstart : rootedStart root (String.ofList ('/' :: rest)) =
      if (⟨String.ofList rest⟩ : Path).isAbsolute then [.root] else root.components := by
    cases rest with
    | nil => rfl
    | cons c rest => simp [rootedStart, Path.isAbsolute, List.isPrefixOf, eq_comm (a := c)]
  rw [hstart]
  cases hrest : (⟨String.ofList rest⟩ : Path).isAbsolute with
  | true =>
    rw [if_pos rfl, Path.join, if_pos hrest, Path.components_of_isAbsolute hrest]
    rfl
  | false => rw [if_neg Bool.false_ne_true, Path.components_join hne hrest]

theorem cleanComponents_rootedStart {root : Path} (habs : root.isAbsolute)
    (hclean : root.clean = root) (reference : String) :
    Path.cleanComponents (rootedStart root reference) = rootedStart root reference := by
  unfold rootedStart
  split
  · rfl
  · rw [← Path.components_clean_of_isAbsolute habs, hclean]

/-- A reference that starts with a slash and never goes up is its start with its names below it,
from whatever directory it was written.  So it lies in the project and has its names below the root
of the project exactly if no second slash follows, or if the project is the whole disk. -/
theorem resolve_rooted {root : Path} (habs : root.isAbsolute) (hclean : root.clean = root)
    {reference : String} (hslash : reference.toList.head? = some '/')
    (hup : .parent ∉ (⟨reference⟩ : Path).components) :
    (∀ base, resolve root base reference =
        .ofComponents (rootedStart root reference ++ (⟨reference⟩ : Path).names) ∧
      (resolve root base reference).components =
        rootedStart root reference ++ (⟨reference⟩ : Path).names) ∧
    ((∀ base, root.components <+: (resolve root base reference).components ∧
        (resolve root base reference).components = root.components ++ (⟨reference⟩ : Path).names) ↔
      ¬ "//".toList.isPrefixOf reference.toList ∨ root.components = [.root]) := by
  obtain ⟨hnames, hnormal⟩ := names_eq_steps hslash hup
  obtain ⟨rest, hrest⟩ : ∃ rest, reference = String.ofList ('/' :: rest) := by
    obtain ⟨rest, hrest⟩ := List.head?_eq_some_iff.1 hslash
    exact ⟨rest, by rw [← hrest, String.ofList_toList]⟩
  have hsteps : (⟨reference⟩ : Path).steps = (⟨String.ofList rest⟩ : Path).steps := by
    rw [hrest, Path.steps_slash]
  rw [hsteps] at hnames hnormal
  have hleft : Path.cleanComponents (root.join ⟨String.ofList rest⟩).components =
      rootedStart root reference ++ (⟨reference⟩ : Path).names := by
    rw [components_join_rooted habs, ← hrest, hnames]
    exact Path.cleanComponents_append (cleanComponents_rootedStart habs hclean reference) hnormal
  have hresolve : ∀ base, resolve root base reference = (root.join ⟨String.ofList rest⟩).clean := by
    intro base
    rw [hrest, resolve_slash]
  have hroot : root.components ≠ [] := by
    rw [Path.components_of_isAbsolute habs]
    exact List.cons_ne_nil _ _
  have hstart : rootedStart root reference ++ (⟨reference⟩ : Path).names ≠ [] := by
    rw [rootedStart]
    split <;> simp [hroot]
  have hcomponents : ∀ base, (resolve root base reference).components =
      rootedStart root reference ++ (⟨reference⟩ : Path).names := by
    intro base
    rw [hresolve, Path.components_clean_of_isAbsolute (Path.isAbsolute_join habs _), hleft]
  refine ⟨fun base => ⟨?_, hcomponents base⟩, ?_⟩
  · rw [hresolve]
    exact Path.clean_eq_ofComponents hleft hstart
  · constructor
    · intro hinside
      obtain ⟨-, hsame⟩ := hinside root
      rw [hcomponents, List.append_cancel_right_eq] at hsame
      unfold rootedStart at hsame
      split at hsame
      · exact .inr hsame.symm
      · next hone => exact .inl hone
    · intro hone base
      have hsame : rootedStart root reference = root.components := by
        unfold rootedStart
        split
        · next htwo =>
          rcases hone with hone | hwhole
          · exact absurd htwo hone
          · exact hwhole.symm
        · rfl
      rw [hcomponents, hsame]
      exact ⟨List.prefix_append _ _, rfl⟩

/-- Repeated slashes and dots after the first slash do not count. -/
theorem resolve_rooted_dotted :
    (⟨"/site"⟩ : Path).isAbsolute ∧ (⟨"/site"⟩ : Path).clean = ⟨"/site"⟩ ∧
    "/./parts//nav.html".toList.head? = some '/' ∧
    .parent ∉ (⟨"/./parts//nav.html"⟩ : Path).components ∧
    resolve ⟨"/site"⟩ ⟨"/site/pages/about"⟩ "/./parts//nav.html" = ⟨"/site/parts/nav.html"⟩ ∧
    (⟨"/site"⟩ : Path).components <+:
      (resolve ⟨"/site"⟩ ⟨"/site/pages/about"⟩ "/./parts//nav.html").components := by
  have habs : (⟨"/site"⟩ : Path).isAbsolute := by decide
  have hclean : (⟨"/site"⟩ : Path).clean = ⟨"/site"⟩ := by decide
  have hslash : "/./parts//nav.html".toList.head? = some '/' := by decide
  have hup : .parent ∉ (⟨"/./parts//nav.html"⟩ : Path).components := by decide
  obtain ⟨hplace, hinside⟩ := resolve_rooted habs hclean hslash hup
  refine ⟨habs, hclean, hslash, hup, ?_, (hinside.2 (.inl (by decide)) _).1⟩
  rw [(hplace _).1]
  decide

/-- With two slashes in front, a partial is read from outside the project. -/
theorem resolve_leaves_project :
    (⟨"/site"⟩ : Path).isAbsolute ∧ (⟨"/site"⟩ : Path).clean = ⟨"/site"⟩ ∧
    "//etc/passwd".toList.head? = some '/' ∧ .parent ∉ (⟨"//etc/passwd"⟩ : Path).components ∧
    (Partial.ofReference ⟨"/site"⟩ ⟨"/site/pages"⟩ { src := "//etc/passwd" }).path
      = ⟨"/etc/passwd"⟩ ∧
    ¬ (⟨"/site"⟩ : Path).components <+: (⟨"/etc/passwd"⟩ : Path).components := by
  decide

end StaticSite
