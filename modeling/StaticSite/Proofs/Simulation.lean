/-
  Running one compilation in two monads.

  The compilation of a page asks a `Supply` for texts and does nothing else to the world,
  so its code can be run by any monad that has a supply.  A `MonadRel` relates the runs of
  two monads and is kept by `pure` and `bind`; if it also relates the two supplies, it
  relates the compilations.  One lemma for each function, in the order of the code.

  Of its partials, a page only asks for the check and for the text of each, so this is
  where two runs may use different supplies or policies (`Page.Agree`); the main results
  are `Page.resolve_rel_of_layout` and, for supplies that agree on everything,
  `Page.resolve_rel`.
-/

import Mathlib
import StaticSite.Build.Page

namespace StaticSite

open Template (Fragment Marker Reference Extraction Segment)

/-- A run that came to an end did so in its first step and in what follows. -/
theorem Except.bind_eq_ok {ε α β : Type} {x : Except ε α} {f : α → Except ε β} {b : β}
    (h : (x >>= f) = .ok b) : ∃ a, x = .ok a ∧ f a = .ok b :=
  match x, h with
  | .ok a, h => ⟨a, rfl, h⟩

/-- A run that failed did so in its first step or in what follows. -/
theorem Except.bind_eq_error {ε α β : Type} {x : Except ε α} {f : α → Except ε β} {e : ε}
    (h : (x >>= f) = .error e) : x = .error e ∨ ∃ a, x = .ok a ∧ f a = .error e :=
  match x, h with
  | .error _, h => .inl (congrArg Except.error (Except.error.inj h))
  | .ok a, h => .inr ⟨a, rfl, h⟩

theorem Except.eq_ok_of_toOption {ε α : Type} {x : Except ε α} {a : α}
    (h : x.toOption = some a) : x = .ok a := by
  cases x with
  | error e => cases h
  | ok b => rw [Option.some.inj h]

theorem Except.ok_bind {ε α β : Type} (a : α) (f : α → Except ε β) :
    (Except.ok a >>= f) = f a := rfl

/-- A relation between the runs of two monads that sequencing keeps. -/
structure MonadRel (n₁ n₂ : Type → Type) [Monad n₁] [Monad n₂] where
  rel : {α : Type} → n₁ α → n₂ α → Prop
  pure : ∀ {α : Type} (a : α), rel (pure a) (pure a)
  bind : ∀ {α β : Type} {x : n₁ α} {y : n₂ α} {f : α → n₁ β} {g : α → n₂ β},
    rel x y → (∀ a, rel (f a) (g a)) → rel (x >>= f) (y >>= g)

namespace MonadRel

variable {n₁ n₂ : Type → Type} [Monad n₁] [Monad n₂]

/-- Runs with a state of their own are related if they are from every state. -/
def stateT (R : MonadRel n₁ n₂) (σ : Type) : MonadRel (StateT σ n₁) (StateT σ n₂) where
  rel x y := ∀ s, R.rel (x.run s) (y.run s)
  pure a := fun s => R.pure (a, s)
  bind hx hf := fun s => R.bind (hx s) fun p => hf p.1 p.2

end MonadRel

variable {n₁ n₂ : Type → Type} [Monad n₁] [Monad n₂] {R : MonadRel n₁ n₂}

/-! ## Searching and filling -/

section Search

variable {N : Type}

theorem Graph.visitAll_rel {visit₁ : N → n₁ (Graph.Finding N)} {visit₂ : N → n₂ (Graph.Finding N)}
    (h : ∀ node, R.rel (visit₁ node) (visit₂ node)) (nodes : List N) :
    R.rel (Graph.visitAll visit₁ nodes) (Graph.visitAll visit₂ nodes) := by
  induction nodes with
  | nil => exact R.pure _
  | cons node rest ih =>
    refine R.bind (h node) fun found => ?_
    cases found with
    | acyclic => exact ih
    | cycle path => exact R.pure _
    | tooDeep => exact R.pure _

variable [BEq N] {succ₁ : N → n₁ (List N)} {succ₂ : N → n₂ (List N)}

theorem Graph.visit_rel (h : ∀ node, R.rel (succ₁ node) (succ₂ node)) (depth : Nat)
    (path : List N) (node : N) :
    (R.stateT (List N)).rel (Graph.visit succ₁ depth path node)
      (Graph.visit succ₂ depth path node) := by
  induction depth generalizing path node with
  | zero => exact (R.stateT _).pure _
  | succ depth ih =>
    -- Both runs know the same visited nodes, so they take the same branch.
    refine (R.stateT _).bind (fun s => R.pure (s, s)) fun done => ?_
    split
    · exact (R.stateT _).pure _
    · split
      · exact (R.stateT _).pure _
      · -- Asking for the successors leaves the state alone.
        have hlift : (R.stateT (List N)).rel (liftM (succ₁ node)) (liftM (succ₂ node)) :=
          fun s => R.bind (h node) fun children => R.pure (children, s)
        refine (R.stateT _).bind hlift fun children => ?_
        refine (R.stateT _).bind (visitAll_rel (fun child => ih _ child) children) fun found => ?_
        cases found with
        | acyclic =>
          exact (R.stateT _).bind (fun s => R.pure ((), node :: s)) fun _ => (R.stateT _).pure _
        | cycle path => exact (R.stateT _).pure _
        | tooDeep => exact (R.stateT _).pure _

theorem Graph.findCycle_rel (h : ∀ node, R.rel (succ₁ node) (succ₂ node)) (depth : Nat)
    (roots : List N) :
    R.rel (Graph.findCycle succ₁ depth roots) (Graph.findCycle succ₂ depth roots) :=
  R.bind (visitAll_rel (R := R.stateT _) (fun node => visit_rel h depth [] node) roots [])
    fun p => R.pure p.1

end Search

theorem Template.Fragment.fillSegments_rel {fill₁ : Marker → n₁ (Option Fragment)}
    {fill₂ : Marker → n₂ (Option Fragment)} (h : ∀ m, R.rel (fill₁ m) (fill₂ m))
    (segments : List Segment) :
    R.rel (fillSegments fill₁ segments) (fillSegments fill₂ segments) := by
  induction segments with
  | nil => exact R.pure _
  | cons s rest ih =>
    cases s with
    | html text => exact R.bind ih fun _ => R.pure _
    | marker m =>
      refine R.bind (h m) fun found => ?_
      cases found with
      | none => exact R.bind ih fun _ => R.pure _
      | some content => exact R.bind ih fun _ => R.pure _

theorem Template.Fragment.substitute_rel {fill₁ : Marker → n₁ (Option Fragment)}
    {fill₂ : Marker → n₂ (Option Fragment)} (h : ∀ m, R.rel (fill₁ m) (fill₂ m)) (f : Fragment) :
    R.rel (f.substitute fill₁) (f.substitute fill₂) :=
  R.bind (fillSegments_rel h f.segments) fun _ => R.pure _

/-! ## Supplies -/

variable [MonadExcept BuildError n₁] [MonadExcept BuildError n₂]

/-- Two supplies whose answers, and whose failures, are related. -/
structure Supply.Agree (R : MonadRel n₁ n₂) (s₁ : Supply n₁) (s₂ : Supply n₂) : Prop where
  layout? : ∀ path, R.rel (s₁.layout? path) (s₂.layout? path)
  partial? : ∀ path, R.rel (s₁.partial? path) (s₂.partial? path)
  tell : ∀ notices, R.rel (s₁.tell notices) (s₂.tell notices)
  throw : ∀ {α : Type} (e : BuildError), R.rel (throw e : n₁ α) (throw e : n₂ α)

variable {s₁ : Supply n₁} {s₂ : Supply n₂}

/-! ## Partials -/

namespace Partial

variable (h : s₁.Agree R s₂) (project : Project) (page : Page)
include h

theorem expand_rel (content : String) (directive : Option String) :
    R.rel (expand s₁ content directive) (expand s₂ content directive) :=
  R.bind (h.tell _) fun _ => R.pure _

theorem successors_rel (p : Partial) :
    R.rel (successors project s₁ page p) (successors project s₂ page p) := by
  refine R.bind (h.partial? p.path) fun found => ?_
  cases found with
  | none => exact R.pure _
  | some content =>
    refine R.bind (expand_rel h content p.replace) fun text => ?_
    exact R.bind (h.tell _) fun _ => R.pure _

theorem checkCycles_rel (roots : List Partial) :
    R.rel (checkCycles project s₁ page roots) (checkCycles project s₂ page roots) := by
  refine R.bind (Graph.findCycle_rel (successors_rel h project page) _ roots) fun found => ?_
  cases found with
  | acyclic => exact R.pure _
  | cycle chain => exact h.throw _
  | tooDeep => exact h.throw _

theorem textFor_rel (base : Path) (ref : Reference) :
    R.rel (textFor project s₁ page base ref) (textFor project s₂ page base ref) := by
  -- What follows does not depend on where the text came from.
  have hrest (content : String) := R.bind (h.tell [.splicing (resolve project.root base ref.src)])
    fun _ => expand_rel h content ref.replace
  unfold textFor
  refine R.bind (h.partial? _) fun found => ?_
  cases found with
  | some content => exact R.bind (R.pure _) hrest
  | none =>
    cases project.config.embeds.onMissing with
    | error => exact R.bind (h.throw _) hrest
    | warn => exact R.bind (h.tell _) fun _ => R.bind (R.pure _) hrest

end Partial

/-! ## Pages -/

/-- The project with another policy for partials that are missing. -/
def Project.withPolicy (project : Project) (policy : MissingPolicy) : Project :=
  { project with config :=
    { project.config with embeds := { project.config.embeds with onMissing := policy } } }

namespace Page

/-- Two supplies for the compilation of a page, the second under another policy, whose answers are
related as far as a page can tell.  Layouts are left out, since a page asks for one at most. -/
structure Agree (R : MonadRel n₁ n₂) (project : Project) (policy : MissingPolicy) (page : Page)
    (s₁ : Supply n₁) (s₂ : Supply n₂) : Prop where
  tell : ∀ notices, R.rel (s₁.tell notices) (s₂.tell notices)
  check : ∀ roots, R.rel (Partial.checkCycles project s₁ page roots)
    (Partial.checkCycles (project.withPolicy policy) s₂ page roots)
  text : ∀ base ref, R.rel (Partial.textFor project s₁ page base ref)
    (Partial.textFor (project.withPolicy policy) s₂ page base ref)
  noLayout : ∀ path, R.rel (throw (.missingLayout page.path path) : n₁ Merged)
    (throw (.missingLayout page.path path) : n₂ Merged)
  limit : ∀ count, R.rel (throw (.passLimit page.path count) : n₁ Progress)
    (throw (.passLimit page.path count) : n₂ Progress)

/-- Supplies that agree do so for every page, under the policy of the project. -/
theorem agree_of_supply (h : s₁.Agree R s₂) (project : Project) (page : Page) :
    Agree R project project.config.embeds.onMissing page s₁ s₂ where
  tell := h.tell
  check := Partial.checkCycles_rel h project page
  text := Partial.textFor_rel h project page
  noLayout _ := h.throw _
  limit _ := h.throw _

section Agree

variable {project : Project} {policy : MissingPolicy} {page : Page}
variable (h : Agree R project policy page s₁ s₂)
include h

theorem spliceAll_rel (base : Path) (f : Fragment) :
    R.rel (Partial.spliceAll project s₁ page base f)
      (Partial.spliceAll (project.withPolicy policy) s₂ page base f) := by
  refine Fragment.substitute_rel (fun m => ?_) f
  cases m with
  | slot s => exact R.pure _
  | splice ref => exact R.bind (h.text base ref) fun _ => R.pure _

theorem collect_rel (base : Path) (set : ResourceSet) (d : Template.Descriptor) :
    R.rel (collect project s₁ base set d) (collect (project.withPolicy policy) s₂ base set d) :=
  R.bind (h.tell _) fun _ => R.pure _

theorem mergeWithout_rel (read : Extraction) :
    R.rel (mergeWithout project s₁ page read)
      (mergeWithout (project.withPolicy policy) s₂ page read) := by
  refine R.bind (h.tell _) fun _ => ?_
  refine R.bind (h.check _) fun _ => ?_
  refine R.bind (collect_rel h _ _ _) fun resources => ?_
  exact R.bind (spliceAll_rel h _ _) fun _ => R.pure _

theorem insertContent_rel (layout : Path) (frame content : Fragment) :
    R.rel (insertContent s₁ page layout frame content)
      (insertContent s₂ page layout frame content) := by
  unfold insertContent
  split
  · exact R.pure _
  · exact R.bind (h.tell _) fun _ => R.pure _

theorem mergeInto_rel (layoutPath : Path) (layoutText : String) (read : Extraction) :
    R.rel (mergeInto project s₁ page layoutPath layoutText read)
      (mergeInto (project.withPolicy policy) s₂ page layoutPath layoutText read) := by
  refine R.bind (h.tell _) fun _ => ?_
  refine R.bind (h.check _) fun _ => ?_
  refine R.bind (collect_rel h _ _ _) fun links => ?_
  refine R.bind (collect_rel h _ _ _) fun resources => ?_
  refine R.bind (h.tell _) fun _ => ?_
  refine R.bind (spliceAll_rel h _ _) fun frame => ?_
  refine R.bind (spliceAll_rel h _ _) fun inner => ?_
  exact R.bind (insertContent_rel h _ _ _) fun _ => R.pure _

theorem merge_rel (read : Extraction)
    (hlayout : read.descriptor.layout ≠ "" →
      R.rel (s₁.layout? (StaticSite.resolve project.root page.dir read.descriptor.layout))
        (s₂.layout? (StaticSite.resolve project.root page.dir read.descriptor.layout))) :
    R.rel (merge project s₁ page read) (merge (project.withPolicy policy) s₂ page read) := by
  unfold merge
  split
  · exact mergeWithout_rel h read
  · next hasked =>
    refine R.bind (h.tell _) fun _ => R.bind (hlayout fun hnone => ?_) fun found => ?_
    · exact hasked (beq_iff_eq.2 hnone)
    · cases found with
      | some text => exact mergeInto_rel h _ text read
      | none => exact h.noLayout _

theorem dropSlots_rel (f : Fragment) : R.rel (dropSlots s₁ page f) (dropSlots s₂ page f) :=
  R.bind (h.tell _) fun _ => R.pure _

theorem firstPass_rel (merged : Merged) :
    R.rel (firstPass project s₁ page merged)
      (firstPass (project.withPolicy policy) s₂ page merged) :=
  R.bind (dropSlots_rel h _) fun _ => R.pure _

theorem reread_rel (p : Progress) : R.rel (reread s₁ p) (reread s₂ p) :=
  R.bind (h.tell _) fun _ => R.pure _

theorem lastPass_rel (p : Progress) (read : Extraction) :
    R.rel (lastPass s₁ page p read) (lastPass s₂ page p read) :=
  R.bind (dropSlots_rel h _) fun _ => R.pure _

theorem splicingPass_rel (p : Progress) (read : Extraction) :
    R.rel (splicingPass project s₁ page p read)
      (splicingPass (project.withPolicy policy) s₂ page p read) := by
  refine R.bind (spliceAll_rel h _ _) fun spliced => ?_
  exact R.bind (dropSlots_rel h _) fun _ => R.pure _

theorem passesFrom_rel (left : Nat) (p : Progress) :
    R.rel (passesFrom project s₁ page left p)
      (passesFrom (project.withPolicy policy) s₂ page left p) := by
  induction left generalizing p with
  | zero =>
    refine R.bind (reread_rel h p) fun read => ?_
    split
    · exact lastPass_rel h p read
    · exact h.limit _
  | succ left ih =>
    refine R.bind (reread_rel h p) fun read => ?_
    split
    · exact lastPass_rel h p read
    · exact R.bind (splicingPass_rel h p read) fun q => ih q

theorem furtherPasses_rel (p : Progress) :
    R.rel (furtherPasses project s₁ page p)
      (furtherPasses (project.withPolicy policy) s₂ page p) := by
  unfold furtherPasses
  split
  · exact R.pure _
  · exact passesFrom_rel h _ p

/-- Compilations of a page are related if their supplies agree and have related answers for the
layout of the page. -/
theorem resolve_rel_of_layout (text : String)
    (hlayout : ∀ layout ≠ "", (withPageAssets project page
        (Template.extract .page (.parse text)).descriptor).layout = layout →
      R.rel (s₁.layout? (StaticSite.resolve project.root page.dir layout))
        (s₂.layout? (StaticSite.resolve project.root page.dir layout))) :
    R.rel (resolve project s₁ page text) (resolve (project.withPolicy policy) s₂ page text) := by
  refine R.bind (h.tell _) fun _ => ?_
  refine R.bind (merge_rel h _ fun hne => hlayout _ hne rfl) fun merged => ?_
  refine R.bind (firstPass_rel h merged) fun p => ?_
  exact R.bind (furtherPasses_rel h p) fun _ => R.pure _

end Agree

/-- Compilations over related supplies are related. -/
theorem resolve_rel (h : s₁.Agree R s₂) (project : Project) (page : Page) (text : String) :
    R.rel (resolve project s₁ page text) (resolve project s₂ page text) :=
  resolve_rel_of_layout (agree_of_supply h project page) text fun _ _ _ => h.layout? _

end Page

end StaticSite
