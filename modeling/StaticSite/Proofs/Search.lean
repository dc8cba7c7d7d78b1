/-
  What the search for a cycle finds.

  A `Trail` is a way from a root, with its end first.  The search keeps two things: the
  trail to the node that it visits, and the nodes that are `Settled`, all of whose
  successors were settled before them.  So a search that ends without a finding has
  settled everything that can be reached, and no settled node lies on a cycle; a search
  that goes too deep shows a trail of that length (`findCycle_outcome`).
-/

import Mathlib
import StaticSite.Graph.Cycle

namespace StaticSite.Graph

variable {N : Type} (successors : N → List N) (roots : List N)

/-! ## Ways through the graph -/

/-- Whether a node refers to another. -/
def Edge (a b : N) : Prop := b ∈ successors a

/-- Whether a node can be reached. -/
def Reached (node : N) : Prop := ∃ root ∈ roots, Relation.ReflTransGen (Edge successors) root node

/-- A way from a root; it has its end first. -/
inductive Trail : List N → Prop where
  | root {node : N} (h : node ∈ roots) : Trail [node]
  | step {a b : N} {before : List N} (h : Trail (a :: before)) (hedge : Edge successors a b) :
    Trail (b :: a :: before)

/-- A way from a node that can be reached back to the node. -/
structure Loop (path : List N) : Prop where
  ends : ∃ node inner, path = node :: inner ++ [node] ∧ Reached successors roots node
  chain : path.IsChain (Edge successors)

variable {successors roots}

theorem Reached.step {a b : N} (h : Reached successors roots a) (hedge : Edge successors a b) :
    Reached successors roots b := by
  obtain ⟨root, hroot, hway⟩ := h
  exact ⟨root, hroot, hway.tail hedge⟩

namespace Trail

theorem reached {trail : List N} (h : Trail successors roots trail) :
    ∀ node ∈ trail, Reached successors roots node := by
  induction h with
  | root hroot =>
    rintro _ (_ | ⟨_, hnil⟩)
    · exact ⟨_, hroot, .refl⟩
    · cases hnil
  | step _ hedge ih =>
    rintro _ (_ | ⟨_, hmem⟩)
    · exact (ih _ List.mem_cons_self).step hedge
    · exact ih _ hmem

theorem isChain {trail : List N} (h : Trail successors roots trail) :
    trail.IsChain fun b a => Edge successors a b := by
  induction h with
  | root _ => exact .singleton _
  | step _ hedge ih => exact .cons_cons hedge ih

/-- A trail goes on wherever the graph does. -/
theorem extend {a b : N} (hway : Relation.TransGen (Edge successors) a b) {before : List N}
    (h : Trail successors roots (a :: before)) :
    ∃ more, Trail successors roots (b :: more) ∧ before.length < more.length := by
  induction hway with
  | single hedge => exact ⟨_, h.step hedge, Nat.lt_succ_self _⟩
  | tail _ hedge ih =>
    obtain ⟨more, htrail, hlength⟩ := ih
    exact ⟨_, htrail.step hedge, Nat.lt_succ_of_lt hlength⟩

end Trail

theorem transGen_of_isChain {a b : N} {inner : List N}
    (h : (a :: inner ++ [b]).IsChain (Edge successors)) :
    Relation.TransGen (Edge successors) a b := by
  induction inner generalizing a with
  | nil => exact .single (List.isChain_pair.1 h)
  | cons c rest ih =>
    obtain ⟨hedge, hrest⟩ := List.isChain_cons_cons.1 h
    exact .head hedge (ih hrest)

theorem Loop.cycle {path : List N} (h : Loop successors roots path) :
    ∃ node, Reached successors roots node ∧ Relation.TransGen (Edge successors) node node := by
  obtain ⟨node, inner, rfl, hreached⟩ := h.ends
  exact ⟨node, hreached, transGen_of_isChain h.chain⟩

/-! ## Settled nodes -/

variable (successors) in
/-- Nodes, the last one first, each of which refers only to nodes that were settled before it. -/
inductive Settled : List N → Prop where
  | nil : Settled []
  | cons {node : N} {done : List N} (h : Settled done) (hnew : node ∉ done)
    (hclosed : ∀ child ∈ successors node, child ∈ done) : Settled (node :: done)

namespace Settled

variable {done : List N}

theorem closed (h : Settled successors done) {a b : N} (ha : a ∈ done)
    (hedge : Edge successors a b) : b ∈ done := by
  induction h with
  | nil => cases ha
  | cons _ _ hclosed ih =>
    cases ha with
    | head => exact List.mem_cons_of_mem _ (hclosed b hedge)
    | tail _ ha => exact List.mem_cons_of_mem _ (ih ha)

theorem closed_trans (h : Settled successors done) {a b : N} (ha : a ∈ done)
    (hway : Relation.ReflTransGen (Edge successors) a b) : b ∈ done := by
  induction hway with
  | refl => exact ha
  | tail _ hedge ih => exact h.closed ih hedge

/-- No settled node lies on a cycle. -/
theorem acyclic (h : Settled successors done) {a : N} (ha : a ∈ done) :
    ¬ Relation.TransGen (Edge successors) a a := by
  induction h with
  | nil => cases ha
  | cons hdone hnew hclosed ih =>
    cases ha with
    | head =>
      -- The way leads to nodes that were settled before, and never back.
      intro hway
      obtain ⟨child, hedge, hback⟩ := Relation.TransGen.head'_iff.1 hway
      exact hnew (hdone.closed_trans (hclosed child hedge) hback)
    | tail _ ha => exact ih ha

theorem mem_of_reached (h : Settled successors done) (hroots : ∀ root ∈ roots, root ∈ done)
    {node : N} (hreached : Reached successors roots node) : node ∈ done := by
  obtain ⟨root, hroot, hway⟩ := hreached
  exact h.closed_trans (hroots root hroot) hway

end Settled

/-! ## One visit -/

/-- A search in a graph that is known. -/
abbrev search [BEq N] (successors : N → List N) (depth : Nat) (path : List N) (node : N) :
    StateT (List N) Id (Finding N) :=
  visit (m := Id) (fun node => pure (successors node)) depth path node

/-- Goes on with the nodes visited so far, unless something was found. -/
def goOn (p : Finding N × List N) (next : List N → Finding N × List N) : Finding N × List N :=
  match p with
  | (.acyclic, done) => next done
  | _ => p

theorem visitAll_cons_run (visit : N → StateT (List N) Id (Finding N)) (node : N) (rest : List N)
    (done : List N) :
    (visitAll visit (node :: rest)).run done =
      goOn ((visit node).run done) (visitAll visit rest).run := by
  rw [visitAll, StateT.run_bind]
  generalize (visit node).run done = p
  obtain ⟨found, done'⟩ := p
  cases found <;> rfl

theorem search_succ_run [BEq N] (depth : Nat) (path : List N) (node : N) (done : List N) :
    (search successors (depth + 1) path node).run done =
      if done.contains node then (.acyclic, done)
      else if path.contains node then (.cycle (loopAt node path), done)
      else goOn ((visitAll (search successors depth (node :: path)) (successors node)).run done)
        fun done' => (.acyclic, node :: done') := by
  rw [search, visit, StateT.run_bind]
  show (if done.contains node then _ else _ : StateT (List N) Id (Finding N)).run done = _
  split
  · rfl
  · split
    · rfl
    · rw [StateT.run_bind, liftM, StateT.run_monadLift]
      show (visitAll (search successors depth (node :: path)) (successors node) >>= _).run done = _
      rw [StateT.run_bind]
      generalize (visitAll (search successors depth (node :: path)) (successors node)).run done = p
      obtain ⟨found, done'⟩ := p
      cases found <;> rfl

/-- What has been settled after some nodes were visited at the end of a path. -/
structure Settling (successors : N → List N) (path nodes done done' : List N) : Prop where
  settled : Settled successors done'
  kept : ∀ node ∈ done, node ∈ done'
  visited : ∀ node ∈ nodes, node ∈ done'
  /-- The nodes of the path are still being visited. -/
  apart : ∀ node ∈ path, node ∉ done'

/-- What visiting nodes at the end of a path comes to, if trails up to a bound are followed. -/
def Outcome (successors : N → List N) (roots : List N) (bound : Nat) (path nodes done : List N) :
    Finding N × List N → Prop
  | (.acyclic, done') => Settling successors path nodes done done'
  | (.cycle loop, _) => Loop successors roots loop
  | (.tooDeep, _) =>
    ∃ trail, Trail successors roots trail ∧ trail.length = bound + 1 ∧ trail.tail.Nodup

theorem visitAll_outcome {visit : N → StateT (List N) Id (Finding N)} {bound : Nat}
    {path nodes : List N}
    (hvisit : ∀ node ∈ nodes, ∀ done, Settled successors done → (∀ x ∈ path, x ∉ done) →
      Outcome successors roots bound path [node] done ((visit node).run done))
    {done : List N} (hdone : Settled successors done) (hpath : ∀ x ∈ path, x ∉ done) :
    Outcome successors roots bound path nodes done ((visitAll visit nodes).run done) := by
  induction nodes generalizing done with
  | nil => exact ⟨hdone, fun _ h => h, fun _ h => (List.not_mem_nil h).elim, hpath⟩
  | cons node rest ih =>
    have hnode := hvisit node List.mem_cons_self done hdone hpath
    rw [visitAll_cons_run]
    generalize (visit node).run done = p at hnode ⊢
    obtain ⟨found, done₁⟩ := p
    cases found with
    | acyclic =>
      -- The rest is visited with the nodes that the first one settled.
      have hnode : Settling successors path [node] done done₁ := hnode
      have hrest := ih (fun child hchild => hvisit child (List.mem_cons_of_mem _ hchild))
        hnode.settled hnode.apart
      show Outcome successors roots bound path (node :: rest) done ((visitAll visit rest).run done₁)
      generalize (visitAll visit rest).run done₁ = p at hrest ⊢
      obtain ⟨found, done₂⟩ := p
      cases found with
      | acyclic =>
        have hrest : Settling successors path rest done₁ done₂ := hrest
        refine ⟨hrest.settled, fun x hx => hrest.kept x (hnode.kept x hx), ?_, hrest.apart⟩
        rintro x (_ | ⟨_, hx⟩)
        · exact hrest.kept _ (hnode.visited _ List.mem_cons_self)
        · exact hrest.visited x hx
      | cycle loop => exact hrest
      | tooDeep => exact hrest
    | cycle loop => exact hnode
    | tooDeep => exact hnode

section Search

variable [BEq N] [LawfulBEq N]

theorem loopAt_loop {node : N} {path : List N} (htrail : Trail successors roots (node :: path))
    (hmem : node ∈ path) : Loop successors roots (loopAt node path) := by
  refine ⟨⟨node, _, rfl, htrail.reached node List.mem_cons_self⟩, ?_⟩
  -- The loop is the end of the trail, from where the node stood on it last.
  obtain ⟨since, before, rfl, hsince⟩ := List.eq_append_cons_of_mem hmem
  have htake : (since ++ node :: before).takeWhile (· != node) = since := by
    rw [List.takeWhile_append_of_pos, List.takeWhile_cons_of_neg, List.append_nil]
    · rw [bne_self_eq_false]
      exact Bool.false_ne_true
    · intro x hx
      exact bne_iff_ne.2 fun h => hsince (h ▸ hx)
  have hchain := htrail.isChain
  rw [← List.cons_append, List.append_cons] at hchain
  have hloop := List.isChain_reverse.2 hchain.left_of_append
  rw [loopAt, htake]
  rw [List.reverse_append, List.reverse_singleton, List.reverse_cons] at hloop
  exact hloop

/-- One visit, with everything that it leads to. -/
theorem search_outcome (depth : Nat) {path : List N} {node : N} {done : List N}
    (hdone : Settled successors done) (hpath : ∀ x ∈ path, x ∉ done) (hnodup : path.Nodup)
    (htrail : Trail successors roots (node :: path)) :
    Outcome successors roots (depth + path.length) path [node] done
      ((search successors depth path node).run done) := by
  induction depth generalizing path node done with
  | zero => exact ⟨node :: path, htrail, by rw [List.length_cons, Nat.zero_add], hnodup⟩
  | succ depth ih =>
    rw [search_succ_run]
    split
    · next hin =>
      have hmem : node ∈ done := by simpa using hin
      exact ⟨hdone, fun _ h => h, List.forall_mem_singleton.2 hmem, hpath⟩
    · next hnotin =>
      split
      · next hon =>
        exact loopAt_loop htrail (by simpa using hon)
      · next hoff =>
        have hfresh : node ∉ done := by simpa using hnotin
        have hnew : node ∉ path := by simpa using hoff
        have hchildren : Outcome successors roots (depth + (node :: path).length) (node :: path)
            (successors node) done
            ((visitAll (search successors depth (node :: path)) (successors node)).run done) := by
          refine visitAll_outcome (fun child hchild done' hdone' hapart => ?_) hdone ?_
          · exact ih hdone' hapart (List.nodup_cons.2 ⟨hnew, hnodup⟩) (htrail.step hchild)
          · exact List.forall_mem_cons.2 ⟨hfresh, hpath⟩
        have hbound : depth + (node :: path).length = depth + 1 + path.length := by
          rw [List.length_cons]
          omega
        rw [hbound] at hchildren
        generalize (visitAll (search successors depth (node :: path)) (successors node)).run done
          = p at hchildren ⊢
        obtain ⟨found, done'⟩ := p
        cases found with
        | acyclic =>
          have hchildren : Settling successors (node :: path) (successors node) done done' :=
            hchildren
          -- The node is settled now: its children are, and nobody settled it in the meantime.
          have hnode : node ∉ done' := hchildren.apart node List.mem_cons_self
          refine ⟨.cons hchildren.settled hnode hchildren.visited,
            fun x hx => List.mem_cons_of_mem _ (hchildren.kept x hx),
            List.forall_mem_singleton.2 List.mem_cons_self, fun x hx => ?_⟩
          rintro (_ | ⟨_, hin⟩)
          · exact hnew hx
          · exact hchildren.apart x (List.mem_cons_of_mem _ hx) hin
        | cycle loop => exact hchildren
        | tooDeep => exact hchildren

variable (successors) in
/-- The end of a search from all roots. -/
theorem findCycle_outcome (depth : Nat) (roots : List N) :
    ∃ done, Outcome successors roots depth [] roots []
      (findCycle (m := Id) (fun node => pure (successors node)) depth roots, done) :=
  ⟨_, visitAll_outcome
    (fun _ hroot _ hdone hpath => search_outcome depth hdone hpath .nil (.root hroot)) .nil
    fun _ h => (List.not_mem_nil h).elim⟩

/-! ## The three findings -/

variable {depth : Nat}

/-- If nothing is found, all that can be reached was visited, and none of it is on a cycle. -/
theorem of_findCycle_acyclic
    (h : findCycle (m := Id) (fun node => pure (successors node)) depth roots = .acyclic) :
    { node | Reached successors roots node }.Finite ∧
      ∀ node, Reached successors roots node → ¬ Relation.TransGen (Edge successors) node node := by
  obtain ⟨done, houtcome⟩ := findCycle_outcome successors depth roots
  rw [h] at houtcome
  have hsettling : Settling successors [] roots [] done := houtcome
  have hmem {node : N} (hnode : Reached successors roots node) : node ∈ done :=
    hsettling.settled.mem_of_reached hsettling.visited hnode
  exact ⟨(List.finite_toSet done).subset fun _ hnode => hmem hnode,
    fun _ hnode => hsettling.settled.acyclic (hmem hnode)⟩

theorem of_findCycle_cycle {loop : List N}
    (h : findCycle (m := Id) (fun node => pure (successors node)) depth roots = .cycle loop) :
    Loop successors roots loop := by
  obtain ⟨done, houtcome⟩ := findCycle_outcome successors depth roots
  rw [h] at houtcome
  exact houtcome

theorem of_findCycle_tooDeep
    (h : findCycle (m := Id) (fun node => pure (successors node)) depth roots = .tooDeep) :
    ∃ trail, Trail successors roots trail ∧ trail.length = depth + 1 ∧ trail.tail.Nodup := by
  obtain ⟨done, houtcome⟩ := findCycle_outcome successors depth roots
  rw [h] at houtcome
  exact houtcome

/-- Where only finitely many nodes can be reached, a search does not go too deep: it would have to
pass more nodes than there are. -/
theorem findCycle_ne_tooDeep (hfinite : { node | Reached successors roots node }.Finite) :
    ∃ bound, ∀ depth, bound ≤ depth →
      findCycle (m := Id) (fun node => pure (successors node)) depth roots ≠ .tooDeep := by
  refine ⟨hfinite.toFinset.card + 1, fun depth hdepth h => ?_⟩
  obtain ⟨trail, htrail, hlength, hnodup⟩ := of_findCycle_tooDeep h
  -- The trail has different nodes up to its end, all of which can be reached.
  have hsubset : ∀ node ∈ trail.tail, node ∈ hfinite.toFinset := fun node hnode =>
    hfinite.mem_toFinset.2 (htrail.reached node (List.mem_of_mem_tail hnode))
  classical
  have hcard : trail.tail.toFinset.card ≤ hfinite.toFinset.card :=
    Finset.card_le_card fun node hnode => hsubset node (List.mem_toFinset.1 hnode)
  rw [List.toFinset_card_of_nodup hnodup, List.length_tail, hlength] at hcard
  omega

end Search

end StaticSite.Graph
