/-
  Which nodes the search for a cycle expands.

  The successors of a graph may be costly, so it matters how often they are asked for.  The
  search is run with successors that keep the nodes they were asked for (`asked`).  These
  nodes are the ones on the current path together with the ones that were visited in full
  (`Exploring`), and no node is on that list twice; this is kept by every visit, so no node
  is ever expanded again (`visitAll_explored`, `explore_explored`).

  A search that was not stopped by its bound does the same under any larger bound
  (`explore_deeper`), so where only finitely many nodes can be reached the bound has no part
  in the result (`findCycle_correct`).
-/

import StaticSite.Proofs.Search
import StaticSite.Proofs.Simulation

namespace StaticSite.Graph

variable {N : Type} {successors : N → List N} {roots : List N}

/-! ## Running with a record -/

/-- Successors that keep the nodes they were asked for, the first one first. -/
def asked (successors : N → List N) (node : N) : StateM (List N) (List N) := do
  modify (· ++ [node])
  return successors node

/-- A visit with successors that keep what they were asked for. -/
abbrev explore [BEq N] (successors : N → List N) (depth : Nat) (path : List N) (node : N) :
    StateT (List N) (StateM (List N)) (Finding N) :=
  visit (asked successors) depth path node

/-- What some visits find, with the nodes visited in full and the nodes that were expanded. -/
abbrev Record (N : Type) := (Finding N × List N) × List N

/-- Goes on after a visit that found nothing. -/
def Record.goOn (r : Record N) (next : (done calls : List N) → Record N) : Record N :=
  match r with
  | ((.acyclic, done), calls) => next done calls
  | _ => r

theorem visitAll_cons_record (visit : N → StateT (List N) (StateM (List N)) (Finding N))
    (node : N) (rest done calls : List N) :
    ((visitAll visit (node :: rest)).run done).run calls =
      Record.goOn (((visit node).run done).run calls)
        fun done' calls' => ((visitAll visit rest).run done').run calls' := by
  rw [visitAll, StateT.run_bind, StateT.run_bind]
  generalize ((visit node).run done).run calls = r
  obtain ⟨⟨found, done'⟩, calls'⟩ := r
  cases found <;> rfl

theorem explore_succ_record [BEq N] (depth : Nat) (path : List N) (node : N)
    (done calls : List N) :
    ((explore successors (depth + 1) path node).run done).run calls =
      if done.contains node then ((.acyclic, done), calls)
      else if path.contains node then ((.cycle (loopAt node path), done), calls)
      else Record.goOn
        (((visitAll (explore successors depth (node :: path)) (successors node)).run done).run
          (calls ++ [node]))
        fun done' calls' => ((.acyclic, node :: done'), calls') := by
  rw [explore, visit, StateT.run_bind]
  show ((if done.contains node then _ else _ :
    StateT (List N) (StateM (List N)) (Finding N)).run done).run calls = _
  split
  · rfl
  · split
    · rfl
    · -- Asking puts the node on the record and leaves the visited nodes alone.
      have hasked : ((liftM (asked successors node) :
          StateT (List N) (StateM (List N)) (List N)).run done).run calls
          = ((successors node, done), calls ++ [node]) := rfl
      rw [StateT.run_bind, StateT.run_bind, hasked]
      show ((visitAll (explore successors depth (node :: path)) (successors node) >>= _).run
        done).run (calls ++ [node]) = _
      rw [StateT.run_bind, StateT.run_bind]
      generalize ((visitAll (explore successors depth (node :: path)) (successors node)).run
        done).run (calls ++ [node]) = r
      obtain ⟨⟨found, done'⟩, calls'⟩ := r
      cases found <;> rfl

theorem findCycle_record [BEq N] (depth : Nat) (roots calls : List N) :
    (findCycle (asked successors) depth roots).run calls =
      let r : Record N := ((visitAll (explore successors depth []) roots).run []).run calls
      (r.1.1, r.2) := rfl

/-- A run comes to the same end whether it keeps what it was asked for or not. -/
def sameEnd : MonadRel (StateM (List N)) Id where
  rel x y := ∀ calls, (x.run calls).1 = y.run
  pure _ _ := rfl
  bind {α β x y f g} hx hf calls := by
    show ((f (x.run calls).1).run (x.run calls).2).1 = _
    rw [hf (x.run calls).1 (x.run calls).2, hx calls]
    rfl

variable (successors) in
/-- Keeping the nodes that are expanded changes nothing in what is found. -/
theorem visitAll_sameEnd [BEq N] (depth : Nat) (path nodes done calls : List N) :
    (((visitAll (explore successors depth path) nodes).run done).run calls).1 =
      (visitAll (search successors depth path) nodes).run done :=
  visitAll_rel (R := sameEnd.stateT (List N))
    (fun node => visit_rel (R := sameEnd) (fun _ _ => rfl) depth path node) nodes done calls

/-! ## Every node at most once -/

/-- The nodes that were expanded so far, at the end of a path: the path, whose nodes are still
being visited, and what was visited in full. -/
structure Exploring (successors : N → List N) (roots path done calls : List N) : Prop where
  perm : calls.Perm (path ++ done)
  nodup : calls.Nodup
  reached : ∀ node ∈ calls, Reached successors roots node

namespace Exploring

variable {path done calls : List N}

theorem fresh (h : Exploring successors roots path done calls) {node : N} (hpath : node ∉ path)
    (hdone : node ∉ done) : node ∉ calls := fun hmem => by
  obtain hmem | hmem := List.mem_append.1 (h.perm.mem_iff.1 hmem)
  · exact hpath hmem
  · exact hdone hmem

/-- A node that is expanded is on the path from then on. -/
theorem push (h : Exploring successors roots path done calls) {node : N} (hpath : node ∉ path)
    (hdone : node ∉ done) (hreached : Reached successors roots node) :
    Exploring successors roots (node :: path) done (calls ++ [node]) where
  perm := (List.perm_append_singleton node calls).trans (h.perm.cons node)
  nodup := (List.perm_append_singleton node calls).nodup_iff.2
    (List.nodup_cons.2 ⟨h.fresh hpath hdone, h.nodup⟩)
  reached := List.forall_mem_append.2 ⟨h.reached, List.forall_mem_singleton.2 hreached⟩

/-- A node that is left after its successors counts as visited. -/
theorem pop {node : N} (h : Exploring successors roots (node :: path) done calls) :
    Exploring successors roots path (node :: done) calls where
  perm := h.perm.trans List.perm_middle.symm
  nodup := h.nodup
  reached := h.reached

theorem nodup_path (h : Exploring successors roots path done calls) : path.Nodup :=
  (h.perm.nodup_iff.1 h.nodup).of_append_left

end Exploring

/-- What visits at the end of a path come to.  A cycle has no node twice but for its ends. -/
def Explored (successors : N → List N) (roots path : List N) : Record N → Prop
  | ((.acyclic, done), calls) => Exploring successors roots path done calls
  | ((.cycle loop, _), calls) =>
    loop.dropLast.Nodup ∧ calls.Nodup ∧ ∀ node ∈ calls, Reached successors roots node
  | ((.tooDeep, _), _) => True

theorem visitAll_explored {visit : N → StateT (List N) (StateM (List N)) (Finding N)}
    {path nodes : List N}
    (hvisit : ∀ node ∈ nodes, ∀ done calls, Exploring successors roots path done calls →
      Explored successors roots path (((visit node).run done).run calls))
    {done calls : List N} (h : Exploring successors roots path done calls) :
    Explored successors roots path (((visitAll visit nodes).run done).run calls) := by
  induction nodes generalizing done calls with
  | nil => exact h
  | cons node rest ih =>
    have hnode := hvisit node List.mem_cons_self done calls h
    rw [visitAll_cons_record]
    generalize ((visit node).run done).run calls = r at hnode ⊢
    obtain ⟨⟨found, done'⟩, calls'⟩ := r
    cases found with
    | acyclic => exact ih (fun child hchild => hvisit child (List.mem_cons_of_mem _ hchild)) hnode
    | cycle loop => exact hnode
    | tooDeep => exact hnode

section Search

variable [BEq N] [LawfulBEq N]

theorem nodup_loopAt {node : N} {path : List N} (h : path.Nodup) :
    (loopAt node path).dropLast.Nodup := by
  rw [loopAt, List.dropLast_concat, List.nodup_cons, List.nodup_reverse, List.mem_reverse]
  refine ⟨fun hmem => ?_, h.sublist (List.takeWhile_sublist _)⟩
  have hne := List.mem_takeWhile_imp hmem
  rw [bne_self_eq_false] at hne
  cases hne

/-- One visit, with everything that it leads to. -/
theorem explore_explored (depth : Nat) {path : List N} {node : N} {done calls : List N}
    (h : Exploring successors roots path done calls) (hreached : Reached successors roots node) :
    Explored successors roots path
      (((explore successors depth path node).run done).run calls) := by
  induction depth generalizing path node done calls with
  | zero => trivial
  | succ depth ih =>
    rw [explore_succ_record]
    split
    · exact h
    · next hdone =>
      split
      · exact ⟨nodup_loopAt h.nodup_path, h.nodup, h.reached⟩
      · next hpath =>
        have hpushed := h.push (by simpa using hpath) (by simpa using hdone) hreached
        have hchildren := visitAll_explored
          (fun child hchild done' calls' h' => ih h' (hreached.step hchild)) hpushed
        generalize ((visitAll (explore successors depth (node :: path)) (successors node)).run
          done).run (calls ++ [node]) = r at hchildren ⊢
        obtain ⟨⟨found, done'⟩, calls'⟩ := r
        cases found with
        | acyclic => exact Exploring.pop hchildren
        | cycle loop => exact hchildren
        | tooDeep => trivial

variable (successors) in
theorem roots_explored (depth : Nat) (roots : List N) :
    Explored successors roots []
      (((visitAll (explore successors depth []) roots).run []).run []) :=
  visitAll_explored
    (fun _ hroot _ _ h => explore_explored depth h ⟨_, hroot, .refl⟩)
    ⟨.nil, .nil, fun _ h => (List.not_mem_nil h).elim⟩

end Search

/-! ## The bound -/

theorem visitAll_deeper {visit visit' : N → StateT (List N) (StateM (List N)) (Finding N)}
    (hvisit : ∀ node done calls, (((visit node).run done).run calls).1.1 ≠ .tooDeep →
      ((visit' node).run done).run calls = ((visit node).run done).run calls)
    {nodes done calls : List N}
    (h : (((visitAll visit nodes).run done).run calls).1.1 ≠ .tooDeep) :
    ((visitAll visit' nodes).run done).run calls = ((visitAll visit nodes).run done).run calls := by
  induction nodes generalizing done calls with
  | nil => rfl
  | cons node rest ih =>
    rw [visitAll_cons_record] at h ⊢
    have hnode := hvisit node done calls
    rw [visitAll_cons_record visit]
    generalize ((visit node).run done).run calls = r at h hnode ⊢
    obtain ⟨⟨found, done'⟩, calls'⟩ := r
    cases found with
    | acyclic =>
      rw [hnode nofun]
      exact ih h
    | cycle loop =>
      rw [hnode nofun]
      rfl
    | tooDeep => exact absurd rfl h

section Bound

variable [BEq N]

/-- A visit that its bound did not stop is the same under a larger bound. -/
theorem explore_deeper (depth : Nat) {path : List N} {node : N} {done calls : List N}
    (h : (((explore successors depth path node).run done).run calls).1.1 ≠ .tooDeep) :
    ((explore successors (depth + 1) path node).run done).run calls =
      ((explore successors depth path node).run done).run calls := by
  induction depth generalizing path node done calls with
  | zero => exact absurd rfl h
  | succ depth ih =>
    rw [explore_succ_record] at h
    rw [explore_succ_record, explore_succ_record depth]
    split
    · rfl
    · next hdone =>
      split
      · rfl
      · next hpath =>
        rw [if_neg hdone, if_neg hpath] at h
        rw [visitAll_deeper (fun child done' calls' h' => ih h')]
        -- If the successors had been stopped, so had been the visit.
        intro hdeep
        generalize ((visitAll (explore successors depth (node :: path)) (successors node)).run
          done).run (calls ++ [node]) = r at h hdeep
        obtain ⟨⟨found, done'⟩, calls'⟩ := r
        cases hdeep
        exact h rfl

theorem roots_deeper {depth bound : Nat} (hbound : depth ≤ bound)
    (h : (((visitAll (explore successors depth []) roots).run []).run []).1.1 ≠ .tooDeep) :
    ((visitAll (explore successors bound []) roots).run []).run [] =
      ((visitAll (explore successors depth []) roots).run []).run [] := by
  induction bound, hbound using Nat.le_induction with
  | base => rfl
  | succ bound _ ih =>
    rw [← ih]
    exact visitAll_deeper (fun node done calls => explore_deeper bound) (ih ▸ h)

end Bound

/-! ## The search -/

/-- A way from a node that can be reached back to it, without passing any node twice. -/
structure SimpleLoop (successors : N → List N) (roots loop : List N) : Prop where
  length : 2 ≤ loop.length
  closed : loop.head? = loop.getLast?
  distinct : loop.dropLast.Nodup
  chain : loop.IsChain (Edge successors)
  reached : ∀ first ∈ loop.head?, Reached successors roots first

theorem Loop.simple {loop : List N} (h : Loop successors roots loop)
    (hdistinct : loop.dropLast.Nodup) : SimpleLoop successors roots loop := by
  obtain ⟨node, inner, rfl, hreached⟩ := h.ends
  refine ⟨by simp, by simp [List.getLast?_cons], hdistinct, h.chain, fun first hfirst => ?_⟩
  obtain rfl : node = first := by simpa using hfirst
  exact hreached

/-- What a search comes to that its bound did not stop: what it found, and which nodes it expanded
for that. -/
structure Searched (successors : N → List N) (roots : List N) (finding : Finding N)
    (calls : List N) : Prop where
  ended : finding ≠ .tooDeep
  acyclic_iff : finding = .acyclic ↔
    ∀ node, Reached successors roots node → ¬ Relation.TransGen (Edge successors) node node
  simple : ∀ loop, finding = .cycle loop → SimpleLoop successors roots loop
  once : calls.Nodup
  reached : ∀ node ∈ calls, Reached successors roots node
  all : finding = .acyclic → ∀ node, Reached successors roots node → node ∈ calls

variable [BEq N] [LawfulBEq N]

theorem searched_of_ne_tooDeep {depth : Nat}
    (h : findCycle (m := Id) (fun node => pure (successors node)) depth roots ≠ .tooDeep) :
    Searched successors roots
      (findCycle (m := Id) (fun node => pure (successors node)) depth roots)
      ((findCycle (asked successors) depth roots).run []).2 := by
  -- The search with a record has found the same, with the same nodes visited in full.
  have hsame := visitAll_sameEnd successors depth [] roots [] []
  have hexplored := roots_explored successors depth roots
  have houtcome : Outcome successors roots depth [] roots []
      ((visitAll (search successors depth []) roots).run []) :=
    visitAll_outcome (fun _ hroot _ hdone hpath => search_outcome depth hdone hpath .nil
      (.root hroot)) .nil fun _ hmem => (List.not_mem_nil hmem).elim
  have hfinding : findCycle (m := Id) (fun node => pure (successors node)) depth roots
      = ((visitAll (search successors depth []) roots).run []).1 := rfl
  have hcalls : ((findCycle (asked successors) depth roots).run []).2
      = (((visitAll (explore successors depth []) roots).run []).run []).2 := rfl
  rw [hfinding] at h ⊢
  rw [hcalls]
  rw [← hsame] at h houtcome ⊢
  generalize ((visitAll (explore successors depth []) roots).run []).run [] = r
    at h hexplored houtcome ⊢
  obtain ⟨⟨finding, done⟩, calls⟩ := r
  cases finding with
  | acyclic =>
    have hsettling : Settling successors [] roots [] done := houtcome
    have hexploring : Exploring successors roots [] done calls := hexplored
    have hdone {node : N} (hnode : Reached successors roots node) : node ∈ done :=
      hsettling.settled.mem_of_reached hsettling.visited hnode
    exact {
      ended := h
      acyclic_iff := iff_of_true rfl fun _ hnode => hsettling.settled.acyclic (hdone hnode)
      simple := fun _ hloop => nomatch hloop
      once := hexploring.nodup
      reached := hexploring.reached
      all := fun _ _ hnode => hexploring.perm.mem_iff.2 (hdone hnode) }
  | cycle loop =>
    have hloop : Loop successors roots loop := houtcome
    obtain ⟨hdistinct, honce, hreached⟩ := hexplored
    obtain ⟨node, hnode, hcycle⟩ := hloop.cycle
    exact {
      ended := h
      acyclic_iff := iff_of_false nofun fun hnone => hnone node hnode hcycle
      simple := fun _ heq => Finding.cycle.inj heq ▸ hloop.simple hdistinct
      once := honce
      reached := hreached
      all := nofun }
  | tooDeep => exact absurd rfl h

/-- Where only finitely many nodes can be reached, the search comes to an end, and no bound from
some depth on has a part in it.  It finds a cycle exactly if there is one that can be reached; it
expands a node once at most, and nodes that can be reached only, but all of them if it finds no
cycle. -/
theorem findCycle_correct {N : Type} [DecidableEq N] (successors : N → List N) (roots : List N)
    (hfinite : { node | Reached successors roots node }.Finite) :
    ∃ bound finding calls,
      (∀ depth, bound ≤ depth →
        (findCycle (asked successors) depth roots).run [] = (finding, calls)) ∧
      Searched successors roots finding calls := by
  obtain ⟨bound, hbound⟩ := findCycle_ne_tooDeep hfinite
  have hended := hbound bound (Nat.le_refl bound)
  refine ⟨bound, _, _, fun depth hdepth => ?_, searched_of_ne_tooDeep hended⟩
  have hsame := visitAll_sameEnd successors bound [] roots [] []
  have hdeep : (((visitAll (explore successors bound []) roots).run []).run []).1.1 ≠ .tooDeep := by
    rw [hsame]
    exact hended
  rw [findCycle_record, roots_deeper hdepth hdeep]
  exact Prod.ext (congrArg (·.1) hsame) rfl

/-- Two roots above a diamond, and a way back from its foot to one of its sides. -/
def diamond (closed : Bool) : Fin 5 → List (Fin 5)
  | 0 => [1, 2]
  | 1 => [3]
  | 2 => [3]
  | 3 => if closed then [1] else []
  | 4 => [0, 3]

theorem findCycle_correct_diamond :
    (∃ bound, ∀ depth, bound ≤ depth →
      (findCycle (asked (diamond false)) depth [0, 4]).run [] = (.acyclic, [0, 1, 3, 2, 4])) ∧
    (∃ bound, ∀ depth, bound ≤ depth →
      (findCycle (asked (diamond true)) depth [0, 4]).run [] = (.cycle [1, 3, 1], [0, 1, 3])) ∧
    SimpleLoop (diamond true) [0, 4] [1, 3, 1] ∧
    ∀ node, Reached (diamond false) [0, 4] node →
      ¬ Relation.TransGen (Edge (diamond false)) node node := by
  obtain ⟨bound, finding, calls, hrun, hopen⟩ :=
    findCycle_correct (diamond false) [0, 4] (Set.toFinite _)
  obtain ⟨bound', finding', calls', hrun', hclosed⟩ :=
    findCycle_correct (diamond true) [0, 4] (Set.toFinite _)
  have hend (depth : Nat) : (findCycle (asked (diamond false)) (depth + 6) [0, 4]).run []
      = (.acyclic, [0, 1, 3, 2, 4]) := by rfl
  have hend' (depth : Nat) : (findCycle (asked (diamond true)) (depth + 6) [0, 4]).run []
      = (.cycle [1, 3, 1], [0, 1, 3]) := by rfl
  obtain ⟨rfl, rfl⟩ := Prod.mk.inj ((hrun (bound + 6) (Nat.le_add_right _ _)).symm.trans (hend _))
  obtain ⟨rfl, rfl⟩ :=
    Prod.mk.inj ((hrun' (bound' + 6) (Nat.le_add_right _ _)).symm.trans (hend' _))
  exact ⟨⟨bound, hrun⟩, ⟨bound', hrun'⟩, hclosed.simple _ rfl, hopen.acyclic_iff.1 rfl⟩

end StaticSite.Graph
