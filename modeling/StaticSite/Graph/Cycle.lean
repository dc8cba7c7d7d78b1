/-
  The search for a cycle in a directed graph.

  The graph is given by its successors, which may be costly to find out or may never
  end; so each node is expanded at most once, and the length of a path is bounded.
  The search goes depth first, in the order of the roots and successors.
-/

namespace StaticSite.Graph

/-- How a search ends. -/
inductive Finding (N : Type) where
  /-- No cycle can be reached. -/
  | acyclic
  /-- A path that starts and ends at the same node. -/
  | cycle (path : List N)
  /-- A path became longer than the bound. -/
  | tooDeep
  deriving DecidableEq, Repr

/-- Visits nodes until one of the visits finds something. -/
def visitAll [Monad m] (visit : N → m (Finding N)) : List N → m (Finding N)
  | [] => pure .acyclic
  | node :: rest => do
    match ← visit node with
    | .acyclic => visitAll visit rest
    | found => pure found

/-- The way from a node on the current path back to the node; the path has its end first. -/
def loopAt [BEq N] (node : N) (path : List N) : List N :=
  node :: (path.takeWhile (· != node)).reverse ++ [node]

/-- Visits a node at the end of a path.  The state holds the nodes that were visited in full. -/
def visit [BEq N] [Monad m] (successors : N → m (List N)) :
    (depth : Nat) → (path : List N) → (node : N) → StateT (List N) m (Finding N)
  | 0, _, _ => return .tooDeep
  | depth + 1, path, node => do
    if (← get).contains node then return .acyclic
    else if path.contains node then return .cycle (loopAt node path)
    else
      match ← visitAll (visit successors depth (node :: path)) (← successors node) with
      | .acyclic =>
        modify (node :: ·)
        return .acyclic
      | found => return found

/-- The first cycle that can be reached from the roots by paths of bounded length. -/
def findCycle [BEq N] [Monad m] (successors : N → m (List N)) (depth : Nat) (roots : List N) :
    m (Finding N) := do
  let (found, _) ← (visitAll (visit successors depth []) roots).run []
  return found

end StaticSite.Graph
