/-
  Where the nodes of a tree lie in an arena.

  A reader that meets the nodes of a tree in their order puts each one behind those that
  are there.  So the cells of a tree are known from the tree and the place where it begins
  (`Node.cellsAll`), and hanging trees below a node changes one cell and adds others at the
  end (`Arena.graft`).  Every step of the reader is a graft: a single node, a character of
  a text, and an element whose children are grafted after it was opened.  What is grafted
  onto the empty arena is read off again (`Arena.document_graft`).
-/

import StaticSite.Html.Arena

namespace StaticSite.Html

/-! ## The cells of a tree -/

mutual

/-- The number of cells that a node takes. -/
def Node.size : Node → Nat
  | .element _ children => Node.sizeAll children + 1
  | _ => 1

/-- The number of cells that siblings take. -/
def Node.sizeAll : List Node → Nat
  | [] => 0
  | n :: rest => n.size + Node.sizeAll rest

end

/-- Where siblings lie, the first at the start and each behind the one before it. -/
def Node.ids (start : NodeId) : List Node → List NodeId
  | [] => []
  | n :: rest => start :: Node.ids (start + n.size) rest

mutual

/-- The cells of a node that begins at the start. -/
def Node.cells (parent start : NodeId) : Node → List Cell
  | .doctype name => [{ content := .doctype name, parent := some parent }]
  | .comment s => [{ content := .comment s, parent := some parent }]
  | .text s => [{ content := .text s, parent := some parent }]
  | .element tag children =>
    { content := .element tag
      parent := some parent
      children := (Node.ids (start + 1) children).toArray } ::
        Node.cellsAll start (start + 1) children

/-- The cells of siblings, of which the first begins at the start. -/
def Node.cellsAll (parent start : NodeId) : List Node → List Cell
  | [] => []
  | n :: rest => n.cells parent start ++ Node.cellsAll parent (start + n.size) rest

end

namespace Node

def isText : Node → Bool
  | .text _ => true
  | _ => false

mutual

theorem length_cells (parent start : Nat) : (n : Node) → (n.cells parent start).length = n.size
  | .doctype _ | .comment _ | .text _ => rfl
  | .element _ children => by
    rw [cells, List.length_cons, length_cellsAll, size]

theorem length_cellsAll (parent start : Nat) :
    (nodes : List Node) → (cellsAll parent start nodes).length = sizeAll nodes
  | [] => rfl
  | n :: rest => by rw [cellsAll, List.length_append, length_cells, length_cellsAll, sizeAll]

end

theorem size_pos (n : Node) : 0 < n.size := by
  cases n with
  | element tag children =>
    rw [size]
    omega
  | _ => exact Nat.one_pos

theorem ids_append (start : Nat) (xs ys : List Node) :
    ids start (xs ++ ys) = ids start xs ++ ids (start + sizeAll xs) ys := by
  induction xs generalizing start with
  | nil => rfl
  | cons n rest ih => rw [List.cons_append, ids, ids, ih, sizeAll, Nat.add_assoc, List.cons_append]

theorem cellsAll_append (parent start : Nat) (xs ys : List Node) :
    cellsAll parent start (xs ++ ys) =
      cellsAll parent start xs ++ cellsAll parent (start + sizeAll xs) ys := by
  induction xs generalizing start with
  | nil => rfl
  | cons n rest ih =>
    rw [List.cons_append, cellsAll, cellsAll, ih, sizeAll, Nat.add_assoc, List.append_assoc]

theorem cellsAll_singleton (parent start : Nat) (n : Node) :
    cellsAll parent start [n] = n.cells parent start := by
  rw [cellsAll, cellsAll, List.append_nil]

end Node

/-! ## Grafting -/

namespace Arena

/-- A cell with more children behind those it has. -/
def addChildren (ids : List NodeId) (cell : Cell) : Cell :=
  { cell with children := cell.children ++ ids.toArray }

/-- Siblings put below a node, behind its other children. -/
def graft (a : Arena) (parent : Nat) (nodes : List Node) : Arena :=
  ⟨a.cells.modify parent (addChildren (Node.ids a.next nodes)) ++
    (Node.cellsAll parent a.next nodes).toArray⟩

/-- An element without children, put below a node. -/
def opened (a : Arena) (parent : Nat) (tag : Tag) : Arena :=
  (a.add (.element tag)).attach parent a.next

/-- Whether the last child of a node is a text. -/
def endsInText (a : Arena) (parent : NodeId) : Bool := (a.children parent).back?.any a.isText

@[simp]
theorem next_graft (a : Arena) (parent : Nat) (nodes : List Node) :
    (a.graft parent nodes).next = a.next + Node.sizeAll nodes := by
  show (graft a parent nodes).cells.size = a.cells.size + _
  rw [graft, Array.size_append, Array.size_modify]
  exact congrArg (a.cells.size + ·) (Node.length_cellsAll parent a.next nodes)

theorem getElem?_graft (a : Arena) (parent : Nat) (nodes : List Node) (i : Nat) :
    (a.graft parent nodes).cells[i]? =
      if i < a.next then
        if parent = i then a.cells[i]?.map (addChildren (Node.ids a.next nodes)) else a.cells[i]?
      else (Node.cellsAll parent a.next nodes)[i - a.next]? := by
  rw [graft, Array.getElem?_append, Array.size_modify, Array.getElem?_modify]
  simp only [List.getElem?_toArray]
  rfl

theorem ext_cells {a b : Arena} (h : ∀ i : Nat, a.cells[i]? = b.cells[i]?) : a = b := by
  obtain ⟨as⟩ := a
  obtain ⟨bs⟩ := b
  exact congrArg Arena.mk (Array.ext_getElem? h)

theorem graft_nil (a : Arena) (parent : Nat) : a.graft parent [] = a := by
  refine ext_cells fun i => ?_
  rw [getElem?_graft]
  by_cases hi : i < a.next
  · rw [if_pos hi]
    by_cases hparent : parent = i
    · rw [if_pos hparent]
      have hsame : addChildren [] = id := funext fun cell => by simp [addChildren]
      rw [Node.ids, hsame, Option.map_id]
      rfl
    · rw [if_neg hparent]
  · have hnone : a.cells[i]? = none := Array.getElem?_eq_none (Nat.le_of_not_lt hi)
    rw [if_neg hi, hnone, Node.cellsAll]
    rfl

section Below

variable {a : Arena} {parent : Nat} (hparent : parent < a.next)
include hparent

/-- Siblings may be put below a node in several steps. -/
theorem graft_graft (xs ys : List Node) :
    (a.graft parent xs).graft parent ys = a.graft parent (xs ++ ys) := by
  refine ext_cells fun i => ?_
  rw [getElem?_graft, getElem?_graft, getElem?_graft, next_graft, Node.ids_append,
    Node.cellsAll_append]
  by_cases hold : i < a.next
  · have hmid : i < a.next + Node.sizeAll xs := by omega
    rw [if_pos hold, if_pos hmid, if_pos hold]
    by_cases hi : parent = i
    · rw [if_pos hi, if_pos hi, if_pos hi, Option.map_map]
      congr 1
      funext cell
      simp only [Function.comp_apply, addChildren, Array.append_assoc, List.append_toArray]
    · rw [if_neg hi, if_neg hi, if_neg hi]
  · have hi : ¬ parent = i := by omega
    rw [if_neg hold, if_neg hi, List.getElem?_append, Node.length_cellsAll]
    by_cases hmid : i < a.next + Node.sizeAll xs
    · have hfirst : i - a.next < Node.sizeAll xs := by omega
      rw [if_pos hmid, if_neg hold, if_pos hfirst]
    · have hfirst : ¬ i - a.next < Node.sizeAll xs := by omega
      rw [if_neg hmid, if_neg hfirst, if_neg hold, Nat.sub_add_eq]

/-- A new node below another one. -/
theorem getElem?_add_attach (content : Content) (i : Nat) :
    ((a.add content).attach parent a.next).cells[i]? =
      if i < a.next then
        if parent = i then a.cells[i]?.map (addChildren [a.next]) else a.cells[i]?
      else [({ content, parent := some parent } : Cell)][i - a.next]? := by
  rw [attach, modify, modify, add, Array.getElem?_modify, Array.getElem?_modify, Array.getElem?_push]
  by_cases hold : i < a.next
  · have hnew : ¬ a.next = i := Nat.ne_of_gt hold
    have hlast : ¬ i = a.cells.size := Nat.ne_of_lt hold
    rw [if_pos hold, if_neg hnew, if_neg hlast]
    by_cases hi : parent = i
    · rw [if_pos hi, if_pos hi]
      congr 1
    · rw [if_neg hi, if_neg hi]
  · have hi : ¬ parent = i := by omega
    rw [if_neg hold, if_neg hi]
    by_cases hnew : a.next = i
    · have hlast : i = a.cells.size := hnew.symm
      rw [if_pos hnew, if_pos hlast, hnew, Nat.sub_self]
      rfl
    · have hlast : ¬ i = a.cells.size := fun h => hnew h.symm
      have hnone : a.cells[i]? = none := Array.getElem?_eq_none (Nat.le_of_not_lt hold)
      have hlt : i > a.next := Nat.lt_of_le_of_ne (Nat.le_of_not_lt hold) hnew
      have hbeyond : i - a.next = (i - a.next - 1) + 1 := by omega
      rw [if_neg hnew, if_neg hlast, hnone, hbeyond]
      rfl

theorem add_attach_eq_graft {content : Content} {n : Node} (hcells : n.cells parent a.next = [{ content, parent := some parent }]) :
    (a.add content).attach parent a.next = a.graft parent [n] := by
  refine ext_cells fun i => ?_
  rw [getElem?_add_attach hparent, getElem?_graft, Node.cellsAll_singleton, hcells, Node.ids,
    Node.ids]

theorem opened_eq_graft (tag : Tag) : a.opened parent tag = a.graft parent [.element tag []] :=
  add_attach_eq_graft hparent rfl

/-- An element whose children are put below it after it was opened. -/
theorem graft_opened (tag : Tag) (children : List Node) :
    (a.opened parent tag).graft a.next children = a.graft parent [.element tag children] := by
  refine ext_cells fun i => ?_
  rw [opened_eq_graft hparent, getElem?_graft, getElem?_graft, getElem?_graft, next_graft,
    Node.cellsAll_singleton, Node.cellsAll_singleton, Node.ids, Node.ids, Node.ids, Node.ids,
    Node.cells, Node.cells, Node.sizeAll, Node.sizeAll, Node.size, Node.sizeAll]
  by_cases hold : i < a.next
  · have hbefore : i < a.next + (0 + 1 + 0) := by omega
    have hnew : ¬ a.next = i := Nat.ne_of_gt hold
    rw [if_pos hbefore, if_neg hnew, if_pos hold, if_pos hold]
  · rw [if_neg hold]
    by_cases hnew : a.next = i
    · have hbefore : i < a.next + (0 + 1 + 0) := by
        rw [hnew]
        omega
      rw [if_pos hbefore, if_pos hnew, if_neg hold, ← hnew, Nat.sub_self]
      simp [addChildren, Node.cellsAll, Node.ids]
    · have hlt : i > a.next := Nat.lt_of_le_of_ne (Nat.le_of_not_lt hold) hnew
      have hbefore : ¬ i < a.next + (0 + 1 + 0) := by omega
      have hbeyond : i - a.next = (i - (a.next + (0 + 1 + 0))) + 1 := by omega
      rw [if_neg hbefore, if_neg hold, hbeyond, List.getElem?_cons_succ]

theorem children_graft (nodes : List Node) :
    (a.graft parent nodes).children parent =
      a.children parent ++ (Node.ids a.next nodes).toArray := by
  have hcell : a.cells[parent]? = some a.cells[parent] := Array.getElem?_eq_getElem hparent
  rw [children, children, getElem?_graft, if_pos hparent, if_pos rfl, hcell]
  rfl

/-! ## Text -/

/-- Adding to the end of a node starts a text if there is none. -/
theorem appendChar_eq_graft (h : a.endsInText parent = false) (c : Char) :
    a.appendChar parent c = a.graft parent [.text (String.singleton c)] := by
  have hfresh : (a.add (.text (String.singleton c))).attach parent a.next =
      a.graft parent [.text (String.singleton c)] := add_attach_eq_graft hparent rfl
  unfold appendChar
  unfold endsInText at h
  cases hlast : (a.children parent).back? with
  | none => exact hfresh
  | some last =>
    rw [hlast, Option.any_some] at h
    simp only [h, Bool.false_eq_true, if_false]
    exact hfresh

/-- Adding to the end of a node goes to the text that comes last. -/
theorem appendChar_graft_text (s : String) (c : Char) :
    (a.graft parent [.text s]).appendChar parent c = a.graft parent [.text (s.push c)] := by
  have hlast : ((a.graft parent [.text s]).children parent).back? = some a.next := by
    rw [children_graft hparent]
    exact Array.back?_push
  have hnew : ¬ a.next < a.next := Nat.lt_irrefl _
  have htext : (a.graft parent [.text s]).isText a.next = true := by
    rw [isText, getElem?_graft, if_neg hnew, Nat.sub_self]
    rfl
  unfold appendChar
  simp only [hlast, htext, if_true]
  refine ext_cells fun i => ?_
  rw [pushChar, modify, Array.getElem?_modify, getElem?_graft, getElem?_graft]
  by_cases hold : i < a.next
  · have hi : ¬ a.next = i := Nat.ne_of_gt hold
    rw [if_neg hi, if_pos hold, if_pos hold]
    rfl
  · rw [if_neg hold, if_neg hold]
    by_cases hi : a.next = i
    · rw [if_pos hi, hi, Nat.sub_self]
      rfl
    · have hlt : i > a.next := Nat.lt_of_le_of_ne (Nat.le_of_not_lt hold) hi
      have hbeyond : i - a.next = (i - a.next - 1) + 1 := by omega
      rw [if_neg hi, hbeyond]
      rfl

/-- The characters of a text, one after the other. -/
theorem appendChars_eq_graft (h : a.endsInText parent = false) {cs : List Char} (hcs : cs ≠ []) :
    cs.foldl (fun a c => a.appendChar parent c) a = a.graft parent [.text (String.ofList cs)] := by
  obtain ⟨c, rest, rfl⟩ := List.exists_cons_of_ne_nil hcs
  have hmore (s : String) : rest.foldl (fun a c => a.appendChar parent c)
      (a.graft parent [.text s]) = a.graft parent [.text (s ++ String.ofList rest)] := by
    induction rest generalizing s with
    | nil => rw [List.foldl_nil, String.ofList_nil, String.append_empty]
    | cons d rest ih =>
      have hpush : s.push d ++ String.ofList rest = s ++ String.ofList (d :: rest) := by
        simp [String.ext_iff]
      rw [List.foldl_cons, appendChar_graft_text hparent, ih (by simp), hpush]
  rw [List.foldl_cons, appendChar_eq_graft hparent h, hmore, String.ofList_cons]

theorem endsInText_graft (n : Node) : (a.graft parent [n]).endsInText parent = n.isText := by
  have hlast : ((a.graft parent [n]).children parent).back? = some a.next := by
    rw [children_graft hparent]
    exact Array.back?_push
  have hnew : ¬ a.next < a.next := Nat.lt_irrefl _
  rw [endsInText, hlast, Option.any_some, isText, getElem?_graft, if_neg hnew, Nat.sub_self,
    Node.cellsAll_singleton]
  cases n <;> rfl

theorem endsInText_opened (tag : Tag) : (a.opened parent tag).endsInText a.next = false := by
  have hnew : ¬ a.next < a.next := Nat.lt_irrefl _
  have hnone : (a.opened parent tag).children a.next = #[] := by
    rw [opened_eq_graft hparent, children, getElem?_graft, if_neg hnew, Nat.sub_self]
    rfl
  rw [endsInText, hnone]
  rfl

theorem next_opened (tag : Tag) : (a.opened parent tag).next = a.next + 1 := by
  rw [opened_eq_graft hparent, next_graft]
  rfl

end Below

/-! ## Reading the tree off -/

/-- Whether the cells of some siblings lie at the start. -/
def Holds (a : Arena) (parent start : NodeId) (nodes : List Node) : Prop :=
  ∀ i : Nat, i < Node.sizeAll nodes → a.cells[start + i]? = (Node.cellsAll parent start nodes)[i]?

theorem Holds.head {a : Arena} {parent start : Nat} {n : Node} {rest : List Node}
    (h : a.Holds parent start (n :: rest)) : a.Holds parent start [n] := by
  intro i hi
  have hlt : i < n.size := hi
  rw [h i (by rw [Node.sizeAll]; omega), Node.cellsAll_singleton, Node.cellsAll,
    List.getElem?_append, Node.length_cells, if_pos hlt]

theorem Holds.tail {a : Arena} {parent start : Nat} {n : Node} {rest : List Node}
    (h : a.Holds parent start (n :: rest)) : a.Holds parent (start + n.size) rest := by
  intro i hi
  have hge : ¬ n.size + i < n.size := by omega
  rw [Nat.add_assoc, h (n.size + i) (by rw [Node.sizeAll]; omega), Node.cellsAll,
    List.getElem?_append, Node.length_cells, if_neg hge, Nat.add_sub_cancel_left]

theorem Holds.children {a : Arena} {parent start : Nat} {tag : Tag} {nodes : List Node}
    (h : a.Holds parent start [.element tag nodes]) : a.Holds start (start + 1) nodes := by
  intro i hi
  rw [Nat.add_assoc, Nat.add_comm 1 i, h (i + 1) (by rw [Node.sizeAll, Node.size]; omega),
    Node.cellsAll_singleton, Node.cells, List.getElem?_cons_succ]

mutual

theorem node?_eq {a : Arena} {parent start : Nat} :
    (n : Node) → a.Holds parent start [n] → (depth : Nat) → n.size ≤ depth →
      a.node? depth start = some n
  | n, h, 0, hdepth => absurd n.size_pos (by omega)
  | .doctype name, h, depth + 1, _ => by
    have hcell := h 0 Nat.one_pos
    rw [Nat.add_zero] at hcell
    rw [node?, hcell]
    rfl
  | .comment s, h, depth + 1, _ => by
    have hcell := h 0 Nat.one_pos
    rw [Nat.add_zero] at hcell
    rw [node?, hcell]
    rfl
  | .text s, h, depth + 1, _ => by
    have hcell := h 0 Nat.one_pos
    rw [Nat.add_zero] at hcell
    rw [node?, hcell]
    rfl
  | .element tag children, h, depth + 1, hdepth => by
    have hsize : Node.sizeAll children ≤ depth := by
      rw [Node.size] at hdepth
      omega
    have hcell := h 0 (Nat.succ_pos _)
    rw [Nat.add_zero, Node.cellsAll_singleton, Node.cells, List.getElem?_cons_zero] at hcell
    have hchildren := nodes?_eq children h.children depth hsize
    rw [node?, hcell, Option.bind_some]
    exact congrArg (fun nodes => some (Node.element tag nodes)) hchildren

theorem nodes?_eq {a : Arena} {parent start : Nat} :
    (nodes : List Node) → a.Holds parent start nodes → (depth : Nat) →
      Node.sizeAll nodes ≤ depth → (Node.ids start nodes).filterMap (a.node? depth) = nodes
  | [], _, _, _ => rfl
  | n :: rest, h, depth, hdepth => by
    rw [Node.sizeAll] at hdepth
    have hn := node?_eq n h.head depth (by omega)
    have hrest := nodes?_eq rest h.tail depth (by omega)
    rw [Node.ids, List.filterMap_cons_some hn, hrest]

end

/-- Trees that were grafted onto the empty arena are its document. -/
theorem document_graft (nodes : List Node) : (empty.graft root nodes).document = ⟨nodes⟩ := by
  have hroot : root < empty.next := Nat.one_pos
  have hholds : (empty.graft root nodes).Holds root 1 nodes := by
    intro i _
    have hnew : ¬ 1 + i < empty.next := by
      show ¬ 1 + i < 1
      omega
    have hstart : 1 + i - empty.next = i := Nat.add_sub_cancel_left 1 i
    rw [getElem?_graft, if_neg hnew, hstart]
    rfl
  have hsize : Node.sizeAll nodes ≤ (empty.graft root nodes).cells.size := by
    show _ ≤ (empty.graft root nodes).next
    rw [next_graft]
    exact Nat.le_add_left _ _
  have hids : ((empty.graft root nodes).children root).toList = Node.ids 1 nodes := by
    rw [children_graft hroot, Array.toList_append]
    rfl
  rw [document, hids, nodes?_eq nodes hholds _ hsize]

end Arena

end StaticSite.Html
