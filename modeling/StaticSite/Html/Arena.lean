/-
  A growing tree whose nodes have identities.

  While a document is read, nodes are moved and extended long after they were
  created, so they live in an arena: an array of cells that name their parent and
  children by index.  Cell 0 is the document.  `Arena.document` reads the finished
  tree off.
-/

import StaticSite.Html.Node

namespace StaticSite.Html

/-- The index of a cell. -/
abbrev NodeId := Nat

inductive Content where
  | document
  | doctype (name : String)
  | comment (text : String)
  | text (text : String)
  | element (tag : Tag)
  deriving Repr

def Content.isText : Content → Bool
  | .text _ => true
  | _ => false

/-- Adds a character to a text; other contents stay. -/
def Content.pushChar (c : Char) : Content → Content
  | .text s => .text (s.push c)
  | other => other

/-- Adds those attributes whose names the element does not have yet. -/
def Content.addMissingAttrs (attrs : List Attribute) : Content → Content
  | .element tag =>
    .element { tag with
      attrs := tag.attrs ++ attrs.filter fun attr => !(tag.attrs.map (·.name)).contains attr.name }
  | other => other

structure Cell where
  content : Content
  parent : Option NodeId := none
  children : Array NodeId := #[]
  deriving Repr

structure Arena where
  cells : Array Cell
  deriving Repr

namespace Arena

/-- The document node. -/
def root : NodeId := 0

/-- An arena that holds an empty document. -/
def empty : Arena := ⟨#[{ content := .document }]⟩

def parent? (a : Arena) (id : NodeId) : Option NodeId :=
  a.cells[id]?.bind (·.parent)

def children (a : Arena) (id : NodeId) : Array NodeId :=
  (a.cells[id]?.map (·.children)).getD #[]

def modify (a : Arena) (id : NodeId) (f : Cell → Cell) : Arena := ⟨a.cells.modify id f⟩

/-- Adds a node that has no parent yet; its identity is the old number of cells. -/
def add (a : Arena) (content : Content) : Arena := ⟨a.cells.push { content }⟩

/-- The identity that the next added node gets. -/
def next (a : Arena) : NodeId := a.cells.size

/-! ## Moving nodes -/

/-- Makes a parentless node the last child of another. -/
def attach (a : Arena) (parent child : NodeId) : Arena :=
  (a.modify child ({ · with parent := some parent })).modify parent
    fun cell => { cell with children := cell.children.push child }

/-- Takes a node out of its parent's children. -/
def detach (a : Arena) (id : NodeId) : Arena :=
  match a.parent? id with
  | none => a
  | some parent =>
    (a.modify parent fun cell => { cell with children := cell.children.filter (· != id) }).modify id
      ({ · with parent := none })

/-- The position of a node among its siblings, with their parent. -/
def position? (a : Arena) (id : NodeId) : Option (NodeId × Nat) := do
  let parent ← a.parent? id
  let index ← (a.children parent).idxOf? id
  return (parent, index)

/-- Puts a parentless node in front of a node that has a parent. -/
def attachBefore (a : Arena) (sibling child : NodeId) : Arena :=
  match a.position? sibling with
  | none => a
  | some (parent, index) =>
    (a.modify child ({ · with parent := some parent })).modify parent
      fun cell => { cell with children := cell.children.insertIdxIfInBounds index child }

/-- Moves all children of one node behind the children of another. -/
def moveChildren (a : Arena) (source target : NodeId) : Arena :=
  let moved := a.children source
  let a := moved.foldl (fun a id => a.modify id ({ · with parent := some target })) a
  (a.modify source ({ · with children := #[] })).modify target
    fun cell => { cell with children := cell.children ++ moved }

/-! ## Text -/

/-- Whether the node is a text. -/
def isText (a : Arena) (id : NodeId) : Bool :=
  (a.cells[id]?).any (·.content.isText)

/-- Adds a character at the end of a text node. -/
def pushChar (a : Arena) (id : NodeId) (c : Char) : Arena :=
  a.modify id fun cell => { cell with content := cell.content.pushChar c }

/-- Adds a character at the end of a node, to its last text if that comes last. -/
def appendChar (a : Arena) (parent : NodeId) (c : Char) : Arena :=
  match (a.children parent).back? with
  | some last =>
    if a.isText last then a.pushChar last c
    else (a.add (.text (String.singleton c))).attach parent a.next
  | none => (a.add (.text (String.singleton c))).attach parent a.next

/-- Adds a character in front of a node, to the text before it if there is one. -/
def insertCharBefore (a : Arena) (sibling : NodeId) (c : Char) : Arena :=
  let fresh := (a.add (.text (String.singleton c))).attachBefore sibling a.next
  match a.position? sibling with
  | some (parent, index + 1) =>
    match (a.children parent)[index]? with
    | some before => if a.isText before then a.pushChar before c else fresh
    | none => fresh
  | _ => fresh

/-! ## Attributes -/

/-- Adds those attributes whose names the element does not have yet. -/
def addMissingAttrs (a : Arena) (id : NodeId) (attrs : List Attribute) : Arena :=
  a.modify id fun cell => { cell with content := cell.content.addMissingAttrs attrs }

/-! ## Reading the tree off -/

/-- The node with its subtree, to the given depth. -/
def node? (a : Arena) : (depth : Nat) → NodeId → Option Node
  | 0, _ => none
  | depth + 1, id =>
    (a.cells[id]?).bind fun cell =>
      match cell.content with
      | .document => none
      | .doctype name => some (.doctype name)
      | .comment text => some (.comment text)
      | .text text => some (.text text)
      | .element tag => some (.element tag (cell.children.toList.filterMap (a.node? depth)))

/-- The document: what hangs below the root.  No branch is longer than the arena. -/
def document (a : Arena) : Document :=
  ⟨(a.children root).toList.filterMap (a.node? a.cells.size)⟩

end Arena

end StaticSite.Html
