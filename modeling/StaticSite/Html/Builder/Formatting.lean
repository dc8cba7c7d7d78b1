/-
  Formatting elements: reopening them, and closing them out of order.

  Text such as `<b>1<p>2</b>3</p>` closes a formatting element while a block is
  still open.  The builder then splits the element: the part inside the block gets
  a copy of it, and what follows stands outside.
-/

import StaticSite.Html.Builder.Basic

namespace StaticSite.Html

namespace Formatting

def isMarker : Formatting → Bool
  | .marker => true
  | .element .. => false

/-- Whether the entry is for the element with this identity. -/
def isFor (id : NodeId) : Formatting → Bool
  | .marker => false
  | .element elem _ => elem.id == id

/-- Whether the two tags are the same up to the order of attributes. -/
def sameTag (s t : Tag) : Bool := s.name == t.name && s.attrs.isPerm t.attrs

/-- Whether the entry was opened by the same tag up to the order of attributes. -/
def isLike (tag : Tag) : Formatting → Bool
  | .marker => false
  | .element _ other => sameTag tag other

end Formatting

namespace Builder

/-- The entries behind the last marker, the latest one first. -/
def formattingToMarker (b : Builder) : List Formatting :=
  b.formatting.takeWhile (!·.isMarker)

/-- Drops the entries up to and including the last marker. -/
def clearFormattingToMarker (b : Builder) : Builder :=
  { b with formatting := (b.formatting.dropWhile (!·.isMarker)).tail }

def pushMarker (b : Builder) : Builder := { b with formatting := .marker :: b.formatting }

def isListed (b : Builder) (id : NodeId) : Bool := b.formatting.any (·.isFor id)

def dropListed (b : Builder) (id : NodeId) : Builder :=
  { b with formatting := b.formatting.filter (!·.isFor id) }

def isOpen (b : Builder) (id : NodeId) : Bool := b.stack.any (·.id == id)

/-! ## Reopening -/

/-- Whether an entry needs no reopening. -/
def isSettled (b : Builder) : Formatting → Bool
  | .marker => true
  | .element elem _ => b.isOpen elem.id

/-- Opens the elements of some entries again, earliest first; gives their new entries, latest first. -/
def reopen (b : Builder) (kept : List Formatting) : List Formatting → Builder
  | [] => { b with formatting := kept }
  | .marker :: rest => b.reopen (.marker :: kept) rest
  | .element _ tag :: rest =>
    (b.insertHtml tag).reopen (.element (b.nextElement .html tag) tag :: kept) rest

/-- Opens the formatting elements again that were closed by the end of a block. -/
def reopenFormatting (b : Builder) : Builder :=
  match b.formatting.takeWhile (!b.isSettled ·) with
  | [] => b
  | lost => b.reopen (b.formatting.dropWhile (!b.isSettled ·)) lost.reverse

/-- The earliest of at least three entries that were opened by the same tag. -/
def surplusFormatting? (b : Builder) (tag : Tag) : Option OpenElement :=
  let alike := b.formattingToMarker.filter (·.isLike tag)
  if alike.length < 3 then none
  else match alike.getLast? with
    | some (.element elem _) => some elem
    | _ => none

/-- Opens a formatting element; of more than three alike the earliest is forgotten. -/
def openFormatting (b : Builder) (tag : Tag) : Builder :=
  let kept := match b.surplusFormatting? tag with
    | some elem => b.dropListed elem.id
    | none => b
  { kept.insertHtml tag with
    formatting := .element (kept.nextElement .html tag) tag :: kept.formatting }

/-! ## Closing generic elements -/

/-- The innermost open element of this name, unless a special element comes first. -/
def findOpen? (name : String) : List OpenElement → Option OpenElement
  | [] => none
  | e :: rest =>
    if e.isHtml name then some e else if e.isSpecial then none else findOpen? name rest

/-- Closes the innermost element of this name, unless a special element comes first. -/
def closeGeneric (b : Builder) (name : String) : Builder :=
  match findOpen? name b.stack with
  | none => b
  | some e => (b.closeImpliedExcept name).popThrough (·.id == e.id)

/-! ## Closing formatting elements -/

/-- Where the entry for the split element goes in the list of formatting elements. -/
inductive Bookmark where
  /-- In place of the entry of the element that is split. -/
  | inPlace
  /-- Right after the entry of this element. -/
  | after (id : NodeId)

/-- The state of a split while the elements around the block are copied. -/
structure Split where
  builder : Builder
  /-- The copies that stay open, innermost first. -/
  copies : List OpenElement := []
  /-- The outermost node moved so far. -/
  moved : NodeId
  bookmark : Bookmark := .inPlace

/-- Copies one element between the block and the formatting element; `count` is its distance. -/
def Split.copy (s : Split) (block : NodeId) (count : Nat) (e : OpenElement) : Split :=
  match s.builder.formatting.find? (·.isFor e.id) with
  | some (.element _ tag) =>
    if count > 3 then { s with builder := s.builder.dropListed e.id }
    else
      let b := s.builder
      let fresh := b.nextElement .html tag
      let swap : Formatting → Formatting := fun entry =>
        if entry.isFor e.id then .element fresh tag else entry
      let arena := ((b.arena.add (.element tag)).detach s.moved).attach fresh.id s.moved
      { builder := { b with arena, formatting := b.formatting.map swap }
        copies := s.copies ++ [fresh]
        moved := fresh.id
        bookmark := if s.moved == block then .after fresh.id else s.bookmark }
  | _ => s

/-- Copies the elements between the block and the formatting element, innermost first. -/
def Split.copyAll (s : Split) (block : NodeId) (count : Nat) : List OpenElement → Split
  | [] => s
  | e :: rest => (s.copy block count e).copyAll block (count + 1) rest

/-- Puts the entry of the new element where the bookmark says. -/
def replaceEntry (old : NodeId) (entry : Formatting) : Bookmark → List Formatting → List Formatting
  | .inPlace, entries => entries.map fun e => if e.isFor old then entry else e
  | .after id, entries =>
    (entries.flatMap fun e => if e.isFor id then [entry, e] else [e]).filter (!·.isFor old)

/-- Splits a formatting element at the block inside it: `inner` are the elements inside the block,
`between` those around it up to the formatting element, `outer` those outside. -/
def splitAt (b : Builder) (elem : OpenElement) (tag : Tag)
    (inner : List OpenElement) (block : OpenElement) (between outer : List OpenElement) : Builder :=
  let s := Split.copyAll { builder := b, moved := block.id } block.id 1 between
  let b := { s.builder with stack := inner ++ block :: s.copies ++ elem :: outer }
  let target := (outer.head?.map b.spotFor).getD (.inside Arena.root)
  let arena := placeNode (b.arena.detach s.moved) target s.moved
  let b := { b with arena }
  let fresh := b.nextElement .html tag
  let arena := ((b.arena.add (.element tag)).moveChildren block.id fresh.id).attach block.id fresh.id
  { b with
    arena
    formatting := replaceEntry elem.id (.element fresh tag) s.bookmark b.formatting
    stack := inner ++ fresh :: block :: s.copies ++ outer }

/-- Closes a formatting element that need not be the current one, splitting it as often as needed. -/
def closeFormattingWithin (b : Builder) (name : String) : (rounds : Nat) → Builder
  | 0 => b
  | rounds + 1 =>
    let listed := b.formattingToMarker.findSome? fun
      | .element elem tag => if tag.name == name then some (elem, tag) else none
      | .marker => none
    match listed with
    | none => b.closeGeneric name
    | some (elem, tag) =>
      if !b.isOpen elem.id then b.dropListed elem.id
      else if !inScope (·.boundsScope scopeNames) (·.id == elem.id) b.stack then b
      else
        let inside := b.stack.takeWhile (·.id != elem.id)
        let outer := (b.stack.dropWhile (·.id != elem.id)).tail
        let between := (inside.reverse.takeWhile (!·.isSpecial)).reverse
        match (inside.reverse.dropWhile (!·.isSpecial)) with
        | [] => { b.dropListed elem.id with stack := outer }
        | block :: inner =>
          (b.splitAt elem tag inner.reverse block between outer).closeFormattingWithin name rounds

/-- Handles the end tag of a formatting element. -/
def closeFormatting (b : Builder) (name : String) : Builder :=
  if b.currentIs name && !(b.current?.any (b.isListed ·.id)) then b.pop
  else b.closeFormattingWithin name 8

/-- Closes an `a` element that is still open when the next one starts. -/
def closeOpenAnchor (b : Builder) : Builder :=
  let listed := b.formattingToMarker.findSome? fun
    | .element elem _ => if elem.isHtml "a" then some elem.id else none
    | .marker => none
  match listed with
  | none => b
  | some id => ((b.closeFormatting "a").dropListed id).removeOpen id

end Builder

end StaticSite.Html
