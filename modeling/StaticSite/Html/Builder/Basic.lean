/-
  The tree builder: its state, the stack of open elements, and insertion.

  The builder turns tokens into a tree.  Its stack holds the open elements, the
  current one first, each with the name and namespace that the rules ask for, so
  that scopes and searches are functions of the stack alone.
-/

import StaticSite.Html.Element
import StaticSite.Html.Token
import StaticSite.Html.Arena

namespace StaticSite.Html

/-- What the builder expects next. -/
inductive Mode where
  | initial
  | beforeHtml
  | beforeHead
  | inHead
  | afterHead
  | inBody
  | text
  | inTable
  | inTableText
  | inCaption
  | inColumnGroup
  | inTableBody
  | inRow
  | inCell
  | inSelect
  | inSelectInTable
  | inTemplate
  | afterBody
  | inFrameset
  | afterFrameset
  | afterAfterBody
  | afterAfterFrameset
  deriving DecidableEq, Repr

/-- How the content of an element is read when it is not markup. -/
inductive RawText where
  /-- Character references are read, tags are not. -/
  | escapable
  /-- Neither is read. -/
  | verbatim
  | script
  /-- Everything up to the end of the input is text. -/
  | plain
  deriving DecidableEq, Repr

/-- An element on the stack. -/
structure OpenElement where
  id : NodeId
  space : Namespace
  name : String
  /-- A MathML annotation whose content is declared to be HTML. -/
  holdsHtml : Bool := false
  deriving DecidableEq, Repr

/-- An entry of the list of formatting elements. -/
inductive Formatting where
  /-- Entries behind a marker belong to a cell, a caption, a template or an object. -/
  | marker
  | element (elem : OpenElement) (tag : Tag)
  deriving DecidableEq, Repr

structure Builder where
  arena : Arena := .empty
  mode : Mode := .initial
  /-- The mode to go back to after raw text or table text. -/
  returnMode : Mode := .initial
  templateModes : List Mode := []
  /-- The open elements, the current one first. -/
  stack : List OpenElement := []
  /-- The formatting elements, the latest one first. -/
  formatting : List Formatting := []
  head? : Option OpenElement := none
  form? : Option NodeId := none
  framesetOk : Bool := true
  tableClosesParagraph : Bool := true
  /-- Whether misplaced content goes in front of the table it stands in. -/
  fostering : Bool := false
  /-- Whether a line feed that comes next is dropped. -/
  skipNewline : Bool := false
  /-- Text read directly inside a table, latest character first. -/
  tableText : List Char := []
  /-- Set when the element just opened has raw text. -/
  rawText? : Option RawText := none
  deriving Repr

/-! ## Open elements -/

namespace OpenElement

def isHtml (e : OpenElement) (name : String) : Bool := e.space == .html && e.name == name

def isHtmlIn (e : OpenElement) (names : List String) : Bool :=
  e.space == .html && names.contains e.name

def isMathText (e : OpenElement) : Bool := e.space == .mathml && mathTextNames.contains e.name

def isSvgHtml (e : OpenElement) : Bool := e.space == .svg && svgHtmlNames.contains e.name

/-- Whether text inside the element follows the rules for HTML. -/
def takesHtml (e : OpenElement) : Bool := e.space == .html || e.isMathText || e.isSvgHtml

def isSpecial (e : OpenElement) : Bool := e.isHtmlIn specialNames

/-- Whether the element bounds a scope given by names of HTML elements. -/
def boundsScope (names : List String) (e : OpenElement) : Bool :=
  e.isHtmlIn names || e.isMathText || e.isSvgHtml

/-- Whether the element bounds a select scope: all but options do. -/
def boundsSelect (e : OpenElement) : Bool := !e.isHtmlIn ["optgroup", "option"]

end OpenElement

/-- Whether a wanted element is found on the stack before one that bounds the search. -/
def inScope (bounds wanted : OpenElement → Bool) : List OpenElement → Bool
  | [] => false
  | e :: rest => wanted e || (!bounds e && inScope bounds wanted rest)

namespace Builder

/-! ## Questions about the stack -/

def current? (b : Builder) : Option OpenElement := b.stack.head?

def currentIs (b : Builder) (name : String) : Bool := b.current?.any (·.isHtml name)

def currentIn (b : Builder) (names : List String) : Bool := b.current?.any (·.isHtmlIn names)

/-- Whether an HTML element of this name is open anywhere. -/
def hasOpen (b : Builder) (name : String) : Bool := b.stack.any (·.isHtml name)

def inDefaultScope (b : Builder) (name : String) : Bool :=
  inScope (·.boundsScope scopeNames) (·.isHtml name) b.stack

def inListItemScope (b : Builder) (name : String) : Bool :=
  inScope (·.boundsScope listItemScopeNames) (·.isHtml name) b.stack

def inButtonScope (b : Builder) (name : String) : Bool :=
  inScope (·.boundsScope buttonScopeNames) (·.isHtml name) b.stack

/-- Whether one of the names is found before the bounds of the table. -/
def inTableScope (b : Builder) (names : List String) : Bool :=
  inScope (·.isHtmlIn tableScopeNames) (·.isHtmlIn names) b.stack

def inSelectScope (b : Builder) (name : String) : Bool :=
  inScope (·.boundsSelect) (·.isHtml name) b.stack

/-- The body element, which stands directly on the root element. -/
def body? (b : Builder) : Option OpenElement :=
  (b.stack.reverse[1]?).filter (·.isHtml "body")

/-- The root element. -/
def html? (b : Builder) : Option OpenElement := b.stack.getLast?

/-! ## Popping -/

def pop (b : Builder) : Builder := { b with stack := b.stack.tail }

/-- Pops up to and including the first element that satisfies the condition. -/
def popThrough (b : Builder) (p : OpenElement → Bool) : Builder :=
  { b with stack := (b.stack.dropWhile (!p ·)).tail }

/-- Pops up to and including the first HTML element of this name. -/
def close (b : Builder) (name : String) : Builder := b.popThrough (·.isHtml name)

/-- Pops until the current element has one of these names. -/
def popTo (b : Builder) (names : List String) : Builder :=
  { b with stack := b.stack.dropWhile (!·.isHtmlIn names) }

/-- Pops elements of these names as long as they are current. -/
def closeImplied (b : Builder) (names : List String) : Builder :=
  { b with stack := b.stack.dropWhile (·.isHtmlIn names) }

/-- Pops implied elements other than those of the given name. -/
def closeImpliedExcept (b : Builder) (name : String) : Builder :=
  b.closeImplied (impliedEndNames.filter (· != name))

/-- Takes one element out of the stack. -/
def removeOpen (b : Builder) (id : NodeId) : Builder :=
  { b with stack := b.stack.filter (·.id != id) }

/-- Closes an open paragraph. -/
def closeParagraph (b : Builder) : Builder := (b.closeImpliedExcept "p").close "p"

/-- Closes a paragraph that is open in button scope. -/
def closeParagraphInScope (b : Builder) : Builder :=
  if b.inButtonScope "p" then b.closeParagraph else b

/-! ## Insertion -/

/-- Where a node goes. -/
inductive Spot where
  | inside (parent : NodeId)
  /-- In front of a table, or inside the element below it on the stack if the table is detached. -/
  | beforeTable (table above : NodeId)
  deriving Repr

/-- Where misplaced content goes: out of the innermost table or into the innermost template. -/
def fosterSpot : List OpenElement → Spot
  | [] => .inside Arena.root
  | [e] => .inside e.id
  | e :: above :: rest =>
    if e.isHtml "template" then .inside e.id
    else if e.isHtml "table" then .beforeTable e.id above.id
    else fosterSpot (above :: rest)

/-- Where a node meant for the given element goes. -/
def spotFor (b : Builder) (target : OpenElement) : Spot :=
  if b.fostering && target.isHtmlIn fosterNames then fosterSpot b.stack else .inside target.id

/-- Where a node meant for the current element goes. -/
def spot (b : Builder) : Spot := (b.current?.map b.spotFor).getD (.inside Arena.root)

/-- Puts a parentless node at a spot. -/
def placeNode (a : Arena) (spot : Spot) (id : NodeId) : Arena :=
  match spot with
  | .inside parent => a.attach parent id
  | .beforeTable table above =>
    if (a.parent? table).isSome then a.attachBefore table id else a.attach above id

/-- Puts a character at a spot. -/
def placeChar (a : Arena) (spot : Spot) (c : Char) : Arena :=
  match spot with
  | .inside parent => a.appendChar parent c
  | .beforeTable table above =>
    if (a.parent? table).isSome then a.insertCharBefore table c else a.appendChar above c

/-- Writes a character at the current place. -/
def appendChar (b : Builder) (c : Char) : Builder :=
  { b with arena := placeChar b.arena b.spot c }

/-- Adds a comment as the last child of a node. -/
def commentIn (b : Builder) (parent : NodeId) (s : String) : Builder :=
  { b with arena := (b.arena.add (.comment s)).attach parent b.arena.next }

/-- Writes a comment at the current place. -/
def appendComment (b : Builder) (s : String) : Builder :=
  { b with arena := placeNode (b.arena.add (.comment s)) b.spot b.arena.next }

/-- Whether an annotation declares its content to be HTML. -/
def declaresHtml (space : Namespace) (tag : Tag) : Bool :=
  space == .mathml && tag.name == "annotation-xml" &&
    tag.attrs.any fun attr => attr.name == "encoding" &&
      ["text/html", "application/xhtml+xml"].contains attr.value.toLower

/-- The element that is created next for this tag. -/
def nextElement (b : Builder) (space : Namespace) (tag : Tag) : OpenElement :=
  { id := b.arena.next, space, name := tag.name, holdsHtml := declaresHtml space tag }

/-- Opens an element at the current place. -/
def insert (b : Builder) (space : Namespace) (tag : Tag) : Builder :=
  { b with
    arena := placeNode (b.arena.add (.element tag)) b.spot b.arena.next
    stack := b.nextElement space tag :: b.stack }

def insertHtml (b : Builder) (tag : Tag) : Builder := b.insert .html tag

/-- Adds an element that is closed at once. -/
def insertVoid (b : Builder) (tag : Tag) : Builder := (b.insertHtml tag).pop

/-- Opens an element that the text leaves out. -/
def insertMissing (b : Builder) (name : String) : Builder := b.insertHtml { name }

/-- Opens an element whose content is raw text. -/
def insertRaw (b : Builder) (tag : Tag) (kind : RawText) : Builder :=
  { b.insertHtml tag with returnMode := b.mode, mode := .text, rawText? := some kind }

/-- The root element, opened in the empty document. -/
def insertRoot (b : Builder) (attrs : List Attribute) : Builder :=
  b.insertHtml { name := "html", attrs }

/-! ## Modes -/

/-- The mode that fits the open elements; `rest` is the stack from some element down. -/
def modeFor (b : Builder) : (rest : List OpenElement) → Mode
  | [] => .inBody
  | e :: rest =>
    if e.space != .html then b.modeFor rest
    else if e.name == "select" then
      match rest.find? (·.isHtmlIn ["template", "table"]) with
      | some holder => if holder.name == "table" then .inSelectInTable else .inSelect
      | none => .inSelect
    else if cellNames.contains e.name && !rest.isEmpty then .inCell
    else if e.name == "tr" then .inRow
    else if rowGroupNames.contains e.name then .inTableBody
    else if e.name == "caption" then .inCaption
    else if e.name == "colgroup" then .inColumnGroup
    else if e.name == "table" then .inTable
    else if e.name == "template" then b.templateModes.headD .inBody
    else if e.name == "head" && !rest.isEmpty then .inHead
    else if e.name == "body" then .inBody
    else if e.name == "frameset" then .inFrameset
    else if e.name == "html" then if b.head?.isSome then .afterHead else .beforeHead
    else b.modeFor rest

/-- Chooses the mode anew from the open elements. -/
def resetMode (b : Builder) : Builder := { b with mode := b.modeFor b.stack }

end Builder

end StaticSite.Html
