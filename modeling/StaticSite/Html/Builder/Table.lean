/-
  Tree construction inside tables, and inside `select` elements.

  Content that may not stand directly in a table is moved in front of it; text read
  there is held back until it is known whether it is blank.
-/

import StaticSite.Html.Builder.Body

namespace StaticSite.Html

namespace Builder

/-- Handles a token as in the body, with misplaced content moved in front of the table. -/
def foster (b : Builder) (t : Token) : Step :=
  match { b with fostering := true }.inBody t with
  | .done b => .done { b with fostering := false }
  | .again b => .again { b with fostering := false }

/-! ## Text in tables -/

/-- Text in a table is held back if the current element belongs to the table. -/
def tableChar (b : Builder) (c : Char) : Step :=
  if b.currentIn fosterNames then
    .again { b with returnMode := b.mode, mode := .inTableText, tableText := [] }
  else b.foster (.char c)

/-- The builder a finished rule leaves, or that it would look at a token again with. -/
def Step.builder : Step → Builder
  | .done b => b
  | .again b => b

/-- Writes the text that was held back: blank text in the table, other text in front of it. -/
def flushTableText (b : Builder) : Builder :=
  let text := b.tableText.reverse
  let b := { b with tableText := [] }
  if text.all isBlank then text.foldl appendChar b
  else text.foldl (fun b c => Step.builder (b.foster (.char c))) b

def inTableText (b : Builder) : Token → Step
  | .char c => if c == '\x00' then b.ignore else .done { b with tableText := c :: b.tableText }
  | _ => b.flushTableText.againIn b.returnMode

/-! ## Tables -/

/-- A table part is opened in the innermost element that can hold it. -/
def openPart (b : Builder) (holders : List String) (tag : Tag) (mode : Mode) : Builder :=
  { (b.popTo holders).insertHtml tag with mode }

/-- A left-out table part is opened first, then the tag is looked at again. -/
def supplyPart (b : Builder) (holders : List String) (name : String) (mode : Mode) : Step :=
  .again (b.openPart holders { name } mode)

def tableStart (b : Builder) (tag : StartTag) : Step :=
  let name := tag.name
  if name == "caption" then
    .done { (b.popTo tableScopeNames).pushMarker.insertHtml tag.toTag with mode := .inCaption }
  else if name == "colgroup" then .done (b.openPart tableScopeNames tag.toTag .inColumnGroup)
  else if name == "col" then b.supplyPart tableScopeNames "colgroup" .inColumnGroup
  else if rowGroupNames.contains name then
    .done (b.openPart tableScopeNames tag.toTag .inTableBody)
  else if ["td", "th", "tr"].contains name then b.supplyPart tableScopeNames "tbody" .inTableBody
  else if name == "table" then
    if b.inTableScope ["table"] then .again (b.close "table").resetMode else b.ignore
  else if ["style", "script", "template"].contains name then b.headContent tag
  else if name == "input" && isHidden tag.toTag then .done (b.insertVoid tag.toTag)
  else if name == "form" then
    if b.hasOpen "template" || b.form?.isSome then b.ignore
    else .done { b.insertVoid tag.toTag with form? := some b.arena.next }
  else b.foster (.startTag tag)

def tableEnd (b : Builder) (name : String) : Step :=
  if name == "table" then
    if b.inTableScope ["table"] then .done (b.close "table").resetMode else b.ignore
  else if ["body", "caption", "col", "colgroup", "html", "tbody", "td", "tfoot", "th", "thead",
      "tr"].contains name then b.ignore
  else if name == "template" then b.closeTemplate
  else b.foster (.endTag name)

def inTable (b : Builder) : Token → Step
  | .char c => b.tableChar c
  | .comment s => .done (b.appendComment s)
  | .startTag tag => b.tableStart tag
  | .endTag name => b.tableEnd name
  | .doctype _ => b.ignore
  | .eof => b.inBody .eof

/-! ## Captions and columns -/

/-- Closes the caption, if one is open. -/
def leaveCaption? (b : Builder) : Option Builder :=
  if b.inTableScope ["caption"] then
    let b := ((b.closeImplied impliedEndNames).close "caption").clearFormattingToMarker
    some { b with mode := .inTable }
  else none

def inCaption (b : Builder) (t : Token) : Step :=
  match t with
  | .startTag tag =>
    if ["caption", "col", "colgroup", "tbody", "td", "tfoot", "th", "thead", "tr"].contains tag.name
    then (b.leaveCaption?.map Step.again).getD b.ignore
    else b.inBody t
  | .endTag name =>
    if name == "caption" then (b.leaveCaption?.map Step.done).getD b.ignore
    else if name == "table" then (b.leaveCaption?.map Step.again).getD b.ignore
    else if ["body", "col", "colgroup", "html", "tbody", "td", "tfoot", "th", "thead",
        "tr"].contains name then b.ignore
    else b.inBody t
  | _ => b.inBody t

/-- Anything else ends the column group, if one is current. -/
def leaveColumnGroup (b : Builder) : Step :=
  if b.currentIs "colgroup" then b.pop.againIn .inTable else b.ignore

def inColumnGroup (b : Builder) : Token → Step
  | .char c => if isBlank c then .done (b.appendChar c) else b.leaveColumnGroup
  | .comment s => .done (b.appendComment s)
  | .startTag tag =>
    if tag.name == "html" then b.repeatHtml tag.toTag
    else if tag.name == "col" then .done (b.insertVoid tag.toTag)
    else if tag.name == "template" then b.openTemplate tag.toTag
    else b.leaveColumnGroup
  | .endTag name =>
    if name == "colgroup" then
      if b.currentIs "colgroup" then .done { b.pop with mode := .inTable } else b.ignore
    else if name == "col" then b.ignore
    else if name == "template" then b.closeTemplate
    else b.leaveColumnGroup
  | .doctype _ => b.ignore
  | .eof => b.inBody .eof

/-! ## Rows and cells -/

/-- Elements that hold rows. -/
def rowHolderNames : List String := rowGroupNames ++ ["template", "html"]

/-- Elements that hold cells. -/
def cellHolderNames : List String := ["tr", "template", "html"]

/-- Pops the row group or row that is found first among its possible holders. -/
def leavePart (b : Builder) (holders : List String) (mode : Mode) : Builder :=
  { (b.popTo holders).pop with mode }

def inTableBody (b : Builder) (t : Token) : Step :=
  let leave := if b.inTableScope ["table", "tbody", "tfoot"]
    then Step.again (b.leavePart rowHolderNames .inTable) else b.ignore
  match t with
  | .startTag tag =>
    if tag.name == "tr" then .done (b.openPart rowHolderNames tag.toTag .inRow)
    else if cellNames.contains tag.name then b.supplyPart rowHolderNames "tr" .inRow
    else if ["caption", "col", "colgroup", "tbody", "tfoot", "thead"].contains tag.name then leave
    else b.inTable t
  | .endTag name =>
    if rowGroupNames.contains name then
      if b.inTableScope [name] then .done (b.leavePart rowHolderNames .inTable) else b.ignore
    else if name == "table" then leave
    else if ["body", "caption", "col", "colgroup", "html", "td", "th", "tr"].contains name
    then b.ignore
    else b.inTable t
  | _ => b.inTable t

def inRow (b : Builder) (t : Token) : Step :=
  let leave := if b.inTableScope ["tr"]
    then Step.again (b.leavePart cellHolderNames .inTableBody) else b.ignore
  match t with
  | .startTag tag =>
    if cellNames.contains tag.name then
      .done (b.openPart cellHolderNames tag.toTag .inCell).pushMarker
    else if ["caption", "col", "colgroup", "tbody", "tfoot", "thead", "tr"].contains tag.name
    then leave
    else b.inTable t
  | .endTag name =>
    if name == "tr" then
      if b.inTableScope ["tr"] then .done (b.leavePart cellHolderNames .inTableBody) else b.ignore
    else if name == "table" then leave
    else if rowGroupNames.contains name then if b.inTableScope [name] then leave else b.ignore
    else if ["body", "caption", "col", "colgroup", "html", "td", "th"].contains name then b.ignore
    else b.inTable t
  | _ => b.inTable t

/-- Closes the cell that is open. -/
def leaveCell (b : Builder) : Builder :=
  let b := (b.closeImplied impliedEndNames).popThrough (·.isHtmlIn cellNames)
  { b.clearFormattingToMarker with mode := .inRow }

def inCell (b : Builder) (t : Token) : Step :=
  match t with
  | .startTag tag =>
    if ["caption", "col", "colgroup", "tbody", "td", "tfoot", "th", "thead", "tr"].contains tag.name
    then if b.inTableScope cellNames then .again b.leaveCell else b.ignore
    else b.inBody t
  | .endTag name =>
    if cellNames.contains name then
      if b.inTableScope [name] then
        let b := ((b.closeImplied impliedEndNames).close name).clearFormattingToMarker
        .done { b with mode := .inRow }
      else b.ignore
    else if ["body", "caption", "col", "colgroup", "html"].contains name then b.ignore
    else if ["table", "tbody", "tfoot", "thead", "tr"].contains name then
      if b.inTableScope [name] then .again b.leaveCell else b.ignore
    else b.inBody t
  | _ => b.inBody t

/-! ## Select -/

/-- Drops an option, then an option group, that is current. -/
def closeOptions (b : Builder) : Builder :=
  let b := if b.currentIs "option" then b.pop else b
  if b.currentIs "optgroup" then b.pop else b

def selectStart (b : Builder) (tag : StartTag) : Step :=
  let name := tag.name
  if name == "html" then b.repeatHtml tag.toTag
  else if name == "option" then
    .done ((if b.currentIs "option" then b.pop else b).insertHtml tag.toTag)
  else if name == "optgroup" then .done (b.closeOptions.insertHtml tag.toTag)
  else if name == "hr" then .done (b.closeOptions.insertVoid tag.toTag)
  else if name == "select" then
    if b.inSelectScope "select" then .done (b.close "select").resetMode else b.ignore
  else if ["input", "keygen", "textarea"].contains name then
    if b.inSelectScope "select" then .again (b.close "select").resetMode else b.ignore
  else if name == "script" || name == "template" then b.headContent tag
  else b.ignore

def selectEnd (b : Builder) (name : String) : Step :=
  if name == "optgroup" then
    let b := if b.currentIs "option" && (b.stack[1]?).any (·.isHtml "optgroup") then b.pop else b
    .done (if b.currentIs "optgroup" then b.pop else b)
  else if name == "option" then .done (if b.currentIs "option" then b.pop else b)
  else if name == "select" then
    if b.inSelectScope "select" then .done (b.close "select").resetMode else b.ignore
  else if name == "template" then b.closeTemplate
  else b.ignore

def inSelect (b : Builder) : Token → Step
  | .char c => if c == '\x00' then b.ignore else .done (b.appendChar c)
  | .comment s => .done (b.appendComment s)
  | .startTag tag => b.selectStart tag
  | .endTag name => b.selectEnd name
  | .doctype _ => b.ignore
  | .eof => b.inBody .eof

/-- Table parts that end a `select` inside a table. -/
def selectEnderNames : List String :=
  ["caption", "table", "tbody", "tfoot", "thead", "tr", "td", "th"]

def inSelectInTable (b : Builder) (t : Token) : Step :=
  match t with
  | .startTag tag =>
    if selectEnderNames.contains tag.name then .again (b.close "select").resetMode
    else b.inSelect t
  | .endTag name =>
    if selectEnderNames.contains name then
      if b.inTableScope [name] then .again (b.close "select").resetMode else b.ignore
    else b.inSelect t
  | _ => b.inSelect t

end Builder

end StaticSite.Html
