/-
  Tree construction around the body, in foreign content, and the whole builder.

  `Builder.accept` takes one token: it finds the rules of the current mode, or those
  of foreign content, and repeats while a rule asks to look at the token again.
-/

import StaticSite.Html.Builder.Table

namespace StaticSite.Html

namespace Builder

/-! ## Before the body -/

def inInitial (b : Builder) : Token → Step
  | .char c =>
    if isBlank c then b.ignore else { b with tableClosesParagraph := false }.againIn .beforeHtml
  | .comment s => .done (b.commentIn Arena.root s)
  | .doctype d =>
    let arena := (b.arena.add (.doctype (d.name.getD ""))).attach Arena.root b.arena.next
    .done { b with
      arena, mode := .beforeHtml, tableClosesParagraph := d.tableClosesParagraph }
  | _ => { b with tableClosesParagraph := false }.againIn .beforeHtml

/-- Opens the root element that the text leaves out. -/
def supplyRoot (b : Builder) : Step := (b.insertRoot []).againIn .beforeHead

def beforeHtml (b : Builder) : Token → Step
  | .char c => if isBlank c then b.ignore else b.supplyRoot
  | .comment s => .done (b.commentIn Arena.root s)
  | .startTag tag =>
    if tag.name == "html" then .done { b.insertRoot tag.attrs with mode := .beforeHead }
    else b.supplyRoot
  | .endTag name => if ["head", "body", "html", "br"].contains name then b.supplyRoot else b.ignore
  | .doctype _ => b.ignore
  | .eof => b.supplyRoot

/-- Opens the document head. -/
def openHead (b : Builder) (tag : Tag) : Builder :=
  { b.insertHtml tag with head? := some (b.nextElement .html tag), mode := .inHead }

/-- Opens the document head that the text leaves out. -/
def supplyHead (b : Builder) : Step := .again (b.openHead { name := "head" })

def beforeHead (b : Builder) : Token → Step
  | .char c => if isBlank c then b.ignore else b.supplyHead
  | .comment s => .done (b.appendComment s)
  | .startTag tag =>
    if tag.name == "html" then b.repeatHtml tag.toTag
    else if tag.name == "head" then .done (b.openHead tag.toTag)
    else b.supplyHead
  | .endTag name => if ["head", "body", "html", "br"].contains name then b.supplyHead else b.ignore
  | .doctype _ => b.ignore
  | .eof => b.supplyHead

/-- Opens the body that the text leaves out. -/
def supplyBody (b : Builder) : Step := (b.insertMissing "body").againIn .inBody

/-- Head content behind the head goes into the head all the same. -/
def lateHeadContent (b : Builder) (tag : StartTag) : Step :=
  match b.head? with
  | none => b.ignore
  | some head =>
    match { b with stack := head :: b.stack }.headContent tag with
    | .done b => .done (b.removeOpen head.id)
    | .again b => .again (b.removeOpen head.id)

def afterHead (b : Builder) : Token → Step
  | .char c => if isBlank c then .done (b.appendChar c) else b.supplyBody
  | .comment s => .done (b.appendComment s)
  | .startTag tag =>
    if tag.name == "html" then b.repeatHtml tag.toTag
    else if tag.name == "body" then
      .done { (b.insertHtml tag.toTag).forbidFrameset with mode := .inBody }
    else if tag.name == "frameset" then .done { b.insertHtml tag.toTag with mode := .inFrameset }
    else if headContentNames.contains tag.name then b.lateHeadContent tag
    else if tag.name == "head" then b.ignore
    else b.supplyBody
  | .endTag name =>
    if name == "template" then b.closeTemplate
    else if ["body", "html", "br"].contains name then b.supplyBody
    else b.ignore
  | .doctype _ => b.ignore
  | .eof => b.supplyBody

/-! ## Raw text -/

def inText (b : Builder) : Token → Step
  | .char c => .done (b.appendChar c)
  | .endTag _ => .done { b.pop with mode := b.returnMode }
  | .eof => b.pop.againIn b.returnMode
  | _ => b.ignore

/-! ## Templates -/

/-- Continues a template in another mode. -/
def retarget (b : Builder) (mode : Mode) : Step :=
  .again { b with mode, templateModes := mode :: b.templateModes.tail }

def inTemplate (b : Builder) (t : Token) : Step :=
  match t with
  | .char c => if c == '\x00' then b.ignore else b.inBody t
  | .comment _ => b.inBody t
  | .startTag tag =>
    if headContentNames.contains tag.name then b.headContent tag
    else if ["caption", "colgroup", "tbody", "tfoot", "thead"].contains tag.name
    then b.retarget .inTable
    else if tag.name == "col" then b.retarget .inColumnGroup
    else if tag.name == "tr" then b.retarget .inTableBody
    else if cellNames.contains tag.name then b.retarget .inRow
    else b.retarget .inBody
  | .endTag name => if name == "template" then b.closeTemplate else b.ignore
  | .doctype _ => b.ignore
  | .eof => b.templateEof

/-! ## Behind the body -/

def afterBody (b : Builder) (t : Token) : Step :=
  match t with
  | .char c => if isBlank c then b.inBody t else b.againIn .inBody
  | .comment s => .done ((b.html?.map fun root => b.commentIn root.id s).getD b)
  | .startTag tag => if tag.name == "html" then b.repeatHtml tag.toTag else b.againIn .inBody
  | .endTag name =>
    if name == "html" then .done { b with mode := .afterAfterBody } else b.againIn .inBody
  | .doctype _ => b.ignore
  | .eof => b.ignore

def afterAfterBody (b : Builder) (t : Token) : Step :=
  match t with
  | .char c => if isBlank c then b.inBody t else b.againIn .inBody
  | .comment s => .done (b.commentIn Arena.root s)
  | .startTag tag => if tag.name == "html" then b.repeatHtml tag.toTag else b.againIn .inBody
  | .endTag _ => b.againIn .inBody
  | .doctype _ => b.ignore
  | .eof => b.ignore

/-! ## Framesets -/

def inFrameset (b : Builder) : Token → Step
  | .char c => if isBlank c then .done (b.appendChar c) else b.ignore
  | .comment s => .done (b.appendComment s)
  | .startTag tag =>
    if tag.name == "html" then b.repeatHtml tag.toTag
    else if tag.name == "frameset" then .done (b.insertHtml tag.toTag)
    else if tag.name == "frame" then .done (b.insertVoid tag.toTag)
    else if tag.name == "noframes" then b.headContent tag
    else b.ignore
  | .endTag name =>
    if name == "frameset" && b.stack.length != 1 then
      .done (if b.pop.currentIs "frameset" then b.pop else { b.pop with mode := .afterFrameset })
    else b.ignore
  | .doctype _ => b.ignore
  | .eof => b.ignore

def afterFrameset (b : Builder) : Token → Step
  | .char c => if isBlank c then .done (b.appendChar c) else b.ignore
  | .comment s => .done (b.appendComment s)
  | .startTag tag =>
    if tag.name == "html" then b.repeatHtml tag.toTag
    else if tag.name == "noframes" then b.headContent tag
    else b.ignore
  | .endTag name =>
    if name == "html" then .done { b with mode := .afterAfterFrameset } else b.ignore
  | .doctype _ => b.ignore
  | .eof => b.ignore

def afterAfterFrameset (b : Builder) (t : Token) : Step :=
  match t with
  | .char c => if isBlank c then b.inBody t else b.ignore
  | .comment s => .done (b.commentIn Arena.root s)
  | .startTag tag =>
    if tag.name == "html" then b.repeatHtml tag.toTag
    else if tag.name == "noframes" then b.headContent tag
    else b.ignore
  | .endTag _ => b.ignore
  | .doctype _ => b.ignore
  | .eof => b.ignore

/-! ## All modes -/

/-- The rules of a mode. -/
def rules (b : Builder) : Mode → Token → Step
  | .initial => b.inInitial
  | .beforeHtml => b.beforeHtml
  | .beforeHead => b.beforeHead
  | .inHead => b.inHead
  | .afterHead => b.afterHead
  | .inBody => b.inBody
  | .text => b.inText
  | .inTable => b.inTable
  | .inTableText => b.inTableText
  | .inCaption => b.inCaption
  | .inColumnGroup => b.inColumnGroup
  | .inTableBody => b.inTableBody
  | .inRow => b.inRow
  | .inCell => b.inCell
  | .inSelect => b.inSelect
  | .inSelectInTable => b.inSelectInTable
  | .inTemplate => b.inTemplate
  | .afterBody => b.afterBody
  | .inFrameset => b.inFrameset
  | .afterFrameset => b.afterFrameset
  | .afterAfterBody => b.afterAfterBody
  | .afterAfterFrameset => b.afterAfterFrameset

/-! ## Foreign content -/

/-- Whether a token is handled by the rules for foreign content. -/
def isForeign (b : Builder) (t : Token) : Bool :=
  match b.current? with
  | none => false
  | some e =>
    match t with
    | .eof => false
    | .doctype _ => false
    | .comment _ => e.space != .html
    | .endTag _ => e.space != .html
    | .char _ => !(e.takesHtml || e.holdsHtml)
    | .startTag tag =>
      !(e.space == .html || e.isSvgHtml || e.holdsHtml
        || (e.isMathText && !(["mglyph", "malignmark"].contains tag.name))
        || (e.space == .mathml && e.name == "annotation-xml" && tag.name == "svg"))

/-- Leaves foreign content and handles the tag by the rules of the mode. -/
def breakOut (b : Builder) (t : Token) : Step :=
  let b := { b with stack := b.stack.dropWhile (!·.takesHtml) }
  b.rules b.mode t

/-- A start tag inside foreign content, in the vocabulary of the current element. -/
def foreignStart (b : Builder) (tag : StartTag) : Step :=
  match b.current? with
  | none => b.ignore
  | some e =>
    let name := if e.space == .svg then respell svgTagNames tag.name else tag.name
    .done (b.insertForeign e.space { tag with name })

/-- Looks for the element that an end tag in foreign content closes; `none` if the tag is to be
handled by the rules of the mode.  Below the innermost element an HTML element ends the search. -/
def foreignClose (stack : List OpenElement) (name : String) :
    (innermost : Bool) → List OpenElement → Option (List OpenElement)
  | _, [] => some stack
  | _, [_] => some stack
  | innermost, e :: rest =>
    if !innermost && e.space == .html then none
    else if e.name.toLower == name then some rest
    else foreignClose stack name false rest

/-- Whether a `font` tag has an attribute that makes it HTML. -/
def isStyledFont (tag : Tag) : Bool :=
  tag.name == "font" && tag.attrs.any (["color", "face", "size"].contains ·.name)

def inForeign (b : Builder) (t : Token) : Step :=
  match t with
  | .char c =>
    if c == '\x00' then .done (b.appendChar '\ufffd')
    else .done ((if isBlank c then b else b.forbidFrameset).appendChar c)
  | .comment s => .done (b.appendComment s)
  | .startTag tag =>
    if breakoutNames.contains tag.name || isStyledFont tag.toTag then b.breakOut t
    else b.foreignStart tag
  | .endTag name =>
    if name == "br" || name == "p" then b.breakOut t
    else
      match foreignClose b.stack name true b.stack with
      | some stack => .done { b with stack }
      | none => b.rules b.mode t
  | .doctype _ => b.ignore
  | .eof => b.ignore

/-! ## Tokens -/

/-- One application of a rule. -/
def step (b : Builder) (t : Token) : Step :=
  if b.isForeign t then b.inForeign t else b.rules b.mode t

/-- Applies rules while they ask to look at the token again, at most `rounds` times. -/
def settle (t : Token) : (rounds : Nat) → Builder → Builder
  | 0, b => b
  | rounds + 1, b =>
    match b.step t with
    | .done b => b
    | .again b => settle t rounds b

/-- Takes one token.  A token is looked at again once per mode, or once per element it closes, so the
rounds suffice.  A line feed right after the start tag of some elements is dropped, and only the very
first document type counts. -/
def accept (b : Builder) (t : Token) : Builder :=
  let rest := { b with skipNewline := false }
  match t with
  | .char '\n' => if b.skipNewline then rest else rest.settle t (rest.stack.length + 32)
  | .doctype _ => if b.mode == .initial then rest.settle t 1 else rest
  | _ => rest.settle t (rest.stack.length + 32)

end Builder

end StaticSite.Html
