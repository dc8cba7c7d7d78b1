/-
  Tree construction in the document head and in the document body.

  `inHead` and `inBody` give, for a token, the next builder and, if the token has to
  be looked at again in a changed mode, that token.
-/

import StaticSite.Html.Builder.Formatting

namespace StaticSite.Html

/-- What a rule makes of a token. -/
inductive Step where
  /-- The token is dealt with. -/
  | done (builder : Builder)
  /-- The mode has changed and the token is looked at again. -/
  | again (builder : Builder)
  deriving Repr

namespace Builder

/-- The builder with another mode, to look at the token again. -/
def againIn (b : Builder) (mode : Mode) : Step := .again { b with mode }

/-- The builder after misplaced or meaningless input: nothing changes. -/
def ignore (b : Builder) : Step := .done b

def forbidFrameset (b : Builder) : Builder := { b with framesetOk := false }

/-- A further `html` tag adds its attributes to the root, outside of templates. -/
def repeatHtml (b : Builder) (tag : Tag) : Step :=
  match b.html? with
  | some root =>
    if b.hasOpen "template" then b.ignore
    else .done { b with arena := b.arena.addMissingAttrs root.id tag.attrs }
  | none => b.ignore

/-! ## Templates -/

def openTemplate (b : Builder) (tag : Tag) : Step :=
  let b := (b.pushMarker.forbidFrameset).insertHtml tag
  .done { b with mode := .inTemplate, templateModes := .inTemplate :: b.templateModes }

def closeTemplate (b : Builder) : Step :=
  if b.hasOpen "template" then
    let b := ((b.closeImplied thoroughImpliedEndNames).close "template").clearFormattingToMarker
    .done { b with templateModes := b.templateModes.tail }.resetMode
  else b.ignore

/-- The end of the input closes the open templates one by one. -/
def templateEof (b : Builder) : Step :=
  if b.hasOpen "template" then
    let b := (b.close "template").clearFormattingToMarker
    .again { b with templateModes := b.templateModes.tail }.resetMode
  else b.ignore

/-! ## Head -/

/-- Start tags of head content, wherever they occur. -/
def headContent (b : Builder) (tag : StartTag) : Step :=
  if headVoidNames.contains tag.name then .done (b.insertVoid tag.toTag)
  else if tag.name == "title" then .done (b.insertRaw tag.toTag .escapable)
  else if tag.name == "script" then .done (b.insertRaw tag.toTag .script)
  else if tag.name == "template" then b.openTemplate tag.toTag
  else .done (b.insertRaw tag.toTag .verbatim)

/-- Anything else ends the head. -/
def leaveHead (b : Builder) : Step := b.pop.againIn .afterHead

def inHead (b : Builder) : Token → Step
  | .char c => if isBlank c then .done (b.appendChar c) else b.leaveHead
  | .comment s => .done (b.appendComment s)
  | .startTag tag =>
    if tag.name == "html" then b.repeatHtml tag.toTag
    else if headContentNames.contains tag.name || tag.name == "noscript" then b.headContent tag
    else if tag.name == "head" then b.ignore
    else b.leaveHead
  | .endTag name =>
    if name == "head" then .done { b.pop with mode := .afterHead }
    else if ["body", "html", "br"].contains name then b.leaveHead
    else if name == "template" then b.closeTemplate
    else b.ignore
  | .doctype _ => b.ignore
  | .eof => b.leaveHead

/-! ## Body: start tags -/

/-- Whether an input control is hidden. -/
def isHidden (tag : Tag) : Bool := (tag.attr? "type").any (·.toLower == "hidden")

/-- A further `body` tag adds its attributes to the body, outside of templates. -/
def repeatBody (b : Builder) (tag : Tag) : Step :=
  match b.body? with
  | some body =>
    if b.hasOpen "template" then b.ignore
    else .done { b.forbidFrameset with arena := b.arena.addMissingAttrs body.id tag.attrs }
  | none => b.ignore

/-- A frameset takes the place of a body in which nothing happened yet. -/
def replaceBody (b : Builder) (tag : Tag) : Step :=
  match b.framesetOk, b.body?, b.html? with
  | true, some body, some root =>
    let b := { b with arena := b.arena.detach body.id, stack := [root] }
    .done { b.insertHtml tag with mode := .inFrameset }
  | _, _, _ => b.ignore

/-- The name of the list item that the given item closes, if one is open. -/
def openItem? (items : List String) : List OpenElement → Option String
  | [] => none
  | e :: rest =>
    if e.isHtmlIn items then some e.name
    else if e.isSpecial && !e.isHtmlIn ["address", "div", "p"] then none
    else openItem? items rest

/-- A list item closes the item before it. -/
def openListItem (b : Builder) (tag : Tag) : Builder :=
  let items := if tag.name == "li" then ["li"] else ["dd", "dt"]
  let b := b.forbidFrameset
  let b := match openItem? items b.stack with
    | some name => (b.closeImpliedExcept name).close name
    | none => b
  b.closeParagraphInScope.insertHtml tag

def openForm (b : Builder) (tag : Tag) : Builder :=
  let templated := b.hasOpen "template"
  if b.form?.isSome && !templated then b
  else
    let b := b.closeParagraphInScope
    let form := b.arena.next
    let opened := b.insertHtml tag
    if templated then opened else { opened with form? := some form }

def openButton (b : Builder) (tag : Tag) : Builder :=
  let b := if b.inDefaultScope "button" then (b.closeImplied impliedEndNames).close "button" else b
  (b.reopenFormatting.insertHtml tag).forbidFrameset

def openNobr (b : Builder) (tag : Tag) : Builder :=
  let b := b.reopenFormatting
  let b := if b.inDefaultScope "nobr" then (b.closeFormatting "nobr").reopenFormatting else b
  b.openFormatting tag

/-- Void elements of the body; a hidden input leaves a frameset possible. -/
def bodyVoid (b : Builder) (tag : Tag) : Builder :=
  let b := b.reopenFormatting.insertVoid tag
  if tag.name == "input" && isHidden tag then b else b.forbidFrameset

def openSelect (b : Builder) (tag : Tag) : Builder :=
  let mode := if [Mode.inTable, .inCaption, .inTableBody, .inRow, .inCell].contains b.mode
    then Mode.inSelectInTable else .inSelect
  { (b.reopenFormatting.insertHtml tag).forbidFrameset with mode }

def openTable (b : Builder) (tag : Tag) : Builder :=
  let b := if b.tableClosesParagraph then b.closeParagraphInScope else b
  { (b.insertHtml tag).forbidFrameset with mode := .inTable }

/-- Ruby text closes what is implied inside an open ruby element. -/
def openRuby (b : Builder) (tag : Tag) : Builder :=
  let names := if ["rp", "rt"].contains tag.name
    then impliedEndNames.filter (· != "rtc") else impliedEndNames
  (if b.inDefaultScope "ruby" then b.closeImplied names else b).insertHtml tag

/-- The tag with its attributes in the spelling of a vocabulary. -/
def respellAttrs (table : List (String × String)) (tag : Tag) : Tag :=
  { tag with attrs := tag.attrs.map fun attr => { attr with name := respell table attr.name } }

/-- Opens an element of a foreign vocabulary. -/
def insertForeign (b : Builder) (space : Namespace) (tag : StartTag) : Builder :=
  let spelled := match space with
    | .mathml => respellAttrs (mathAttributeNames ++ prefixedAttributeNames) tag.toTag
    | .svg => respellAttrs (svgAttributeNames ++ prefixedAttributeNames) tag.toTag
    | .html => tag.toTag
  let b := b.insert space spelled
  if tag.selfClosing then b.pop else b

def bodyStart (b : Builder) (tag : StartTag) : Step :=
  let name := tag.name
  if blockNames.contains name then .done (b.closeParagraphInScope.insertHtml tag.toTag)
  else if name == "html" then b.repeatHtml tag.toTag
  else if headContentNames.contains name then b.headContent tag
  else if name == "body" then b.repeatBody tag.toTag
  else if name == "frameset" then b.replaceBody tag.toTag
  else if headingNames.contains name then
    let b := b.closeParagraphInScope
    .done ((if b.currentIn headingNames then b.pop else b).insertHtml tag.toTag)
  else if name == "pre" || name == "listing" then
    let b := (b.closeParagraphInScope.insertHtml tag.toTag).forbidFrameset
    .done { b with skipNewline := true }
  else if name == "form" then .done (b.openForm tag.toTag)
  else if name == "li" || name == "dd" || name == "dt" then .done (b.openListItem tag.toTag)
  else if name == "plaintext" then
    .done { b.closeParagraphInScope.insertHtml tag.toTag with rawText? := some .plain }
  else if name == "button" then .done (b.openButton tag.toTag)
  else if name == "a" then
    .done (b.closeOpenAnchor.reopenFormatting.openFormatting tag.toTag)
  else if formattingNames.contains name then .done (b.reopenFormatting.openFormatting tag.toTag)
  else if name == "nobr" then .done (b.openNobr tag.toTag)
  else if shieldNames.contains name then
    .done (b.reopenFormatting.insertHtml tag.toTag).pushMarker.forbidFrameset
  else if name == "table" then .done (b.openTable tag.toTag)
  else if bodyVoidNames.contains name then .done (b.bodyVoid tag.toTag)
  else if name == "image" then .done (b.bodyVoid { tag.toTag with name := "img" })
  else if ["param", "source", "track"].contains name then .done (b.insertVoid tag.toTag)
  else if name == "hr" then
    .done (b.closeParagraphInScope.insertVoid tag.toTag).forbidFrameset
  else if name == "textarea" then
    .done { (b.insertRaw tag.toTag .escapable).forbidFrameset with skipNewline := true }
  else if name == "xmp" then
    .done (b.closeParagraphInScope.reopenFormatting.forbidFrameset.insertRaw tag.toTag .verbatim)
  else if name == "iframe" then .done (b.forbidFrameset.insertRaw tag.toTag .verbatim)
  else if name == "noembed" || name == "noscript" then .done (b.insertRaw tag.toTag .verbatim)
  else if name == "select" then .done (b.openSelect tag.toTag)
  else if name == "optgroup" || name == "option" then
    .done ((if b.currentIs "option" then b.pop else b).reopenFormatting.insertHtml tag.toTag)
  else if ["rb", "rtc", "rp", "rt"].contains name then .done (b.openRuby tag.toTag)
  else if name == "math" then .done (b.insertForeign .mathml tag)
  else if name == "svg" then .done (b.insertForeign .svg tag)
  else if tablePartNames.contains name then b.ignore
  else .done (b.reopenFormatting.insertHtml tag.toTag)

/-! ## Body: end tags -/

def closeForm (b : Builder) : Builder :=
  if b.hasOpen "template" then
    if b.inDefaultScope "form" then (b.closeImplied impliedEndNames).close "form" else b
  else
    match b.form? with
    | none => b
    | some form =>
      let b := { b with form? := none }
      if inScope (·.boundsScope scopeNames) (·.id == form) b.stack
      then (b.closeImplied impliedEndNames).removeOpen form else b

def bodyEnd (b : Builder) (name : String) : Step :=
  if blockEndNames.contains name then
    .done (if b.inDefaultScope name then (b.closeImplied impliedEndNames).close name else b)
  else if name == "template" then b.closeTemplate
  else if name == "body" then
    .done (if b.inDefaultScope "body" then { b with mode := .afterBody } else b)
  else if name == "html" then
    if b.inDefaultScope "body" then b.againIn .afterBody else b.ignore
  else if name == "form" then .done b.closeForm
  else if name == "p" then
    .done (if b.inButtonScope "p" then b else b.insertMissing "p").closeParagraph
  else if name == "li" then
    .done (if b.inListItemScope "li" then (b.closeImpliedExcept "li").close "li" else b)
  else if name == "dd" || name == "dt" then
    .done (if b.inDefaultScope name then (b.closeImpliedExcept name).close name else b)
  else if headingNames.contains name then
    .done (if inScope (·.boundsScope scopeNames) (·.isHtmlIn headingNames) b.stack
      then (b.closeImplied impliedEndNames).popThrough (·.isHtmlIn headingNames) else b)
  else if name == "a" || name == "nobr" || formattingNames.contains name then
    .done (b.closeFormatting name)
  else if shieldNames.contains name then
    .done (if b.inDefaultScope name
      then ((b.closeImplied impliedEndNames).close name).clearFormattingToMarker else b)
  else if name == "br" then .done (b.bodyVoid { name := "br" })
  else .done (b.closeGeneric name)

/-! ## Body -/

def bodyChar (b : Builder) (c : Char) : Builder :=
  let b := b.reopenFormatting
  (if isBlank c then b else b.forbidFrameset).appendChar c

def inBody (b : Builder) : Token → Step
  | .char c => if c == '\x00' then b.ignore else .done (b.bodyChar c)
  | .startTag tag => b.bodyStart tag
  | .endTag name => b.bodyEnd name
  | .comment s => .done (b.appendComment s)
  | .doctype _ => b.ignore
  | .eof => if b.templateModes.isEmpty then b.ignore else b.templateEof

end Builder

end StaticSite.Html
