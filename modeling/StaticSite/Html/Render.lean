/-
  Writing a document as HTML text.

  Void elements have no end tag and no closing slash, the text below raw-text
  elements is written verbatim, and all other text and every attribute value is
  escaped with the smallest set of character references that reads back.
-/

import StaticSite.Html.Node

namespace StaticSite.Html

/-! ## Escaping -/

/-- Where text is written; the two places escape different characters. -/
inductive Place where
  | content
  | attribute
  deriving DecidableEq, Repr

/-- The written form of one character. -/
def escapeChar (place : Place) (c : Char) : List Char :=
  if c == '&' then "&amp;".toList
  else if c == '\u00a0' then "&nbsp;".toList
  else match place with
    | .attribute => if c == '"' then "&quot;".toList else [c]
    | .content => if c == '<' then "&lt;".toList else if c == '>' then "&gt;".toList else [c]

/-- Escapes every character of a text. -/
def escape (place : Place) (text : String) : String :=
  String.ofList (text.toList.flatMap (escapeChar place))

/-! ## Tags -/

/-- Elements whose text children are written without escaping. -/
def rawTextNames : List String :=
  ["style", "script", "xmp", "iframe", "noembed", "noframes", "plaintext", "noscript"]

/-- Whether text directly below the element is written verbatim. -/
def Tag.hasRawText (tag : Tag) : Bool := rawTextNames.contains tag.name

/-- Elements after whose start tag a reader drops one line feed. -/
def newlineDroppingNames : List String := ["pre", "textarea", "listing"]

/-- Whether the children begin with a text that begins with a line feed. -/
def startsWithNewline : List Node → Bool
  | .text text :: _ => text.toList.head? == some '\n'
  | _ => false

/-- The line feed that is written after a start tag to make up for the one a reader drops. -/
def Tag.leadingNewline (tag : Tag) (children : List Node) : String :=
  if newlineDroppingNames.contains tag.name && startsWithNewline children then "\n" else ""

/-- One attribute as it stands in a start tag, with the space before it. -/
def Attribute.render (attr : Attribute) : String :=
  " " ++ attr.name ++ "=\"" ++ escape .attribute attr.value ++ "\""

/-- The start tag, and the line feed that has to follow it. -/
def Tag.renderStart (tag : Tag) (children : List Node) : String :=
  "<" ++ tag.name ++ String.join (tag.attrs.map Attribute.render) ++ ">"
    ++ tag.leadingNewline children

/-- The end tag; void elements have none. -/
def Tag.renderEnd (tag : Tag) : String :=
  if tag.isVoid then "" else "</" ++ tag.name ++ ">"

/-- Text as it is written below a raw-text element, or below any other parent. -/
def renderText (raw : Bool) (text : String) : String :=
  if raw then text else escape .content text

/-! ## Nodes and documents -/

mutual

/-- The node as HTML; `raw` says that its parent takes text verbatim. -/
def Node.render (raw : Bool) : Node → String
  | .doctype name => "<!DOCTYPE " ++ name ++ ">"
  | .comment s => "<!--" ++ s ++ "-->"
  | .text s => renderText raw s
  | .element tag children =>
    tag.renderStart children ++ Node.renderAll tag.hasRawText children ++ tag.renderEnd

/-- Sibling nodes one after the other. -/
def Node.renderAll (raw : Bool) : List Node → String
  | [] => ""
  | node :: rest => node.render raw ++ Node.renderAll raw rest

end

/-- The whole document as HTML. -/
def Document.render (doc : Document) : String := Node.renderAll false doc.nodes

end StaticSite.Html
