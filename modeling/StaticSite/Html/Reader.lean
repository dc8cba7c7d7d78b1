/-
  Reading HTML text, one character at a time.

  The reader is a state machine over characters that feeds a tree builder.  Each
  state carries exactly what has been read of the piece in progress, so a reader run
  over `xs ++ ys` is a reader run over `xs` and then over `ys`.  A text is a row of
  chunks: one that begins with the text, and one that begins after each script.
-/

import StaticSite.Html.CharRef
import StaticSite.Html.Builder.Document

namespace StaticSite.Html

/-- A tag being read. -/
structure TagDraft where
  isEnd : Bool
  name : String
  attrs : List Attribute := []
  deriving Repr

/-- Adds an attribute that has been read; of attributes with one name the first one stands. -/
def TagDraft.push (tag : TagDraft) (name value : String) : TagDraft :=
  if (tag.attrs.map (·.name)).contains name then tag
  else { tag with attrs := tag.attrs ++ [{ name, value }] }

/-- How an attribute value is delimited. -/
inductive Quoting where
  | double
  | single
  | unquoted
  deriving DecidableEq, Repr

/-- The kinds of raw text that an end tag ends. -/
inductive RawState where
  | escapable
  | verbatim
  | script
  /-- Script text inside `<!--`. -/
  | escaped
  /-- Script text inside a script tag inside `<!--`. -/
  | doubleEscaped
  deriving DecidableEq, Repr

/-- Where the text of a character reference goes. -/
inductive RefPlace where
  | data
  | escapable
  | value (tag : TagDraft) (name value : String) (quoting : Quoting)
  deriving Repr

/-- What the reader is in the middle of. -/
inductive State where
  | data
  | plain
  | raw (kind : RawState)
  | charRef (place : RefPlace) (ref : CharRef)
  | tagOpen
  | endTagOpen
  | tagName (tag : TagDraft)
  | rawLess (kind : RawState)
  | rawEndOpen (kind : RawState)
  | rawEndName (kind : RawState) (letters : String)
  | escapeStart
  | escapeStartDash
  | escapedDash (double : Bool)
  | escapedDashDash (double : Bool)
  | doubleEscapeStart (letters : String)
  | doubleEscapeEnd (letters : String)
  | beforeAttr (tag : TagDraft)
  | attrName (tag : TagDraft) (name : String)
  | afterAttrName (tag : TagDraft) (name : String)
  | beforeAttrValue (tag : TagDraft) (name : String)
  | attrValue (tag : TagDraft) (name value : String) (quoting : Quoting)
  | afterAttrValue (tag : TagDraft)
  | selfClosing (tag : TagDraft)
  | declaration (seen : String)
  | bogusComment (text : String)
  | commentStart
  | commentStartDash
  | comment (text : String)
  | commentEndDash (text : String)
  | commentEnd (text : String)
  | commentEndBang (text : String)
  | beforeDoctypeName
  | doctypeName (doctype : Doctype) (name : String)
  | afterDoctypeName (doctype : Doctype) (seen : String)
  | beforeDoctypeId (doctype : Doctype) (isPublic : Bool)
  | doctypeId (doctype : Doctype) (isPublic : Bool) (id : String) (quote : Char)
  | afterDoctypeId (doctype : Doctype) (isPublic : Bool)
  | bogusDoctype (doctype : Doctype)
  | cdata
  | cdataBracket
  | cdataEnd
  deriving Repr

structure Reader where
  state : State := .data
  builder : Builder := {}
  /-- The name of the last start tag; only its end tag ends raw text. -/
  lastStart : String := ""
  /-- Whether a byte order mark is dropped here. -/
  atChunkStart : Bool := true
  deriving Repr

namespace Reader

/-! ## Emitting -/

def goto (r : Reader) (state : State) : Reader := { r with state }

/-- Hands a token to the builder. -/
def emit (r : Reader) (t : Token) : Reader := { r with builder := r.builder.accept t }

def emitChar (r : Reader) (c : Char) : Reader := r.emit (.char c)

def emitChars (r : Reader) (cs : List Char) : Reader := cs.foldl emitChar r

/-- A NUL character in raw text stands for the replacement character. -/
def visible (c : Char) : Char := if c == '\x00' then '\ufffd' else c

/-- How the content of an element that was just opened is read. -/
def stateFor : Option RawText → State
  | none => .data
  | some .escapable => .raw .escapable
  | some .verbatim => .raw .verbatim
  | some .script => .raw .script
  | some .plain => .plain

/-- Whether an end tag with the name ends a script. -/
def endsScript (r : Reader) (name : String) : Bool := r.builder.mode == .text && name == "script"

/-- Hands a finished tag to the builder, which may ask for raw text.  What follows a script is a
chunk of its own. -/
def emitTag (r : Reader) (tag : TagDraft) (selfClosing : Bool := false) : Reader :=
  if tag.isEnd then
    { (r.emit (.endTag tag.name)).goto .data with atChunkStart := r.endsScript tag.name }
  else
    let b := r.builder.accept (.startTag { name := tag.name, attrs := tag.attrs, selfClosing })
    { r with
      state := stateFor b.rawText?, builder := { b with rawText? := none }, lastStart := tag.name }

def emitComment (r : Reader) (s : String) : Reader := (r.emit (.comment s)).goto .data

def emitDoctype (r : Reader) (d : Doctype) : Reader := (r.emit (.doctype d)).goto .data

/-- Damaged input counts as a piece of input of its own even where it yields none, so that a line
feed that comes next is not dropped: a number that lacks its semicolon, or an empty end tag. -/
def noteDamage (r : Reader) : Reader :=
  { r with builder := { r.builder with skipNewline := false } }

/-! ## Text -/

def data (r : Reader) (c : Char) : Reader :=
  if c == '<' then r.goto .tagOpen
  else if c == '&' then r.goto (.charRef .data .start)
  else (r.emitChar c).goto .data

def escapable (r : Reader) (c : Char) : Reader :=
  if c == '<' then r.goto (.rawLess .escapable)
  else if c == '&' then r.goto (.charRef .escapable .start)
  else (r.emitChar (visible c)).goto (.raw .escapable)

def raw (r : Reader) (kind : RawState) (c : Char) : Reader :=
  match kind with
  | .escapable => r.escapable c
  | .verbatim | .script =>
    if c == '<' then r.goto (.rawLess kind) else (r.emitChar (visible c)).goto (.raw kind)
  | .escaped =>
    if c == '<' then r.goto (.rawLess kind)
    else if c == '-' then (r.emitChar c).goto (.escapedDash false)
    else (r.emitChar (visible c)).goto (.raw kind)
  | .doubleEscaped =>
    if c == '<' then (r.emitChar c).goto (.rawLess kind)
    else if c == '-' then (r.emitChar c).goto (.escapedDash true)
    else (r.emitChar (visible c)).goto (.raw kind)

/-! ## Attribute values -/

/-- Reads a character of an attribute value. -/
def attrValue (r : Reader) (tag : TagDraft) (name value : String) (quoting : Quoting) (c : Char) :
    Reader :=
  let more := r.goto (.attrValue tag name (value.push (visible c)) quoting)
  let ref := r.goto (.charRef (.value tag name value quoting) .start)
  match quoting with
  | .double =>
    if c == '"' then r.goto (.afterAttrValue (tag.push name value))
    else if c == '&' then ref else more
  | .single =>
    if c == '\'' then r.goto (.afterAttrValue (tag.push name value))
    else if c == '&' then ref else more
  | .unquoted =>
    if isBlank c then r.goto (.beforeAttr (tag.push name value))
    else if c == '>' then r.emitTag (tag.push name value)
    else if c == '&' then ref else more

/-! ## Character references -/

/-- Puts the text of a character reference where it belongs. -/
def putRef (r : Reader) (text : List Char) : RefPlace → Reader
  | .data => (r.emitChars text).goto .data
  | .escapable => (r.emitChars text).goto (.raw .escapable)
  | .value tag name value quoting =>
    r.goto (.attrValue tag name (value ++ String.ofList text) quoting)

/-- Reads a character in the place where a character reference stood. -/
def readAt (r : Reader) (place : RefPlace) (c : Char) : Reader :=
  match place, r.state with
  | .data, _ => r.data c
  | .escapable, _ => r.escapable c
  | .value .., .attrValue tag name value quoting => r.attrValue tag name value quoting c
  | _, _ => r

def isInValue : RefPlace → Bool
  | .value .. => true
  | _ => false

def charRef (r : Reader) (place : RefPlace) (ref : CharRef) (c : Char) : Reader :=
  match ref.step (isInValue place) c with
  | .more ref => r.goto (.charRef place ref)
  | .over text again unclosed =>
    let r := (if unclosed then r.noteDamage else r).putRef text place
    if again then r.readAt place c else r

/-! ## Tags -/

def beforeAttr (r : Reader) (tag : TagDraft) (c : Char) : Reader :=
  if isBlank c then r.goto (.beforeAttr tag)
  else if c == '/' then r.goto (.selfClosing tag)
  else if c == '>' then r.emitTag tag
  else r.goto (.attrName tag (String.singleton (visible c.toLower)))

def tagName (r : Reader) (tag : TagDraft) (c : Char) : Reader :=
  if isBlank c then r.goto (.beforeAttr tag)
  else if c == '/' then r.goto (.selfClosing tag)
  else if c == '>' then r.emitTag tag
  else r.goto (.tagName { tag with name := tag.name.push (visible c.toLower) })

def attrName (r : Reader) (tag : TagDraft) (name : String) (c : Char) : Reader :=
  if isBlank c then r.goto (.afterAttrName tag name)
  else if c == '/' then r.goto (.selfClosing (tag.push name ""))
  else if c == '=' then r.goto (.beforeAttrValue tag name)
  else if c == '>' then r.emitTag (tag.push name "")
  else r.goto (.attrName tag (name.push (visible c.toLower)))

def afterAttrName (r : Reader) (tag : TagDraft) (name : String) (c : Char) : Reader :=
  if isBlank c then r
  else if c == '=' then r.goto (.beforeAttrValue tag name)
  else r.beforeAttr (tag.push name "") c

def beforeAttrValue (r : Reader) (tag : TagDraft) (name : String) (c : Char) : Reader :=
  if isBlank c then r
  else if c == '"' then r.goto (.attrValue tag name "" .double)
  else if c == '\'' then r.goto (.attrValue tag name "" .single)
  else if c == '>' then r.emitTag (tag.push name "")
  else r.attrValue tag name "" .unquoted c

def selfClosing (r : Reader) (tag : TagDraft) (c : Char) : Reader :=
  if c == '>' then r.emitTag tag true else r.beforeAttr tag c

/-! ## Comments -/

def bogusComment (r : Reader) (s : String) (c : Char) : Reader :=
  if c == '>' then r.emitComment s else r.goto (.bogusComment (s.push (visible c)))

/-- Goes on with a comment after some text of it. -/
def comment (r : Reader) (s : String) (c : Char) : Reader :=
  if c == '-' then r.goto (.commentEndDash s) else r.goto (.comment (s.push (visible c)))

def commentStart (r : Reader) (c : Char) : Reader :=
  if c == '-' then r.goto .commentStartDash
  else if c == '>' then r.emitComment ""
  else r.comment "" c

def commentStartDash (r : Reader) (c : Char) : Reader :=
  if c == '-' then r.goto (.commentEnd "")
  else if c == '>' then r.emitComment ""
  else r.comment "-" c

def commentEndDash (r : Reader) (s : String) (c : Char) : Reader :=
  if c == '-' then r.goto (.commentEnd s) else r.comment (s ++ "-") c

def commentEnd (r : Reader) (s : String) (c : Char) : Reader :=
  if c == '>' then r.emitComment s
  else if c == '!' then r.goto (.commentEndBang s)
  else if c == '-' then r.goto (.commentEnd (s ++ "-"))
  else r.comment (s ++ "--") c

def commentEndBang (r : Reader) (s : String) (c : Char) : Reader :=
  if c == '-' then r.goto (.commentEndDash (s ++ "--!"))
  else if c == '>' then r.emitComment s
  else r.comment (s ++ "--!") c

/-! ## Declarations -/

def bogusDoctype (r : Reader) (d : Doctype) (c : Char) : Reader :=
  if c == '>' then r.emitDoctype d else r.goto (.bogusDoctype d)

def beforeDoctypeName (r : Reader) (c : Char) : Reader :=
  if isBlank c then r.goto .beforeDoctypeName
  else if c == '>' then r.emitDoctype { malformed := true }
  else r.goto (.doctypeName {} (String.singleton (visible c.toLower)))

def doctypeName (r : Reader) (d : Doctype) (name : String) (c : Char) : Reader :=
  if isBlank c then r.goto (.afterDoctypeName { d with name } "")
  else if c == '>' then r.emitDoctype { d with name }
  else r.goto (.doctypeName d (name.push (visible c.toLower)))

/-- Looks for the keyword that announces an identifier. -/
def afterDoctypeName (r : Reader) (d : Doctype) (seen : String) (c : Char) : Reader :=
  let word := seen.push c.toLower
  if word == "public" then r.goto (.beforeDoctypeId d true)
  else if word == "system" then r.goto (.beforeDoctypeId d false)
  else if word.toList.isPrefixOf "public".toList || word.toList.isPrefixOf "system".toList
  then r.goto (.afterDoctypeName d word)
  else if seen == "" && isBlank c then r
  else if seen == "" && c == '>' then r.emitDoctype d
  else r.bogusDoctype { d with malformed := true } c

def beforeDoctypeId (r : Reader) (d : Doctype) (isPublic : Bool) (c : Char) : Reader :=
  if isBlank c then r
  else if c == '"' || c == '\'' then r.goto (.doctypeId d isPublic "" c)
  else r.bogusDoctype { d with malformed := true } c

/-- The declaration with an identifier filled in. -/
def withId (d : Doctype) (isPublic : Bool) (id : String) : Doctype :=
  if isPublic then { d with publicId := id } else { d with systemId := id }

def doctypeId (r : Reader) (d : Doctype) (isPublic : Bool) (id : String) (quote c : Char) : Reader :=
  if c == quote then r.goto (.afterDoctypeId (withId d isPublic id) isPublic)
  else if c == '>' then r.emitDoctype { withId d isPublic id with malformed := true }
  else r.goto (.doctypeId d isPublic (id.push (visible c)) quote)

def afterDoctypeId (r : Reader) (d : Doctype) (isPublic : Bool) (c : Char) : Reader :=
  if isBlank c then r
  else if c == '>' then r.emitDoctype d
  else if isPublic then
    if c == '"' || c == '\'' then r.goto (.doctypeId d false "" c)
    else r.bogusDoctype { d with malformed := true } c
  else r.bogusDoctype d c

/-- Whether `<![CDATA[` starts literal text here. -/
def takesCdata (r : Reader) : Bool := r.builder.current?.any (·.space != .html)

/-- Finds out what follows `<!`. -/
def declaration (r : Reader) (seen : String) (c : Char) : Reader :=
  let word := seen.push c
  if word == "--" then r.goto .commentStart
  else if word.toLower == "doctype" then r.goto .beforeDoctypeName
  else if word == "[CDATA[" && r.takesCdata then r.goto .cdata
  else if word == "-" || word.toLower.toList.isPrefixOf "doctype".toList
    || (word.toList.isPrefixOf "[CDATA[".toList && r.takesCdata)
  then r.goto (.declaration word)
  else r.bogusComment seen c

/-! ## Markup -/

def tagOpen (r : Reader) (c : Char) : Reader :=
  if c == '!' then r.goto (.declaration "")
  else if c == '/' then r.goto .endTagOpen
  else if c == '?' then r.bogusComment "" c
  else if c.isAlpha then r.goto (.tagName { isEnd := false, name := String.singleton c.toLower })
  else (r.emitChar '<').data c

def endTagOpen (r : Reader) (c : Char) : Reader :=
  if c == '>' then r.noteDamage.goto .data
  else if c.isAlpha then r.goto (.tagName { isEnd := true, name := String.singleton c.toLower })
  else r.bogusComment "" c

/-! ## Raw text -/

def rawLess (r : Reader) (kind : RawState) (c : Char) : Reader :=
  match kind with
  | .escapable | .verbatim =>
    if c == '/' then r.goto (.rawEndOpen kind) else (r.emitChar '<').raw kind c
  | .script =>
    if c == '/' then r.goto (.rawEndOpen kind)
    else if c == '!' then (r.emitChars ['<', '!']).goto .escapeStart
    else (r.emitChar '<').raw kind c
  | .escaped =>
    if c == '/' then r.goto (.rawEndOpen kind)
    else if c.isAlpha then
      (r.emitChars ['<', c]).goto (.doubleEscapeStart (String.singleton c.toLower))
    else (r.emitChar '<').raw kind c
  | .doubleEscaped =>
    if c == '/' then (r.emitChar c).goto (.doubleEscapeEnd "") else r.raw kind c

def rawEndOpen (r : Reader) (kind : RawState) (c : Char) : Reader :=
  if c.isAlpha then r.goto (.rawEndName kind (String.singleton c))
  else (r.emitChars ['<', '/']).raw kind c

def rawEndName (r : Reader) (kind : RawState) (letters : String) (c : Char) : Reader :=
  let tag : TagDraft := { isEnd := true, name := letters.toLower }
  let fits := tag.name == r.lastStart
  if fits && isBlank c then r.goto (.beforeAttr tag)
  else if fits && c == '/' then r.goto (.selfClosing tag)
  else if fits && c == '>' then r.emitTag tag
  else if c.isAlpha then r.goto (.rawEndName kind (letters.push c))
  else (r.emitChars ('<' :: '/' :: letters.toList)).raw kind c

/-! ## Scripts -/

def escapeStart (r : Reader) (c : Char) : Reader :=
  if c == '-' then (r.emitChar c).goto .escapeStartDash else r.raw .script c

def escapeStartDash (r : Reader) (c : Char) : Reader :=
  if c == '-' then (r.emitChar c).goto (.escapedDashDash false) else r.raw .script c

/-- Escaped script text, once or twice. -/
def escapedKind (double : Bool) : RawState := if double then .doubleEscaped else .escaped

def escapedDash (r : Reader) (double : Bool) (c : Char) : Reader :=
  if c == '-' then (r.emitChar c).goto (.escapedDashDash double) else r.raw (escapedKind double) c

def escapedDashDash (r : Reader) (double : Bool) (c : Char) : Reader :=
  if c == '-' then (r.emitChar c).goto (.escapedDashDash double)
  else if c == '>' then (r.emitChar c).goto (.raw .script)
  else r.raw (escapedKind double) c

/-- Whether the character ends the name of a tag. -/
def endsName (c : Char) : Bool := isBlank c || c == '/' || c == '>'

def doubleEscapeStart (r : Reader) (letters : String) (c : Char) : Reader :=
  if endsName c then (r.emitChar c).goto (.raw (escapedKind (letters == "script")))
  else if c.isAlpha then (r.emitChar c).goto (.doubleEscapeStart (letters.push c.toLower))
  else r.raw .escaped c

def doubleEscapeEnd (r : Reader) (letters : String) (c : Char) : Reader :=
  if endsName c then (r.emitChar c).goto (.raw (escapedKind (letters != "script")))
  else if c.isAlpha then (r.emitChar c).goto (.doubleEscapeEnd (letters.push c.toLower))
  else r.raw .doubleEscaped c

/-! ## Literal text in foreign content -/

def cdata (r : Reader) (c : Char) : Reader :=
  if c == ']' then r.goto .cdataBracket else (r.emitChar c).goto .cdata

def cdataBracket (r : Reader) (c : Char) : Reader :=
  if c == ']' then r.goto .cdataEnd else (r.emitChar ']').cdata c

def cdataEnd (r : Reader) (c : Char) : Reader :=
  if c == ']' then r.emitChar ']'
  else if c == '>' then r.goto .data
  else (r.emitChars [']', ']']).cdata c

/-! ## The machine -/

/-- Reads one character of the text proper. -/
def read (r : Reader) (c : Char) : Reader :=
  match r.state with
  | .data => r.data c
  | .plain => r.emitChar (visible c)
  | .raw kind => r.raw kind c
  | .charRef place ref => r.charRef place ref c
  | .tagOpen => r.tagOpen c
  | .endTagOpen => r.endTagOpen c
  | .tagName tag => r.tagName tag c
  | .rawLess kind => r.rawLess kind c
  | .rawEndOpen kind => r.rawEndOpen kind c
  | .rawEndName kind letters => r.rawEndName kind letters c
  | .escapeStart => r.escapeStart c
  | .escapeStartDash => r.escapeStartDash c
  | .escapedDash double => r.escapedDash double c
  | .escapedDashDash double => r.escapedDashDash double c
  | .doubleEscapeStart letters => r.doubleEscapeStart letters c
  | .doubleEscapeEnd letters => r.doubleEscapeEnd letters c
  | .beforeAttr tag => r.beforeAttr tag c
  | .attrName tag name => r.attrName tag name c
  | .afterAttrName tag name => r.afterAttrName tag name c
  | .beforeAttrValue tag name => r.beforeAttrValue tag name c
  | .attrValue tag name value quoting => r.attrValue tag name value quoting c
  | .afterAttrValue tag => r.beforeAttr tag c
  | .selfClosing tag => r.selfClosing tag c
  | .declaration seen => r.declaration seen c
  | .bogusComment s => r.bogusComment s c
  | .commentStart => r.commentStart c
  | .commentStartDash => r.commentStartDash c
  | .comment s => r.comment s c
  | .commentEndDash s => r.commentEndDash s c
  | .commentEnd s => r.commentEnd s c
  | .commentEndBang s => r.commentEndBang s c
  | .beforeDoctypeName => r.beforeDoctypeName c
  | .doctypeName d name => r.doctypeName d name c
  | .afterDoctypeName d seen => r.afterDoctypeName d seen c
  | .beforeDoctypeId d isPublic => r.beforeDoctypeId d isPublic c
  | .doctypeId d isPublic id quote => r.doctypeId d isPublic id quote c
  | .afterDoctypeId d isPublic => r.afterDoctypeId d isPublic c
  | .bogusDoctype d => r.bogusDoctype d c
  | .cdata => r.cdata c
  | .cdataBracket => r.cdataBracket c
  | .cdataEnd => r.cdataEnd c

/-- Reads one character.  A byte order mark at the start of a chunk is dropped. -/
def step (r : Reader) (c : Char) : Reader :=
  if r.atChunkStart then
    let r := { r with atChunkStart := false }
    if c == '\ufeff' then r else r.read c
  else r.read c

/-- Reads several characters. -/
def run (r : Reader) (cs : List Char) : Reader := cs.foldl step r

theorem run_append (r : Reader) (xs ys : List Char) : r.run (xs ++ ys) = (r.run xs).run ys :=
  List.foldl_append

/-! ## The end of the input -/

/-- Completes or gives up the piece in progress: text and comments are kept, tags are not. -/
def flush (r : Reader) : Reader :=
  match r.state with
  | .charRef .data ref | .charRef .escapable ref =>
    (if ref.isNumber then r.noteDamage else r).emitChars (ref.finish false)
  | .tagOpen => r.emitChar '<'
  | .endTagOpen => r.emitChars ['<', '/']
  | .rawLess kind => if kind == .doubleEscaped then r else r.emitChar '<'
  | .rawEndOpen _ => r.emitChars ['<', '/']
  | .rawEndName _ letters => r.emitChars ('<' :: '/' :: letters.toList)
  | .declaration seen => r.emitComment seen
  | .bogusComment s => r.emitComment s
  | .commentStart | .commentStartDash => r.emitComment ""
  | .comment s | .commentEndDash s | .commentEnd s | .commentEndBang s => r.emitComment s
  | .beforeDoctypeName => r.emitDoctype { malformed := true }
  | .doctypeName d name => r.emitDoctype { d with name, malformed := true }
  | .afterDoctypeName d _ | .beforeDoctypeId d _ => r.emitDoctype { d with malformed := true }
  | .doctypeId d isPublic id _ => r.emitDoctype { withId d isPublic id with malformed := true }
  | .afterDoctypeId d _ => r.emitDoctype { d with malformed := true }
  | .bogusDoctype d => r.emitDoctype d
  | .cdataBracket => r.emitChar ']'
  | .cdataEnd => r.emitChars [']', ']']
  | _ => r

/-- The document after the end of the input. -/
def document (r : Reader) : Document := (r.flush.emit .eof).builder.arena.document

end Reader

/-! ## Documents -/

/-- Carriage returns, alone or before a line feed, are line feeds. -/
def unifyNewlines : List Char → List Char
  | '\r' :: '\n' :: rest => '\n' :: unifyNewlines rest
  | '\r' :: rest => '\n' :: unifyNewlines rest
  | c :: rest => c :: unifyNewlines rest
  | [] => []

/-- Reads a text as an HTML document.  Every text is one. -/
def Document.parse (html : String) : Document :=
  (({} : Reader).run (unifyNewlines html.toList)).document

end StaticSite.Html
