/-
  The pieces of an HTML text: what the reader hands to the tree builder.
-/

import StaticSite.Html.Node

namespace StaticSite.Html

/-- A start tag as read: the tag and whether it ended in a slash. -/
structure StartTag extends Tag where
  selfClosing : Bool := false
  deriving DecidableEq, Repr

/-- A document type declaration as read. -/
structure Doctype where
  name : Option String := none
  publicId : Option String := none
  systemId : Option String := none
  malformed : Bool := false
  deriving DecidableEq, Repr

inductive Token where
  | doctype (declaration : Doctype)
  | startTag (tag : StartTag)
  | endTag (name : String)
  | comment (text : String)
  | char (c : Char)
  | eof
  deriving DecidableEq, Repr

/-! ## Document types and tables

A document type decides one thing here: whether the start of a table closes an
open paragraph.  Old or damaged declarations, and documents without one, leave
the paragraph open. -/

/-- Public identifiers of document types under which a table leaves a paragraph open. -/
def looseTablePublicIds : List String :=
  ["-//w3o//dtd w3 html strict 3.0//en//", "-/w3c/dtd html 4.0 transitional/en", "html"]

/-- Beginnings of public identifiers under which a table leaves a paragraph open. -/
def looseTablePublicStarts : List String :=
  ["-//advasoft ltd//dtd html 3.0 aswedit + extensions//",
   "-//as//dtd html 3.0 aswedit + extensions//",
   "-//ietf//dtd html 2.0 level 1//",
   "-//ietf//dtd html 2.0 level 2//",
   "-//ietf//dtd html 2.0 strict level 1//",
   "-//ietf//dtd html 2.0 strict level 2//",
   "-//ietf//dtd html 2.0 strict//",
   "-//ietf//dtd html 2.0//",
   "-//ietf//dtd html 2.1e//",
   "-//ietf//dtd html 3.0//",
   "-//ietf//dtd html 3.2 final//",
   "-//ietf//dtd html 3.2//",
   "-//ietf//dtd html 3//",
   "-//ietf//dtd html level 0//",
   "-//ietf//dtd html level 1//",
   "-//ietf//dtd html level 2//",
   "-//ietf//dtd html level 3//",
   "-//ietf//dtd html strict level 0//",
   "-//ietf//dtd html strict level 1//",
   "-//ietf//dtd html strict level 2//",
   "-//ietf//dtd html strict level 3//",
   "-//ietf//dtd html strict//",
   "-//ietf//dtd html//",
   "-//metrius//dtd metrius presentational//",
   "-//microsoft//dtd internet explorer 2.0 html strict//",
   "-//microsoft//dtd internet explorer 2.0 html//",
   "-//microsoft//dtd internet explorer 2.0 tables//",
   "-//microsoft//dtd internet explorer 3.0 html strict//",
   "-//microsoft//dtd internet explorer 3.0 html//",
   "-//microsoft//dtd internet explorer 3.0 tables//",
   "-//netscape comm. corp.//dtd html//",
   "-//netscape comm. corp.//dtd strict html//",
   "-//o'reilly and associates//dtd html 2.0//",
   "-//o'reilly and associates//dtd html extended 1.0//",
   "-//o'reilly and associates//dtd html extended relaxed 1.0//",
   "-//softquad software//dtd hotmetal pro 6.0::19990601::extensions to html 4.0//",
   "-//softquad//dtd hotmetal pro 4.0::19971010::extensions to html 4.0//",
   "-//spyglass//dtd html 2.0 extended//",
   "-//sq//dtd html 2.0 hotmetal + extensions//",
   "-//sun microsystems corp.//dtd hotjava html//",
   "-//sun microsystems corp.//dtd hotjava strict html//",
   "-//w3c//dtd html 3 1995-03-24//",
   "-//w3c//dtd html 3.2 draft//",
   "-//w3c//dtd html 3.2 final//",
   "-//w3c//dtd html 3.2//",
   "-//w3c//dtd html 3.2s draft//",
   "-//w3c//dtd html 4.0 frameset//",
   "-//w3c//dtd html 4.0 transitional//",
   "-//w3c//dtd html experimental 19960712//",
   "-//w3c//dtd html experimental 970421//",
   "-//w3c//dtd w3 html//",
   "-//w3o//dtd w3 html 3.0//",
   "-//webtechs//dtd mozilla html 2.0//",
   "-//webtechs//dtd mozilla html//"]

/-- Beginnings of public identifiers that count only if no system identifier follows. -/
def looseTableIfNoSystemStarts : List String :=
  ["-//w3c//dtd html 4.01 frameset//", "-//w3c//dtd html 4.01 transitional//"]

/-- System identifiers under which a table leaves a paragraph open. -/
def looseTableSystemIds : List String :=
  ["http://www.ibm.com/data/dtd/v11/ibmxhtml1-transitional.dtd"]

/-- Whether the start of a table closes an open paragraph under this document type. -/
def Doctype.tableClosesParagraph (d : Doctype) : Bool :=
  let starts (table : List String) (id : Option String) : Bool :=
    id.any fun id => table.any (id.startsWith ·)
  let pub := d.publicId.map String.toLower
  let sys := d.systemId.map String.toLower
  !(d.malformed
    || d.name != some "html"
    || pub.any looseTablePublicIds.contains
    || sys.any looseTableSystemIds.contains
    || starts looseTablePublicStarts pub
    || (sys.isNone && starts looseTableIfNoSystemStarts pub))

end StaticSite.Html
