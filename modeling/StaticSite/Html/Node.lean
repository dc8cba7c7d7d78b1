/-
  HTML documents as plain trees.

  A `Document` is a list of top-level nodes.  An element is its start tag (a name
  and the attributes in source order) together with its children.  Equality of
  documents is decidable, so "parsing gave the same tree" is a test that runs.
-/

namespace StaticSite.Html

/-- An attribute; a name in a foreign namespace carries its prefix, as in `xlink:href`. -/
structure Attribute where
  name : String
  value : String
  deriving DecidableEq, Repr

/-- The start tag of an element: its local name and its attributes in source order. -/
structure Tag where
  name : String
  attrs : List Attribute := []
  deriving DecidableEq, Repr

inductive Node where
  | doctype (name : String)
  | comment (text : String)
  | text (text : String)
  | element (tag : Tag) (children : List Node)
  deriving Repr

/-- A document: its top-level nodes in order. -/
structure Document where
  nodes : List Node := []
  deriving Repr

/-! ## Decidable equality -/

mutual

/-- Equality of nodes is decided by comparing the trees. -/
def Node.decEq : (a b : Node) → Decidable (a = b)
  | .doctype m, .doctype n => decidable_of_iff (m = n) (by simp)
  | .comment s, .comment t => decidable_of_iff (s = t) (by simp)
  | .text s, .text t => decidable_of_iff (s = t) (by simp)
  | .element s as, .element t bs =>
    match Node.decEqList as bs with
    | .isTrue h => decidable_of_iff (s = t) (by simp [h])
    | .isFalse h => .isFalse (by simp [h])
  | .doctype _, .comment _ => .isFalse (by simp)
  | .doctype _, .text _ => .isFalse (by simp)
  | .doctype _, .element _ _ => .isFalse (by simp)
  | .comment _, .doctype _ => .isFalse (by simp)
  | .comment _, .text _ => .isFalse (by simp)
  | .comment _, .element _ _ => .isFalse (by simp)
  | .text _, .doctype _ => .isFalse (by simp)
  | .text _, .comment _ => .isFalse (by simp)
  | .text _, .element _ _ => .isFalse (by simp)
  | .element _ _, .doctype _ => .isFalse (by simp)
  | .element _ _, .comment _ => .isFalse (by simp)
  | .element _ _, .text _ => .isFalse (by simp)

/-- Equality of lists of nodes. -/
def Node.decEqList : (as bs : List Node) → Decidable (as = bs)
  | [], [] => .isTrue rfl
  | [], _ :: _ => .isFalse (by simp)
  | _ :: _, [] => .isFalse (by simp)
  | a :: as, b :: bs =>
    match Node.decEq a b with
    | .isFalse h => .isFalse (by simp [h])
    | .isTrue h =>
      match Node.decEqList as bs with
      | .isTrue hs => .isTrue (by rw [h, hs])
      | .isFalse hs => .isFalse (by simp [hs])

end

instance : DecidableEq Node := Node.decEq

deriving instance DecidableEq for Document

/-! ## Attributes and classes -/

/-- The value of the first attribute with the given name. -/
def Tag.attr? (tag : Tag) (name : String) : Option String :=
  (tag.attrs.find? (·.name == name)).map (·.value)

/-- ASCII white space as HTML counts it: tab, line feed, form feed, carriage return, space. -/
def isBlank (c : Char) : Bool :=
  c == ' ' || c == '\n' || c == '\t' || c == '\r' || c == '\x0c'

/-- The maximal runs of non-blank characters, in order; `word` is the run being read. -/
def wordsFrom (word : List Char) : List Char → List (List Char)
  | [] => if word.isEmpty then [] else [word]
  | c :: rest =>
    if isBlank c then
      if word.isEmpty then wordsFrom [] rest else word :: wordsFrom [] rest
    else wordsFrom (word ++ [c]) rest

/-- The words of a blank-separated attribute value. -/
def blankWords (value : String) : List String :=
  (wordsFrom [] value.toList).map String.ofList

/-- Whether the blank-separated `class` attribute contains the given word. -/
def Tag.hasClass (tag : Tag) (word : String) : Bool :=
  ((tag.attr? "class").map blankWords).any (·.contains word)

/-- Elements that never have an end tag. -/
def voidNames : List String :=
  ["area", "base", "basefont", "bgsound", "br", "col", "embed", "frame", "hr", "img", "input",
   "keygen", "link", "meta", "param", "source", "track", "wbr"]

/-- Whether the element is written without an end tag. -/
def Tag.isVoid (tag : Tag) : Bool := voidNames.contains tag.name

end StaticSite.Html
