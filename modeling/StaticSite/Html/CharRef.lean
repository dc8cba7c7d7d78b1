/-
  Reading character references.

  A reference is read one character at a time after its ampersand.  The reader of a
  name keeps the names that still fit, each as its unread rest, and the longest name
  completed so far; a name is over when none fits any longer.  What cannot be read as
  a reference stands for itself.
-/

import StaticSite.Html.CharRef.Names

namespace StaticSite.Html

/-- How far a character reference has been read. -/
inductive CharRef where
  /-- Only the ampersand. -/
  | start
  /-- A name: the characters read, the rests of the names that still fit, and the longest name
  completed, as the characters it stands for, whether it ended in a semicolon, and what was read
  since. -/
  | name (read : List Char) (fitting : List (List Char × List Nat))
      (best : Option (List Char × Bool × List Char))
  /-- A number sign. -/
  | hash
  /-- A number sign and the letter that announces hexadecimal digits. -/
  | hexMark (letter : Char)
  /-- The digits of a number. -/
  | digits (base value : Nat)
  deriving Repr

namespace CharRef

/-- What becomes of a reference after one more character. -/
inductive Outcome where
  | more (ref : CharRef)
  /-- The reference is over and stands for `text`.  If `again`, the character is not part of it and
  is read again; `unclosed` says that a number lacks its semicolon. -/
  | over (text : List Char) (again : Bool) (unclosed : Bool := false)
  deriving Repr

/-! ## Numbers -/

/-- The characters that numbers 0x80 to 0x9F stand for. -/
def controlReplacements : List Nat :=
  [0x20AC, 0x81, 0x201A, 0x192, 0x201E, 0x2026, 0x2020, 0x2021, 0x2C6, 0x2030, 0x160, 0x2039,
   0x152, 0x8D, 0x17D, 0x8F, 0x90, 0x2018, 0x2019, 0x201C, 0x201D, 0x2022, 0x2013, 0x2014, 0x2DC,
   0x2122, 0x161, 0x203A, 0x153, 0x9D, 0x17E, 0x178]

/-- The character a number stands for; numbers that are none stand for the replacement character. -/
def ofNumber (value : Nat) : Char :=
  if value == 0 || value > 0x10FFFF || (0xD800 ≤ value && value ≤ 0xDFFF) then '\ufffd'
  else if 0x80 ≤ value && value ≤ 0x9F then
    Char.ofNat (controlReplacements[value - 0x80]?.getD value)
  else Char.ofNat value

/-- The value of a digit in base ten or sixteen. -/
def digit? (base : Nat) (c : Char) : Option Nat :=
  if c.isDigit then some (c.toNat - '0'.toNat)
  else if base == 16 && 'a' ≤ c.toLower && c.toLower ≤ 'f' then
    some (c.toLower.toNat - 'a'.toNat + 10)
  else none

/-- Appends a digit; numbers beyond the last code point are all alike. -/
def pushDigit (base value digit : Nat) : Nat := min (value * base + digit) 0x110000

/-! ## Names -/

/-- Starts reading a name. -/
def startName (c : Char) : CharRef :=
  .name [c] ((namesFrom c).map fun (rest, codes) => (rest.toList, codes)) none

/-- The names that fit one more character, with that character taken off. -/
def narrow (c : Char) (fitting : List (List Char × List Nat)) : List (List Char × List Nat) :=
  fitting.filterMap fun (rest, codes) =>
    match rest with
    | d :: rest => if d == c then some (rest, codes) else none
    | [] => none

/-- What a name stands for when it is over, given the character that follows it.  Inside an attribute
value a name without semicolon is no reference if more of a word or an equals sign follows. -/
def nameText (inAttribute : Bool) (read : List Char)
    (best : Option (List Char × Bool × List Char)) (following : Option Char) : List Char :=
  match best with
  | none => '&' :: read
  | some (expansion, closed, since) =>
    let glued := (since.head?.or following).any fun c => c == '=' || c.isAlphanum
    if inAttribute && !closed && glued then '&' :: read else expansion ++ since

/-! ## Reading -/

/-- Reads one more character. -/
def step (inAttribute : Bool) (c : Char) : CharRef → Outcome
  | .start =>
    if c.isAlphanum then .more (startName c)
    else if c == '#' then .more .hash
    else .over ['&'] true
  | .name read fitting best =>
    match narrow c fitting with
    | [] => .over (nameText inAttribute read best (some c)) true
    | fitting =>
      let best := match fitting.find? (·.1.isEmpty) with
        | some (_, codes) => some (codes.map Char.ofNat, c == ';', [])
        | none => best.map fun (expansion, closed, since) => (expansion, closed, since ++ [c])
      .more (.name (read ++ [c]) fitting best)
  | .hash =>
    if c == 'x' || c == 'X' then .more (.hexMark c)
    else match digit? 10 c with
      | some d => .more (.digits 10 d)
      | none => .over ['&', '#'] true
  | .hexMark letter =>
    match digit? 16 c with
    | some d => .more (.digits 16 d)
    | none => .over ['&', '#', letter] true
  | .digits base value =>
    match digit? base c with
    | some d => .more (.digits base (pushDigit base value d))
    | none => if c == ';' then .over [ofNumber value] false else .over [ofNumber value] true true

/-- Whether digits of a number have been read. -/
def isNumber : CharRef → Bool
  | .digits .. => true
  | _ => false

/-- What a reference stands for when the input ends in it. -/
def finish (inAttribute : Bool) : CharRef → List Char
  | .start => ['&']
  | .name read _ best => nameText inAttribute read best none
  | .hash => ['&', '#']
  | .hexMark letter => ['&', '#', letter]
  | .digits _ value => [ofNumber value]

end CharRef

end StaticSite.Html
