/-
  Replacements in a spliced file.

  A directive is a comma-separated list of `key:value` entries.  Each pair replaces
  the key between double underscores by the value, one pair after the other, so that a
  later pair sees what an earlier one wrote.
-/

import StaticSite.Notice
import StaticSite.Text.Blank
import StaticSite.Text.Split

namespace StaticSite.Template

structure Replacement where
  key : String
  value : String
  deriving DecidableEq, Repr

namespace Replacement

/-! ## Reading a directive -/

inductive Entry where
  | pair (pair : Replacement)
  /-- Blank, or without a key. -/
  | empty
  | noColon (text : String)
  deriving DecidableEq, Repr

def trimmed (cs : List Char) : String := String.ofList (Text.trimChars cs)

/-- Reads what stands between two commas; only the first colon divides it. -/
def readEntry (entry : List Char) : Entry :=
  if (Text.trimChars entry).isEmpty then .empty
  else match Text.cutAt ':' entry with
    | none => .noColon (trimmed entry)
    | some (key, value) =>
      if (Text.trimChars key).isEmpty then .empty
      else .pair { key := trimmed key, value := trimmed value }

def entries (directive : String) : List Entry :=
  (Text.splitAt ',' directive.toList).map readEntry

def Entry.pair? : Entry → Option Replacement
  | .pair p => some p
  | _ => none

def Entry.notice? : Entry → Option Notice
  | .noColon text => some (.replacementWithoutColon text)
  | _ => none

/-- The pairs of a directive, in order. -/
def parse (directive : String) : List Replacement :=
  (entries directive).filterMap Entry.pair?

/-- What is wrong with a directive, in order. -/
def notices (directive : String) : List Notice :=
  (entries directive).filterMap Entry.notice?

/-! ## Applying pairs -/

/-- Replaces every occurrence of a text after skipping some characters; occurrences do not overlap,
and the first one wins. -/
def replaceFrom (target value : List Char) : (skip : Nat) → List Char → List Char
  | _, [] => []
  | k + 1, _ :: rest => replaceFrom target value k rest
  | 0, c :: rest =>
    if target.isPrefixOf (c :: rest) then
      value ++ replaceFrom target value (target.length - 1) rest
    else c :: replaceFrom target value 0 rest

/-- How a key stands in the text of a file. -/
def placeholder (key : String) : List Char := "__".toList ++ key.toList ++ "__".toList

def apply (content : List Char) (pair : Replacement) : List Char :=
  replaceFrom (placeholder pair.key) pair.value.toList 0 content

def applyAll (content : String) (pairs : List Replacement) : String :=
  String.ofList (pairs.foldl apply content.toList)

/-- The text of a file under the directive of the reference to it. -/
def expand (content : String) : (directive : Option String) → String
  | none => content
  | some directive => applyAll content (parse directive)

end Replacement

end StaticSite.Template
