/-
  Skipping a value of any type.

  The brackets around the value that is being skipped are kept in a list, so that a
  value may be nested to any depth.
-/

import StaticSite.Json.Decoder.Text

namespace StaticSite.Json

namespace Decoder

/-! ## Values that are skipped -/

/-- Skips a string after its opening quote. -/
def skipString : (rounds : Nat) → Decoder Unit
  | 0 => failHere .eofInString
  | n + 1 => do
    match (← get).rest with
    | [] => failHere .eofInString
    | b :: _ =>
      if b == '"'.toUInt8 then advance
      else if b == '\\'.toUInt8 then
        advance
        match ← next with
        | none => failHere .eofInString
        | some 'u' => let _ ← hexEscape; skipString n
        | some c => if (simpleEscape? c).isSome then skipString n else failHere .invalidEscape
      else if b < 0x20 then failHere .controlCharacter
      else
        advance
        skipString n

/-- Skips an exponent. -/
def skipExponent : Decoder Unit := do
  advance
  if (← peek).any fun c => c == '+' || c == '-' then advance
  if (← next).any Char.isDigit then skipWhile Char.isDigit (← rounds)
  else failHere .invalidNumber

/-- Skips what may follow the digits of a whole number. -/
def skipFraction : Decoder Unit := do
  match ← peek with
  | some '.' =>
    advance
    if !(← peek).any Char.isDigit then failAhead .invalidNumber
    skipWhile Char.isDigit (← rounds)
    if (← peek).any fun c => c == 'e' || c == 'E' then skipExponent
  | some 'e' | some 'E' => skipExponent
  | _ => pure ()

/-- Skips a number whose sign, if any, has been read. -/
def skipNumber : Decoder Unit := do
  match ← next with
  | some '0' =>
    if (← peek).any Char.isDigit then failAhead .invalidNumber
    skipFraction
  | some c =>
    if c.isDigit then
      skipWhile Char.isDigit (← rounds)
      skipFraction
    else failHere .invalidNumber
  | none => failHere .invalidNumber

/-- The brackets around a value that is being skipped. -/
inductive Bracket where
  | square
  | curly
  deriving DecidableEq, Repr

/-- Skips a key and its colon. -/
def skipKey : Decoder Unit := do
  match ← peekValue with
  | some '"' => advance
  | some _ => failAhead .keyNotString
  | none => failAhead .eofInObject
  skipString (← rounds)
  match ← peekValue with
  | some ':' => advance
  | some _ => failAhead .expectedColon
  | none => failAhead .eofInObject

/-- Skips closing brackets and a comma: gives the brackets that are still open in front of the next
value, none if the whole value is over.  `afterValue` says that a value has just been read. -/
def skipClosing (afterValue : Bool) : List Bracket → Decoder (List Bracket)
  | [] => pure []
  | bracket :: outer => do
    match bracket, afterValue, ← peekValue with
    | .square, _, some ']' => advance; skipClosing true outer
    | .curly, _, some '\x7d' => advance; skipClosing true outer
    | _, true, some ',' => advance; return bracket :: outer
    | .square, true, some _ => failAhead .expectedListCommaOrEnd
    | .curly, true, some _ => failAhead .expectedObjectCommaOrEnd
    | _, false, some _ => return bracket :: outer
    | .square, _, none => failAhead .eofInList
    | .curly, _, none => failAhead .eofInObject

/-- Skips a value of any type inside the given brackets, and everything up to their end. -/
def skipIn (brackets : List Bracket) : (rounds : Nat) → Decoder Unit
  | 0 => pure ()
  | n + 1 => do
    let opened ← match ← firstOfValue with
      | 'n' => do advance; keyword "ull".toList; pure none
      | 't' => do advance; keyword "rue".toList; pure none
      | 'f' => do advance; keyword "alse".toList; pure none
      | '-' => do advance; skipNumber; pure none
      | '"' => do advance; skipString (← rounds); pure none
      | '[' => do advance; pure (some Bracket.square)
      | '\x7b' => do advance; pure (some Bracket.curly)
      | c => if c.isDigit then do skipNumber; pure none else failAhead .expectedValue
    match ← skipClosing opened.isNone (opened.toList ++ brackets) with
    | [] => pure ()
    | bracket :: outer =>
      if bracket == .curly then skipKey
      skipIn (bracket :: outer) n

/-- Skips a value of any type. -/
def skipValue : Decoder Unit := do
  skipIn [] (← rounds)

end Decoder

end StaticSite.Json
