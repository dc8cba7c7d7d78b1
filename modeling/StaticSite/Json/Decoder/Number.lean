/-
  Numbers in JSON text.

  Whole numbers in the range of a word are exact.  All others are doubles, computed
  from the leading digits and a power of ten.
-/

import StaticSite.Json.Decoder.Basic

namespace StaticSite.Json

namespace Decoder

/-! ## Numbers -/

/-- A number as it was written: whole numbers in range are exact, others are not. -/
inductive Number where
  | whole (value : Nat)
  | negative (value : Nat)
  | floating (value : Float)

def Number.found : Number → Found
  | .whole value => .integer value
  | .negative value => .integer (-value)
  | .floating value => .floating value

def wordLimit : Nat := Nat.pow 2 64

/-- Reads digits into a significand until it would leave the word range; gives it and their number. -/
def significand (value count : Nat) : (rounds : Nat) → Decoder (Nat × Nat)
  | 0 => pure (value, count)
  | n + 1 => do
    match ← peek with
    | some c =>
      if c.isDigit then
        let value' := value * 10 + (c.toNat - '0'.toNat)
        if value' < wordLimit then
          advance
          significand value' (count + 1) n
        else pure (value, count)
      else pure (value, count)
    | none => pure (value, count)

/-- Skips digits and counts them. -/
def countDigits (count : Nat) : (rounds : Nat) → Decoder Nat
  | 0 => pure count
  | n + 1 => do
    if (← peek).any Char.isDigit then
      advance
      countDigits (count + 1) n
    else pure count

/-- Scales a double by a power of ten, in steps of at most 308. -/
def scale (f : Float) (exponent : Int) : (rounds : Nat) → Decoder Float
  | 0 => pure f
  | n + 1 => do
    if exponent.natAbs ≤ 308 then
      let power := Float.ofScientific 1 false exponent.natAbs
      if 0 ≤ exponent then
        if (f * power).isInf then failHere .numberOutOfRange else pure (f * power)
      else pure (f / power)
    else if f == 0.0 then pure f
    else if 0 ≤ exponent then failHere .numberOutOfRange
    else scale (f / Float.ofScientific 1 false 308) (exponent + 308) n

/-- The double with this significand, exponent and sign. -/
def float (positive : Bool) (value : Nat) (exponent : Int) : Decoder Number := do
  let f ← scale value.toUInt64.toFloat exponent (exponent.natAbs / 308 + 2)
  return .floating (if positive then f else -f)

/-- Reads an exponent; `start` comes from the digits before it.  One beyond the range of the exponent
gives zero, or fails if the number would be too large. -/
def exponent (positive : Bool) (value : Nat) (start : Int) : Decoder Number := do
  advance
  let negative := (← peek) == some '-'
  if negative || (← peek) == some '+' then advance
  match ← next with
  | none => failHere .eofInValue
  | some c =>
    if !c.isDigit then failHere .invalidNumber
    else
      let digits := fun (n : Nat) => n < Nat.pow 2 31
      let rec read (e : Nat) : (rounds : Nat) → Decoder (Nat × Bool)
        | 0 => pure (e, true)
        | n + 1 => do
          match ← peek with
          | some c =>
            if c.isDigit then
              advance
              let e' := e * 10 + (c.toNat - '0'.toNat)
              if digits e' then read e' n else pure (e, false)
            else pure (e, true)
          | none => pure (e, true)
      let (e, inRange) ← read (c.toNat - '0'.toNat) (← rounds)
      if inRange then
        let limit := fun (i : Int) => max (-2147483648) (min 2147483647 i)
        float positive value (limit (if negative then start - e else start + e))
      else if value != 0 && !negative then failHere .numberOutOfRange
      else
        skipWhile Char.isDigit (← rounds)
        return .floating (if positive then 0.0 else -0.0)

/-- Reads what may follow the digits after a point. -/
def afterFraction (positive : Bool) (value : Nat) (start : Int) : Decoder Number := do
  match ← peek with
  | some 'e' | some 'E' => exponent positive value start
  | _ => float positive value start

/-- Reads the digits after a point. -/
def fraction (positive : Bool) (value : Nat) (start : Int) : Decoder Number := do
  advance
  let (value, count) ← significand value 0 (← rounds)
  if (← peek).any Char.isDigit then
    skipWhile Char.isDigit (← rounds)
    afterFraction positive value (start - count)
  else if count == 0 then
    match ← peek with
    | some _ => failAhead .invalidNumber
    | none => failAhead .eofInValue
  else afterFraction positive value (start - count)

/-- Reads what may follow the digits of a whole number. -/
def afterWhole (positive : Bool) (value : Nat) : Decoder Number := do
  match ← peek with
  | some '.' => fraction positive value 0
  | some 'e' | some 'E' => exponent positive value 0
  | _ =>
    if positive then return .whole value
    else if value == 0 || value > Nat.pow 2 63 then return .floating (-value.toUInt64.toFloat)
    else return .negative value

/-- Reads a number whose sign, if any, has been read. -/
def number (positive : Bool) : Decoder Number := do
  match ← next with
  | none => failHere .eofInValue
  | some '0' =>
    if (← peek).any Char.isDigit then failAhead .invalidNumber else afterWhole positive 0
  | some c =>
    if !c.isDigit then failHere .invalidNumber
    else
      let (value, _) ← significand (c.toNat - '0'.toNat) 0 (← rounds)
      if (← peek).any Char.isDigit then
        let dropped ← countDigits 0 (← rounds)
        match ← peek with
        | some '.' => fraction positive value dropped
        | _ => afterFraction positive value dropped
      else afterWhole positive value

end Decoder

end StaticSite.Json
