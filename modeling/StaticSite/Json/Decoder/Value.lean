/-
  Simple values and lists, and what is said about a value of the wrong type.
-/

import StaticSite.Json.Decoder.Number
import StaticSite.Json.Decoder.Text

namespace StaticSite.Json

namespace Decoder

/-! ## Values of the wrong type -/

/-- Fails on a value that is not of the expected type, after reading it if it is a simple one. -/
def wrongType (expected : String) : Decoder α := placed do
  match ← peek with
  | some 'n' => advance; keyword "ull".toList; fail (.invalidType .null expected)
  | some 't' => advance; keyword "rue".toList; fail (.invalidType (.boolean true) expected)
  | some 'f' => advance; keyword "alse".toList; fail (.invalidType (.boolean false) expected)
  | some '-' => advance; fail (.invalidType (← number false).found expected)
  | some '"' => advance; fail (.invalidType (.string (← stringBody)) expected)
  | some '[' => fail (.invalidType .sequence expected)
  | some '\x7b' => fail (.invalidType .map expected)
  | some c =>
    if c.isDigit then fail (.invalidType (← number true).found expected)
    else failAhead .expectedValue
  | none => failAhead .expectedValue

/-! ## Simple values -/

/-- A string, or what else the given function makes of it. -/
def stringWith (expected : String) (f : String → Decoder α) : Decoder α := do
  if (← firstOfValue) == '"' then
    advance
    let s ← stringBody
    placed (f s)
  else wrongType expected

def string : Decoder String := stringWith "a string" pure

def boolean : Decoder Bool := do
  match ← firstOfValue with
  | 't' => advance; keyword "rue".toList; return true
  | 'f' => advance; keyword "alse".toList; return false
  | _ => wrongType "a boolean"

/-- A natural number below 2^64. -/
def natural (expected : String) : Decoder Nat := do
  let check : Number → Decoder Nat
    | .whole value => pure value
    | .negative value => fail (.invalidValue (.integer (-value)) expected)
    | .floating value => fail (.invalidType (.floating value) expected)
  let c ← firstOfValue
  if c == '-' then
    advance
    let n ← number false
    placed (check n)
  else if c.isDigit then
    let n ← number true
    placed (check n)
  else wrongType expected

/-- A value or `null`. -/
def optional (d : Decoder α) : Decoder (Option α) := do
  match ← peekValue with
  | some 'n' => advance; keyword "ull".toList; return none
  | _ => return some (← d)

/-! ## Lists -/

/-- Runs a decoder and then another, also after a failure; the first failure wins. -/
def closing (d : Decoder α) (close : Decoder Unit) : Decoder α := fun cursor =>
  match d.run cursor with
  | (.ok a, cursor) => (do close; return a : Decoder α) cursor
  | (.error fault, cursor) => (.error fault, ((close.run cursor).2))

/-- Whether a list goes on. -/
def hasElement (first : Bool) : Decoder Bool := do
  match ← peekValue with
  | none => failAhead .eofInList
  | some ']' => return false
  | some c =>
    if first then return true
    else if c == ',' then
      advance
      match ← peekValue with
      | some ']' => failAhead .trailingComma
      | some _ => return true
      | none => failAhead .eofInValue
    else failAhead .expectedListCommaOrEnd

/-- Reads the end of a list. -/
def endList : Decoder Unit := do
  match ← peekValue with
  | some ']' => advance
  | some ',' =>
    advance
    match ← peekValue with
    | some ']' => failAhead .trailingComma
    | _ => failAhead .trailingCharacters
  | some _ => failAhead .trailingCharacters
  | none => failAhead .eofInList

/-- Reads the elements of a list. -/
def elements (d : Decoder α) (first : Bool) : (rounds : Nat) → Decoder (List α)
  | 0 => pure []
  | n + 1 => do
    if ← hasElement first then
      let a ← d
      return a :: (← elements d false n)
    else return []

def list (d : Decoder α) : Decoder (List α) := do
  if (← firstOfValue) == '[' then
    placed do
      advance
      closing (do elements d true (← rounds)) endList
  else wrongType "a sequence"

end Decoder

end StaticSite.Json
