/-
  Records and choices, and decoding a whole text.
-/

import StaticSite.Json.Decoder.Value
import StaticSite.Json.Decoder.Skip

namespace StaticSite.Json

namespace Decoder

/-! ## Records -/

/-- A field of a record: its key, and how its value changes the record. -/
structure Field (σ : Type) where
  name : String
  update : Decoder (σ → σ)

/-- A field that is read by a decoder and then stored. -/
def Field.of (name : String) (d : Decoder α) (store : α → σ → σ) : Field σ :=
  ⟨name, store <$> d⟩

/-- A kind of record. -/
structure Record (σ : Type) where
  /-- What is expected, for messages. -/
  expected : String
  fields : List (Field σ)
  /-- Whether other keys are refused. -/
  strict : Bool
  /-- The record before any field is read. -/
  initial : σ

/-- Whether an object goes on; then the next byte opens a key. -/
def hasKey (first : Bool) : Decoder Bool := do
  let next ← match ← peekValue with
    | none => failAhead .eofInObject
    | some '\x7d' => return false
    | some c =>
      if first then pure (some c)
      else if c == ',' then do
        advance
        peekValue
      else failAhead .expectedObjectCommaOrEnd
  match next with
  | some '"' => return true
  | some '\x7d' => failAhead .trailingComma
  | some _ => failAhead .keyNotString
  | none => failAhead .eofInValue

def colon : Decoder Unit := do
  match ← peekValue with
  | some ':' => advance
  | some _ => failAhead .expectedColon
  | none => failAhead .eofInObject

/-- Reads the end of an object. -/
def endObject : Decoder Unit := do
  match ← peekValue with
  | some '\x7d' => advance
  | some ',' => failAhead .trailingComma
  | some _ => failAhead .trailingCharacters
  | none => failAhead .eofInObject

/-- Reads the keys and values of an object. -/
def fieldsOf (r : Record σ) (value : σ) (seen : List String) (first : Bool) :
    (rounds : Nat) → Decoder σ
  | 0 => pure value
  | n + 1 => do
    if ← hasKey first then
      advance
      let key ← stringBody
      match r.fields.find? (·.name == key) with
      | some field =>
        if seen.contains key then fail (.duplicateField key)
        colon
        fieldsOf r ((← field.update) value) (key :: seen) false n
      | none =>
        if r.strict then fail (.unknownField key (r.fields.map (·.name)))
        colon
        skipValue
        fieldsOf r value seen false n
    else return value

/-- Reads the values of the fields in their order, as many as there are. -/
def fieldsInOrder (value : σ) (first : Bool) : List (Field σ) → Decoder σ
  | [] => pure value
  | field :: rest => do
    if ← hasElement first then fieldsInOrder ((← field.update) value) false rest
    else return value

/-- A record, written as an object or as the list of its values. -/
def record (r : Record σ) : Decoder σ := do
  match ← firstOfValue with
  | '[' => placed do
    advance
    closing (fieldsInOrder r.initial true r.fields) endList
  | '\x7b' => placed do
    advance
    closing (do fieldsOf r r.initial [] true (← rounds)) endObject
  | _ => wrongType r.expected

/-! ## Choices -/

/-- The value that a name stands for. -/
def chosen (choices : List (String × α)) (name : String) : Decoder α :=
  match choices.lookup name with
  | some a => pure a
  | none => fail (.unknownVariant name (choices.map (·.1)))

/-- The key of an object that maps a name to `null`. -/
def variantKey (name : Decoder α) : Decoder α := do
  match ← peekValue with
  | some '"' | some '\x7d' | none => name
  | some _ => failAhead .keyNotString

/-- One of several names, written as a string or as an object that maps it to `null`. -/
def choice (choices : List (String × α)) : Decoder α := do
  let name := stringWith "variant identifier" (chosen choices)
  match ← peekValue with
  | some '"' => name
  | some '\x7b' =>
    advance
    let a ← variantKey name
    colon
    if (← firstOfValue) == 'n' then
      advance
      keyword "ull".toList
    else wrongType "unit"
    match ← peekValue with
    | some '\x7d' => advance; return a
    | some _ => failHere .expectedValue
    | none => failHere .eofInObject
  | some _ => failAhead .expectedValue
  | none => failAhead .eofInValue

/-! ## Whole texts -/

/-- Decodes a whole text. -/
def decode (d : Decoder α) (text : String) : Except Error α :=
  let whole : Decoder α := do
    let a ← d
    if (← peekValue).isSome then failAhead .trailingCharacters
    return a
  match whole.run { rest := Text.encode text } with
  | (.ok a, _) => .ok a
  | (.error fault, cursor) =>
    .error { cause := fault.cause, position := fault.position?.getD cursor.position }

end Decoder

end StaticSite.Json
