/-
  Decoding JSON text straight into values: the cursor, and how decoders fail.

  A decoder reads from a cursor and either gives a value or fails with a cause.  The
  cursor stays where reading stopped even after a failure, because a failure that has
  no position yet gets the position at which the enclosing value is left.
-/

import StaticSite.Json.Error
import StaticSite.Text.Utf8

namespace StaticSite.Json

/-! ## The cursor -/

/-- The bytes that are left, and the position in front of them. -/
structure Cursor where
  rest : List UInt8
  position : Position := {}

namespace Cursor

/-- The cursor after its first byte. -/
def advance (c : Cursor) : Cursor :=
  match c.rest with
  | [] => c
  | b :: rest =>
    if b == '\n'.toUInt8 then ⟨rest, ⟨c.position.line + 1, 0⟩⟩
    else ⟨rest, { c.position with column := c.position.column + 1 }⟩

/-- The cursor after the first so many bytes. -/
def skip : Nat → Cursor → Cursor
  | 0, c => c
  | n + 1, c => skip n c.advance

/-- The position after the next byte. -/
def ahead (c : Cursor) : Position := c.advance.position

end Cursor

/-! ## Decoders -/

/-- A failure, which may not have a position yet. -/
structure Fault where
  cause : Cause
  position? : Option Position := none
  deriving Repr

abbrev Decoder := ExceptT Fault (StateM Cursor)

namespace Decoder

/-- Fails without a position. -/
def fail (cause : Cause) : Decoder α := throw { cause }

/-- Fails at the position that was reached. -/
def failHere (cause : Cause) : Decoder α := do
  throw { cause, position? := (← get).position }

/-- Fails at the position after the next byte. -/
def failAhead (cause : Cause) : Decoder α := do
  throw { cause, position? := (← get).ahead }

/-- Gives a failure without a position the position that was reached. -/
def placed (d : Decoder α) : Decoder α :=
  tryCatch d fun fault => do
    throw { fault with position? := fault.position?.or (some (← get).position) }

def peek : Decoder (Option Char) := do
  return (← get).rest.head?.map fun b => Char.ofNat b.toNat

def advance : Decoder Unit := modify Cursor.advance

/-- Reads one byte. -/
def next : Decoder (Option Char) := do
  let c ← peek
  advance
  return c

/-- As many rounds as there are bytes left: no loop that reads a byte each time runs out of them. -/
def rounds : Decoder Nat := do
  return (← get).rest.length + 1

/-- Skips bytes as long as they satisfy the condition. -/
def skipWhile (p : Char → Bool) : (rounds : Nat) → Decoder Unit
  | 0 => pure ()
  | n + 1 => do
    if (← peek).any p then
      advance
      skipWhile p n

def isBlank (c : Char) : Bool := c == ' ' || c == '\n' || c == '\t' || c == '\r'

/-- Skips blanks and looks at the next byte. -/
def peekValue : Decoder (Option Char) := do
  skipWhile isBlank (← rounds)
  peek

/-- Looks at the first byte of a value, which must be there. -/
def firstOfValue : Decoder Char := do
  match ← peekValue with
  | some c => return c
  | none => failAhead .eofInValue

/-- Reads the rest of a keyword. -/
def keyword : List Char → Decoder Unit
  | [] => pure ()
  | c :: cs => do
    match ← next with
    | none => failHere .eofInValue
    | some d => if d == c then keyword cs else failHere .expectedIdent

end Decoder

end StaticSite.Json
