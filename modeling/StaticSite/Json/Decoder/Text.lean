/-
  Strings in JSON text.
-/

import StaticSite.Json.Decoder.Basic

namespace StaticSite.Json

namespace Decoder

/-! ## Strings -/

/-- Reads four hexadecimal digits; all four bytes are read before they are looked at. -/
def hexEscape : Decoder Nat := do
  let cursor ← get
  let bytes := cursor.rest.take 4
  modify (Cursor.skip bytes.length)
  if bytes.length < 4 then failHere .eofInString
  else
    let digit? (b : UInt8) : Option Nat :=
      let c := Char.ofNat b.toNat
      if c.isDigit then some (c.toNat - '0'.toNat)
      else if 'a' ≤ c.toLower && c.toLower ≤ 'f' then some (c.toLower.toNat - 'a'.toNat + 10)
      else none
    match bytes.mapM digit? with
    | some digits => return digits.foldl (fun n d => n * 16 + d) 0
    | none => failHere .invalidEscape

/-- Reads one byte of an escape that must not be cut off. -/
def escapeByte (expected : Char) : Decoder Unit := do
  match ← peek with
  | none => failHere .eofInString
  | some c =>
    advance
    if c != expected then failHere .unexpectedEndOfEscape

/-- Reads the digits of a Unicode escape; a pair of surrogates is one character. -/
def unicodeEscape : Decoder Char := do
  let n ← hexEscape
  if 0xDC00 ≤ n && n ≤ 0xDFFF then failHere .loneSurrogate
  else if 0xD800 ≤ n && n ≤ 0xDBFF then
    escapeByte '\\'
    escapeByte 'u'
    let low ← hexEscape
    if low < 0xDC00 || 0xDFFF < low then failHere .loneSurrogate
    else return Char.ofNat (0x10000 + (n - 0xD800) * 0x400 + (low - 0xDC00))
  else return Char.ofNat n

/-- What a one-letter escape stands for. -/
def simpleEscape? : Char → Option Char
  | '"' => some '"'
  | '\\' => some '\\'
  | '/' => some '/'
  | 'b' => some '\x08'
  | 'f' => some '\x0c'
  | 'n' => some '\n'
  | 'r' => some '\r'
  | 't' => some '\t'
  | _ => none

/-- Reads an escape after its backslash. -/
def escape : Decoder Char := do
  match ← next with
  | none => failHere .eofInString
  | some 'u' => unicodeEscape
  | some c =>
    match simpleEscape? c with
    | some d => return d
    | none => failHere .invalidEscape

/-- Reads a string after its opening quote; `read` holds its bytes, the last one first. -/
def stringRest (read : List UInt8) : (rounds : Nat) → Decoder String
  | 0 => failHere .eofInString
  | n + 1 => do
    match (← get).rest with
    | [] => failHere .eofInString
    | b :: _ =>
      advance
      if b == '"'.toUInt8 then return Text.decodeLossy read.reverse
      else if b == '\\'.toUInt8 then
        let c ← escape
        stringRest ((Text.encode (String.singleton c)).reverse ++ read) n
      else if b < 0x20 then failHere .controlCharacter
      else stringRest (b :: read) n

/-- Reads a string after its opening quote. -/
def stringBody : Decoder String := do
  stringRest [] (← rounds)

end Decoder

end StaticSite.Json
