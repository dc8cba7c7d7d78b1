/-
  Reading bytes as UTF-8.

  Bytes that are not UTF-8 do not fail: each longest piece that starts like a
  character but is none stands for one replacement character.  `decodeUnits` keeps
  the difference between a replacement and a character that was written.
-/

namespace StaticSite.Text

/-- A character that has been begun: how many bytes are missing, its bits so far, and the bounds of
the next byte. -/
structure Pending where
  missing : Nat
  bits : Nat
  low : Nat := 0x80
  high : Nat := 0xBF

/-- What a byte means where a character may begin: a character, nothing, or a beginning. -/
def startUnit (b : UInt8) : List (Option Char) × Option Pending :=
  let n := b.toNat
  if n < 0x80 then ([some (Char.ofNat n)], none)
  else if n < 0xC2 then ([none], none)
  else if n < 0xE0 then ([], some { missing := 1, bits := n - 0xC0 })
  else if n == 0xE0 then ([], some { missing := 2, bits := 0, low := 0xA0 })
  else if n == 0xED then ([], some { missing := 2, bits := 0xD, high := 0x9F })
  else if n < 0xF0 then ([], some { missing := 2, bits := n - 0xE0 })
  else if n == 0xF0 then ([], some { missing := 3, bits := 0, low := 0x90 })
  else if n < 0xF4 then ([], some { missing := 3, bits := n - 0xF0 })
  else if n == 0xF4 then ([], some { missing := 3, bits := 4, high := 0x8F })
  else ([none], none)

/-- Reads bytes, after a character that may have been begun; `none` marks a piece that is none. -/
def decodeFrom : Option Pending → List UInt8 → List (Option Char)
  | none, [] => []
  | some _, [] => [none]
  | none, b :: rest => let (out, next) := startUnit b; out ++ decodeFrom next rest
  | some p, b :: rest =>
    let n := b.toNat
    if p.low ≤ n && n ≤ p.high then
      let bits := p.bits * 64 + (n - 0x80)
      if p.missing ≤ 1 then some (Char.ofNat bits) :: decodeFrom none rest
      else decodeFrom (some { missing := p.missing - 1, bits }) rest
    else let (out, next) := startUnit b; none :: out ++ decodeFrom next rest

/-- The characters of a byte sequence, with `none` for every piece that is no character. -/
def decodeUnits (bytes : List UInt8) : List (Option Char) := decodeFrom none bytes

/-- The text of a byte sequence, with a replacement character for every piece that is none. -/
def decodeLossy (bytes : List UInt8) : String :=
  String.ofList ((decodeUnits bytes).map (·.getD '\ufffd'))

/-- The text of a byte sequence, if it is UTF-8 throughout. -/
def decode? (bytes : List UInt8) : Option String :=
  ((decodeUnits bytes).mapM id).map String.ofList

/-- The bytes of a text. -/
def encode (s : String) : List UInt8 := s.toUTF8.toList

end StaticSite.Text
