/-
  Writing JSON, indented by two spaces.
-/

namespace StaticSite.Json

/-- A JSON value as it is written. -/
inductive Written where
  | boolean (value : Bool)
  | natural (value : Nat)
  | string (value : String)
  | object (fields : List (String × Written))

/-- A lower-case hexadecimal number of two digits. -/
def twoHex (n : Nat) : List Char :=
  (if n < 16 then ['0'] else []) ++ Nat.toDigits 16 n

/-- A character as it stands in a JSON string. -/
def escapeChar (c : Char) : List Char :=
  if c == '"' then ['\\', '"']
  else if c == '\\' then ['\\', '\\']
  else if c == '\x08' then ['\\', 'b']
  else if c == '\x0c' then ['\\', 'f']
  else if c == '\n' then ['\\', 'n']
  else if c == '\r' then ['\\', 'r']
  else if c == '\t' then ['\\', 't']
  else if c.toNat < 0x20 then ['\\', 'u', '0', '0'] ++ twoHex c.toNat
  else [c]

def quote (s : String) : String :=
  String.ofList ('"' :: s.toList.flatMap escapeChar ++ ['"'])

mutual

/-- The value, for a line that is indented by the given number of spaces. -/
def Written.render (indent : Nat) : Written → String
  | .boolean value => if value then "true" else "false"
  | .natural value => toString value
  | .string value => quote value
  | .object [] => "\x7b\x7d"
  | .object (field :: rest) =>
    "\x7b\n" ++ Written.renderFields (indent + 2) (field :: rest)
      ++ "\n" ++ "".pushn ' ' indent ++ "\x7d"

/-- The fields of an object, one a line. -/
def Written.renderFields (indent : Nat) : List (String × Written) → String
  | [] => ""
  | [(name, value)] => "".pushn ' ' indent ++ quote name ++ ": " ++ value.render indent
  | (name, value) :: rest =>
    "".pushn ' ' indent ++ quote name ++ ": " ++ value.render indent
      ++ ",\n" ++ Written.renderFields indent rest

end

end StaticSite.Json
