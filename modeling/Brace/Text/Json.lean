namespace Brace.Text.Json

/-!
# Compact JSON

Writers for JSON text without any space between its parts.  Members of an object keep the order
in which they are given.
-/

/-- How a character is written inside a JSON string. -/
def escape (c : Char) : List Char :=
  if c = '"' then ['\\', '"']
  else if c = '\\' then ['\\', '\\']
  else if c = '\n' then ['\\', 'n']
  else if c = '\r' then ['\\', 'r']
  else if c = '\t' then ['\\', 't']
  else if c = '\x08' then ['\\', 'b']
  else if c = '\x0c' then ['\\', 'f']
  else if c.toNat < 0x20 then
    ['\\', 'u', '0', '0', Nat.digitChar (c.toNat / 16), Nat.digitChar (c.toNat % 16)]
  else [c]

/-- A JSON string. -/
def string (s : String) : String :=
  String.ofList ('"' :: s.toList.flatMap escape ++ ['"'])

/-- A JSON number. -/
def number (n : Nat) : String :=
  toString n

/-- A JSON number, or `null` when there is none. -/
def number? : Option Nat → String
  | some n => number n
  | none => "null"

/-- A JSON array of written values. -/
def array (values : List String) : String :=
  "[" ++ ",".intercalate values ++ "]"

/-- A JSON object of names and written values. -/
def object (members : List (String × String)) : String :=
  "\x7b" ++ ",".intercalate (members.map fun member => string member.1 ++ ":" ++ member.2) ++ "\x7d"

end Brace.Text.Json
