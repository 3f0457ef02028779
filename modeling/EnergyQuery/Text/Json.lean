/-
  JSON text: objects of strings, one line per entry, indented by two blanks.

  Quotation marks, backslashes and control characters are escaped, and nothing
  else is.
-/

namespace EnergyQuery.Text.Json

/-- The hexadecimal digit of a number below 16. -/
def hexDigit (n : Nat) : Char :=
  Char.ofNat (if n < 10 then '0'.toNat + n else 'a'.toNat + (n - 10))

/-- The written form of a character inside a string. -/
def escape (c : Char) : List Char :=
  match c with
  | '"' => ['\\', '"']
  | '\\' => ['\\', '\\']
  | '\n' => ['\\', 'n']
  | '\r' => ['\\', 'r']
  | '\t' => ['\\', 't']
  | '\x08' => ['\\', 'b']
  | '\x0c' => ['\\', 'f']
  | c =>
    if c.toNat < 0x20 then ['\\', 'u', '0', '0', hexDigit (c.toNat / 16), hexDigit (c.toNat % 16)]
    else [c]

/-- A string between quotation marks. -/
def string (s : String) : String :=
  String.ofList ('"' :: (s.toList.flatMap escape ++ ['"']))

/-- An object inside an array. -/
def object (entries : List (String × String)) : String :=
  let lines := entries.map fun (key, value) => "    " ++ string key ++ ": " ++ string value
  "  \x7b\n" ++ ",\n".intercalate lines ++ "\n  \x7d"

/-- An array of objects; each object has an entry. -/
def array (objects : List (List (String × String))) : String :=
  "[\n" ++ ",\n".intercalate (objects.map object) ++ "\n]"

end EnergyQuery.Text.Json
