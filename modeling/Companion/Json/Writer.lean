import Companion.Json.Value

/-!
# Writing JSON

Values are written on one line.  Quotes, backslashes and control characters are escaped; every
other character stands for itself.
-/

namespace Companion
namespace Json

/-- The last hexadecimal digit of a number. -/
def hexDigit (value : Nat) : Char := Nat.digitChar (value % 16)

/-- A character as it is written in a text. -/
def escape (c : Char) : List Char :=
  if c = '"' then ['\\', '"']
  else if c = '\\' then ['\\', '\\']
  else if c = '\n' then ['\\', 'n']
  else if c = '\r' then ['\\', 'r']
  else if c = '\t' then ['\\', 't']
  else if c < ' ' then ['\\', 'u', '0', '0', hexDigit (c.toNat / 16), hexDigit c.toNat]
  else [c]

/-- A text in quotes. -/
def quote (text : String) : String :=
  String.ofList ('"' :: text.toList.flatMap escape ++ ['"'])

mutual

/-- The text of a value; what could not be read is written as `null`. -/
def render : Json → String
  | .bool true => "true"
  | .bool false => "false"
  | .integer value => toString value
  | .text value => quote value
  | .list items _ => "[" ++ renderItems items ++ "]"
  | .object entries _ => "\x7b" ++ renderEntries entries ++ "\x7d"
  | _ => "null"

/-- The items of a list, separated by commas. -/
def renderItems : List Json → String
  | [] => ""
  | [item] => render item
  | item :: rest => render item ++ "," ++ renderItems rest

/-- The entries of an object, separated by commas. -/
def renderEntries : List (String × Json) → String
  | [] => ""
  | [(key, value)] => quote key ++ ":" ++ render value
  | (key, value) :: rest => quote key ++ ":" ++ render value ++ "," ++ renderEntries rest

end

end Json
end Companion
