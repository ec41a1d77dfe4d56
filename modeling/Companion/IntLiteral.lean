import Companion.Text.Blank
import Companion.Text.Digits

/-!
# Integer literals

The value of a 32-bit integer literal in source text: decimal or hexadecimal, with an optional
sign and underscores between the digits.
-/

namespace Companion
namespace IntLiteral

open Text

/-- The 32-bit number of a value, when it is in range. -/
def inRange? (value : Int) : Option Int32 :=
  if -0x80000000 ≤ value ∧ value < 0x80000000 then some (Int32.ofInt value) else none

/-- Hexadecimal digits name a pattern of 32 bits, which is read as a signed number. -/
def ofHex? (digits : List Char) : Option Int32 :=
  (signedNumeral? 16 digits).bind fun value =>
    if value < UInt32.size then some (Int32.ofInt value) else none

/-- Decimal digits, with a sign of their own, name a number in range. -/
def ofDecimal? (digits : List Char) : Option Int32 :=
  match digits with
  | '-' :: digits => (numeral? 10 digits).bind fun value => inRange? (-value)
  | _ => (signedNumeral? 10 digits).bind fun value => inRange? value

/-- The magnitude of a literal without its leading minus sign. -/
def magnitude? (digits : List Char) : Option Int32 :=
  match digits with
  | '0' :: 'x' :: digits => ofHex? digits
  | '0' :: 'X' :: digits => ofHex? digits
  | _ => ofDecimal? digits

/-- The value of a literal; blanks around it and underscores in it do not count. -/
def value? (text : String) : Option Int32 :=
  match (trim text.toList).filter (· ≠ '_') with
  | '-' :: digits => (magnitude? digits).map fun value => -value
  | digits => magnitude? digits

end IntLiteral
end Companion
