/-!
# Numerals

Digits of bases up to sixteen, in either case, and the numbers that rows of them stand for.
-/

namespace Companion
namespace Text

/-- The value of a digit of some base. -/
def digit? (base : Nat) (c : Char) : Option Nat :=
  let value? :=
    if '0' ≤ c ∧ c ≤ '9' then some (c.toNat - '0'.toNat)
    else if 'a' ≤ c ∧ c ≤ 'f' then some (c.toNat - 'a'.toNat + 10)
    else if 'A' ≤ c ∧ c ≤ 'F' then some (c.toNat - 'A'.toNat + 10)
    else none
  value?.filter (· < base)

/-- The number that a row of digits stands for, continued from the digits before it. -/
def numeralFrom? (base : Nat) (value : Nat) : List Char → Option Nat
  | [] => some value
  | c :: rest => (digit? base c).bind fun digit => numeralFrom? base (value * base + digit) rest

/-- The number that a row of at least one digit stands for. -/
def numeral? (base : Nat) : List Char → Option Nat
  | [] => none
  | digits => numeralFrom? base 0 digits

/-- A row of digits after an optional plus sign. -/
def signedNumeral? (base : Nat) : List Char → Option Nat
  | '+' :: digits => numeral? base digits
  | digits => numeral? base digits

end Text
end Companion
