import Companion.Text.Digits
import Companion.Toml.Value

/-!
# Words of TOML

A word is a row of letters, digits and a few signs that stands for a truth value, a number, a date
or a time.
-/

namespace Companion
namespace Toml

/-- Whether a character belongs to words. -/
def isWordChar (c : Char) : Bool :=
  c.isAlphanum || c = '+' || c = '-' || c = '_' || c = '.' || c = ':'

/-- The number of digits in rows that single underscores join. -/
def joinedDigits? (base : Nat) (digits : List Char) : Option Nat :=
  let rows := digits.splitOn '_'
  if rows.any List.isEmpty then none else Text.numeral? base rows.flatten

/-- The number of decimal digits without a superfluous zero in front. -/
def decimal? : List Char → Option Nat
  | '0' :: _ :: _ => none
  | digits => joinedDigits? 10 digits

/-- The integer that a word stands for, whatever its size. -/
def unboundedInteger? : List Char → Option Int
  | '0' :: 'x' :: digits => (joinedDigits? 16 digits).map Int.ofNat
  | '0' :: 'o' :: digits => (joinedDigits? 8 digits).map Int.ofNat
  | '0' :: 'b' :: digits => (joinedDigits? 2 digits).map Int.ofNat
  | '-' :: digits => (decimal? digits).map fun value => -Int.ofNat value
  | '+' :: digits => (decimal? digits).map Int.ofNat
  | digits => (decimal? digits).map Int.ofNat

/-- The integer that a word stands for; it has 64 bits. -/
def integer? (word : List Char) : Option Int :=
  (unboundedInteger? word).filter fun value =>
    Int64.minValue.toInt ≤ value ∧ value ≤ Int64.maxValue.toInt

/-- A number without its sign. -/
def unsigned : List Char → List Char
  | '-' :: rest => rest
  | '+' :: rest => rest
  | rest => rest

/-- Whether a row has digits only, in rows that single underscores join. -/
def areDigits (digits : List Char) : Bool := (joinedDigits? 10 digits).isSome

/-- Whether a word is a number with a point or an exponent, or no number at all. -/
def isReal (word : List Char) : Bool :=
  let body := unsigned word
  let isExponentMark := fun c => c = 'e' || c = 'E'
  let mantissa := body.takeWhile fun c => !isExponentMark c
  let exponent := body.dropWhile fun c => !isExponentMark c
  let whole := mantissa.takeWhile (· ≠ '.')
  let fraction := mantissa.dropWhile (· ≠ '.')
  body = ['i', 'n', 'f'] || body = ['n', 'a', 'n'] ||
    ((fraction ≠ [] || exponent ≠ []) && (decimal? whole).isSome &&
      (fraction = [] || areDigits (fraction.drop 1)) &&
      (exponent = [] || areDigits (unsigned (exponent.drop 1))))

/-- Whether two digits stand for a number up to a limit. -/
def isPair (low high : Nat) (a b : Char) : Bool :=
  match Text.numeral? 10 [a, b] with
  | some value => low ≤ value ∧ value ≤ high
  | none => false

/-- The number of days of a month. -/
def daysOf (year month : Nat) : Nat :=
  if month = 2 then
    if year % 4 = 0 ∧ (year % 100 ≠ 0 ∨ year % 400 = 0) then 29 else 28
  else if month = 4 ∨ month = 6 ∨ month = 9 ∨ month = 11 then 30 else 31

/-- Take a date off the front of a word. -/
def afterDate? : List Char → Option (List Char)
  | a :: b :: c :: d :: '-' :: e :: f :: '-' :: g :: h :: rest => do
    let year ← Text.numeral? 10 [a, b, c, d]
    let month ← Text.numeral? 10 [e, f]
    if isPair 1 12 e f && isPair 1 (daysOf year month) g h then some rest else none
  | _ => none

/-- Take a fraction of a second off the front of a word. -/
def afterFraction? : List Char → Option (List Char)
  | '.' :: rest =>
    if (rest.takeWhile Char.isDigit).isEmpty then none else some (rest.dropWhile Char.isDigit)
  | rest => some rest

/-- Take a time of day off the front of a word. -/
def afterTime? : List Char → Option (List Char)
  | a :: b :: ':' :: c :: d :: ':' :: e :: f :: rest =>
    if isPair 0 23 a b && isPair 0 59 c d && isPair 0 60 e f then afterFraction? rest else none
  | _ => none

/-- Whether a word names the distance to universal time, or is empty. -/
def isOffset : List Char → Bool
  | [] => true
  | ['Z'] => true
  | ['z'] => true
  | [sign, a, b, ':', c, d] => (sign = '+' || sign = '-') && isPair 0 23 a b && isPair 0 59 c d
  | _ => false

/-- Whether a word is a date, a time or both. -/
def isMoment (word : List Char) : Bool :=
  match afterDate? word with
  | some [] => true
  | some (c :: rest) =>
    (c = 'T' || c = 't' || c = ' ') && ((afterTime? rest).map isOffset).getD false
  | none => afterTime? word = some []

/-- The value that a word stands for. -/
def ofWord? (word : List Char) : Option Toml :=
  if word = ['t', 'r', 'u', 'e'] then some (.boolean true)
  else if word = ['f', 'a', 'l', 's', 'e'] then some (.boolean false)
  else match integer? word with
    | some value => some (.integer value)
    | none => if isReal word || isMoment word then some .uncounted else none

end Toml
end Companion
