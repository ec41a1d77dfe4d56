import Companion.Json.Value
import Companion.Text.Digits

/-!
# JSON tokens

A text is cut into tokens up to its end or to the first place where no token can be read; that
place becomes the last token.
-/

namespace Companion
namespace Json

/-- A unit of JSON text. -/
inductive Token where
  | openObject
  | closeObject
  | openList
  | closeList
  | colon
  | comma
  /-- A text in quotes. -/
  | text (value : String)
  /-- A text in quotes with half of a surrogate pair in it, which no string can hold. -/
  | unpairedText
  /-- A number, a truth value or `null`. -/
  | scalar (value : Json)
  /-- A text in quotes that cannot be read. -/
  | brokenText (place : Obstacle)
  /-- Anything else that cannot be read. -/
  | broken (place : Obstacle)

namespace Token

/-- What is left to read, or the token that stops the reading. -/
abbrev Lexed := Except Token (Token × List Char)

/-- The blanks between tokens. -/
def isSpace (c : Char) : Bool := c = ' ' || c = '\n' || c = '\t' || c = '\r'

/-- The fault of a text that stops or goes on with the wrong character. -/
def faultAt : List Char → Fault
  | [] => .cutShort
  | _ => .malformed

/-- A text in quotes that is no text at all, whatever becomes of it. -/
def noText : Token := .brokenText (.plain .malformed)

/-- What the text read so far leaves to be checked. -/
inductive TextState where
  /-- Every surrogate has its pair. -/
  | whole
  /-- The last escape was the first half of a pair. -/
  | awaiting (high : Nat)
  /-- Some surrogate has no pair. -/
  | unpaired

/-- The place where a text stops for a given cause; half a pair before it is met first by one who
takes the text. -/
def TextState.stop (state : TextState) (cause : Fault) : Token :=
  .brokenText (match state with
    | .unpaired => .untaken (some cause)
    | _ => .plain cause)

/-- The state after a character that is no surrogate. -/
def TextState.afterChar : TextState → TextState
  | .whole => .whole
  | _ => .unpaired

/-- The value of four hexadecimal digits. -/
def hexUnit? (a b c d : Char) : Option Nat := Text.numeral? 16 [a, b, c, d]

/-- The text and the state after an escaped UTF-16 unit. -/
def afterUnit (done : List Char) (state : TextState) (unit : Nat) : List Char × TextState :=
  if 0xd800 ≤ unit ∧ unit ≤ 0xdbff then
    (done, match state with | .whole => .awaiting unit | _ => .unpaired)
  else if 0xdc00 ≤ unit ∧ unit ≤ 0xdfff then
    match state with
    | .awaiting high =>
      (Char.ofNat (0x10000 + (high - 0xd800) * 0x400 + (unit - 0xdc00)) :: done, .whole)
    | _ => (done, .unpaired)
  else (Char.ofNat unit :: done, state.afterChar)

/-- The character that a one letter escape stands for. -/
def simpleEscape? : Char → Option Char
  | '"' => some '"'
  | '\\' => some '\\'
  | '/' => some '/'
  | 'b' => some '\x08'
  | 'f' => some '\x0c'
  | 'n' => some '\n'
  | 'r' => some '\r'
  | 't' => some '\t'
  | _ => none

/-- The bytes that a text takes in UTF-8. -/
def byteCount (text : List Char) : Nat := text.foldl (fun total c => total + c.utf8Size) 0

/-- Read the rest of a text after its opening quote; the characters read come last first. -/
def textFrom (done : List Char) (state : TextState) : List Char → Lexed
  | [] => .error (state.stop .cutShort)
  | '"' :: rest =>
    match state with
    | .whole => .ok (.text (String.ofList done.reverse), rest)
    | .awaiting _ => .ok (.unpairedText, rest)
    | .unpaired => .ok (.unpairedText, rest)
  | '\\' :: 'u' :: a :: b :: c :: d :: rest =>
    match hexUnit? a b c d with
    | some unit =>
      let (done, state) := afterUnit done state unit
      textFrom done state rest
    | none => .error noText
  | '\\' :: 'u' :: rest =>
    .error (state.stop (if byteCount rest < 4 then .cutShort else .malformed))
  | '\\' :: c :: rest =>
    match simpleEscape? c with
    | some plain => textFrom (plain :: done) state.afterChar rest
    | none => .error noText
  | '\\' :: [] => .error (state.stop .cutShort)
  | c :: rest =>
    if c < ' ' then .error noText
    else textFrom (c :: done) state.afterChar rest

theorem length_of_textFrom {done : List Char} {state : TextState} {input rest : List Char}
    {token : Token} (read : textFrom done state input = .ok (token, rest)) :
    rest.length ≤ input.length := by
  fun_induction textFrom done state input <;> simp at read ⊢ <;> grind

/-- The number that decimal digits stand for. -/
def digitsValue (digits : List Char) : Nat :=
  digits.foldl (fun total c => total * 10 + (c.toNat - '0'.toNat)) 0

/-- The least number that is too large for a double precision number. -/
def doubleLimit : Nat := Nat.pow 2 1024 - Nat.pow 2 970

/-- Whether `digits * 10 ^ scale` is of finite size in double precision. -/
def fitsDouble (digits : List Char) (scale : Int) : Bool :=
  let significant := digits.dropWhile (· = '0')
  let magnitude : Int := scale + significant.length
  if significant.isEmpty || magnitude < 300 then true
  else if 400 < magnitude then false
  else if 0 ≤ scale then digitsValue significant * Nat.pow 10 scale.toNat < doubleLimit
  else digitsValue significant < doubleLimit * Nat.pow 10 (-scale).toNat

/-- The token of a number too large for its size to be held; it can only be passed over. -/
def oversized : Token := .scalar (.broken (.untaken none))

/-- The token of a number with the given parts. -/
def numberToken (negative : Bool) (whole fraction : List Char) (exponent : Option Int) : Token :=
  if fraction.isEmpty && exponent.isNone then
    let value := digitsValue whole
    if negative && value = 0 then .scalar .decimal
    else if value < doubleLimit then
      .scalar (.integer (if negative then -(value : Int) else value))
    else oversized
  else if fitsDouble (whole ++ fraction) (exponent.getD 0 - fraction.length) then .scalar .decimal
  else oversized

/-- The place where a digit is missing.  One who takes the number asks for more text at the end of
the text; one who passes over it does not. -/
def digitMissing (rest : List Char) : Token :=
  .broken ⟨faultAt rest, some .malformed, .malformed⟩

/-- Take a sign off the front of an exponent: whether it is negative, and what follows. -/
def exponentSign : List Char → Bool × List Char
  | '-' :: rest => (true, rest)
  | '+' :: rest => (false, rest)
  | rest => (false, rest)

/-- Read the exponent of a number, if there is one. -/
def exponentFrom : List Char → Except Token (Option Int × List Char)
  | c :: rest =>
    if c = 'e' ∨ c = 'E' then
      let (negative, rest) := exponentSign rest
      let digits := rest.takeWhile Char.isDigit
      let rest := rest.dropWhile Char.isDigit
      if digits.isEmpty then .error (digitMissing rest)
      else
        let value : Int := digitsValue digits
        .ok (some (if negative then -value else value), rest)
    else .ok (none, c :: rest)
  | [] => .ok (none, [])

/-- Read the digits after the point of a number, if there is one. -/
def fractionFrom : List Char → Except Token (List Char × List Char)
  | '.' :: rest =>
    let digits := rest.takeWhile Char.isDigit
    let rest := rest.dropWhile Char.isDigit
    if digits.isEmpty then .error (digitMissing rest) else .ok (digits, rest)
  | rest => .ok ([], rest)

/-- Read a number without its sign. -/
def numberFrom (negative : Bool) (input : List Char) : Lexed := do
  let whole := input.takeWhile Char.isDigit
  let rest := input.dropWhile Char.isDigit
  match whole with
  | [] => .error (digitMissing rest)
  | '0' :: _ :: _ => .error (.broken (.plain .malformed))
  | _ =>
    let (fraction, rest) ← fractionFrom rest
    let (exponent, rest) ← exponentFrom rest
    return (numberToken negative whole fraction exponent, rest)

theorem length_dropWhile_le (p : Char → Bool) (text : List Char) :
    (text.dropWhile p).length ≤ text.length :=
  (List.dropWhile_sublist p).length_le

theorem length_exponentSign_le (input : List Char) :
    (exponentSign input).2.length ≤ input.length := by
  unfold exponentSign
  split <;> simp

theorem length_of_exponentFrom {input rest : List Char} {exponent : Option Int}
    (read : exponentFrom input = .ok (exponent, rest)) : rest.length ≤ input.length := by
  cases input with
  | nil => simp_all [exponentFrom]
  | cons c tail =>
    have sign_le := length_exponentSign_le tail
    have digits_le := length_dropWhile_le Char.isDigit (exponentSign tail).2
    simp only [exponentFrom] at read
    split at read
    · split at read
      · simp at read
      · obtain ⟨-, rfl⟩ := Prod.mk.inj (Except.ok.inj read)
        simp only [List.length_cons]
        omega
    · obtain ⟨-, rfl⟩ := Prod.mk.inj (Except.ok.inj read)
      simp

theorem length_of_fractionFrom {input digits rest : List Char}
    (read : fractionFrom input = .ok (digits, rest)) : rest.length ≤ input.length := by
  unfold fractionFrom at read
  split at read
  · rename_i tail
    have digits_le := length_dropWhile_le Char.isDigit tail
    dsimp only at read
    split at read
    · simp at read
    · obtain ⟨-, rfl⟩ := Prod.mk.inj (Except.ok.inj read)
      simp only [List.length_cons]
      omega
  · obtain ⟨-, rfl⟩ := Prod.mk.inj (Except.ok.inj read)
    simp

theorem length_of_numberFrom {isNegative : Bool} {input rest : List Char} {token : Token}
    (read : numberFrom isNegative input = .ok (token, rest)) : rest.length < input.length := by
  have parts := congrArg List.length
    (List.takeWhile_append_dropWhile (p := Char.isDigit) (l := input))
  rw [List.length_append] at parts
  simp only [numberFrom] at read
  split at read
  · simp at read
  · simp at read
  · rename_i whole nonempty _
    have := List.length_pos_iff.2 nonempty
    cases fraction_eq : fractionFrom (input.dropWhile Char.isDigit) with
    | error _ => simp [fraction_eq, bind, Except.bind] at read
    | ok fraction =>
      cases exponent_eq : exponentFrom fraction.2 with
      | error _ => simp [fraction_eq, exponent_eq, bind, Except.bind] at read
      | ok exponent =>
        simp only [fraction_eq, exponent_eq, bind, Except.bind, pure, Except.pure,
          Except.ok.injEq, Prod.mk.injEq] at read
        have := length_of_fractionFrom fraction_eq
        have := length_of_exponentFrom exponent_eq
        rw [← read.2]
        omega

/-- Read the rest of a word that stands for a value. -/
def wordFrom (value : Json) : List Char → List Char → Lexed
  | [], rest => .ok (.scalar value, rest)
  | _ :: _, [] => .error (.broken ⟨.cutShort, some .cutShort, .malformed⟩)
  | c :: word, d :: rest =>
    if c = d then wordFrom value word rest else .error (.broken (.plain .malformed))

theorem length_of_wordFrom {value : Json} {word input rest : List Char} {token : Token}
    (read : wordFrom value word input = .ok (token, rest)) : rest.length ≤ input.length := by
  fun_induction wordFrom value word input <;> grind

/-- Read the token that starts with a given character. -/
def next (c : Char) (rest : List Char) : Lexed :=
  match c with
  | '\x7b' => .ok (.openObject, rest)
  | '\x7d' => .ok (.closeObject, rest)
  | '[' => .ok (.openList, rest)
  | ']' => .ok (.closeList, rest)
  | ':' => .ok (.colon, rest)
  | ',' => .ok (.comma, rest)
  | '"' => textFrom [] .whole rest
  | '-' => numberFrom true rest
  | 't' => wordFrom (.bool true) ['r', 'u', 'e'] rest
  | 'f' => wordFrom (.bool false) ['a', 'l', 's', 'e'] rest
  | 'n' => wordFrom .null ['u', 'l', 'l'] rest
  | _ => if c.isDigit then numberFrom false (c :: rest) else .error (.broken (.plain .malformed))

theorem length_of_next {c : Char} {input rest : List Char} {token : Token}
    (read : next c input = .ok (token, rest)) : rest.length < input.length + 1 := by
  unfold next at read
  split at read
  case h_7 => have := length_of_textFrom read; omega
  case h_8 => have := length_of_numberFrom read; omega
  case h_9 => have := length_of_wordFrom read; omega
  case h_10 => have := length_of_wordFrom read; omega
  case h_11 => have := length_of_wordFrom read; omega
  case h_12 =>
    split at read
    · simpa using length_of_numberFrom read
    · simp at read
  all_goals
    obtain ⟨-, rfl⟩ := Prod.mk.inj (Except.ok.inj read)
    omega

end Token

/-- The tokens of a text, ending with the place where none can be read. -/
def tokens : List Char → List Token
  | [] => []
  | c :: rest =>
    if Token.isSpace c then tokens rest
    else
      match _read : Token.next c rest with
      | .ok (token, rest) => token :: tokens rest
      | .error stop => [stop]
termination_by text => text.length
decreasing_by
  · simp
  · have := Token.length_of_next _read
    simpa using this

end Json
end Companion
