import Companion.Text.Digits
import Companion.Toml.Value

/-!
# Quoted texts of TOML

Texts stand in double quotes, where a backslash starts an escape, or in single quotes, where it is
a character like any other.  Three quotes start a text that may have several lines.
-/

namespace Companion
namespace Toml

/-- The blanks inside a line. -/
def isSpace (c : Char) : Bool := c = ' ' || c = '\t'

/-- Whether a character may stand for itself in a text or a comment. -/
def isPlain (c : Char) : Bool := c = '\t' || (' ' ≤ c && c ≠ '\x7f')

/-- How a text is quoted. -/
structure Quoting where
  /-- The quote. -/
  quote : Char
  /-- Whether three quotes are on each side. -/
  isLong : Bool
  deriving DecidableEq, Repr

/-- What the characters read so far leave open in a text. -/
inductive QuotedMode where
  /-- Nothing. -/
  | plain
  /-- A backslash. -/
  | escaped
  /-- The code of a character, with a number of digits to come. -/
  | code (value left : Nat)
  /-- A backslash and blanks, with the end of the line to come. -/
  | breaking
  /-- A line that a backslash joins to the next character which is no blank. -/
  | joining
  /-- A number of quotes. -/
  | quotes (count : Nat)
  deriving DecidableEq, Repr

namespace Quoting

/-- The character that a one letter escape stands for. -/
def simpleEscape? : Char → Option Char
  | '"' => some '"'
  | '\\' => some '\\'
  | 'b' => some '\x08'
  | 'f' => some '\x0c'
  | 'n' => some '\n'
  | 'r' => some '\r'
  | 't' => some '\t'
  | _ => none

/-- The character of a code, unless the code is half of a surrogate pair or too large. -/
def character? (code : Nat) : Option Char :=
  if code.isValidChar then some (Char.ofNat code) else none

/-- The text that ends before the next character.  A long text may have two quotes before those
that close it. -/
def close? (quoting : Quoting) (mode : QuotedMode) (done : List Char) : Option String :=
  match mode with
  | .quotes count =>
    if !quoting.isLong then some (String.ofList done.reverse)
    else if 3 ≤ count ∧ count ≤ 5 then
      some (String.ofList (List.replicate (count - 3) quoting.quote ++ done).reverse)
    else none
  | _ => none

/-- Go on with a character when nothing is left open. -/
def plainStep (quoting : Quoting) (done : List Char) (c : Char) :
    Option (QuotedMode × List Char) :=
  if c = quoting.quote then some (.quotes 1, done)
  else if c = '\\' ∧ quoting.quote = '"' then some (.escaped, done)
  else if isPlain c || (c = '\n' && quoting.isLong) then some (.plain, c :: done)
  else none

/-- Go on with a character after a backslash. -/
def escapedStep (quoting : Quoting) (done : List Char) (c : Char) :
    Option (QuotedMode × List Char) :=
  if c = 'u' then some (.code 0 4, done)
  else if c = 'U' then some (.code 0 8, done)
  else match simpleEscape? c with
    | some plain => some (.plain, plain :: done)
    | none =>
      if !quoting.isLong then none
      else if isSpace c then some (.breaking, done)
      else if c = '\n' then some (.joining, done)
      else none

/-- Go on with a character that does not close the text; the characters read come last first. -/
def step (quoting : Quoting) (mode : QuotedMode) (done : List Char) (c : Char) :
    Option (QuotedMode × List Char) :=
  match mode with
  | .plain => quoting.plainStep done c
  | .escaped => quoting.escapedStep done c
  | .code value left => do
    let value := value * 16 + (← Text.digit? 16 c)
    if left ≤ 1 then return (.plain, (← character? value) :: done)
    else return (.code value (left - 1), done)
  | .breaking =>
    if isSpace c then some (.breaking, done)
    else if c = '\n' then some (.joining, done)
    else none
  | .joining =>
    if isSpace c || c = '\n' then some (.joining, done) else quoting.plainStep done c
  | .quotes count =>
    if c = quoting.quote then if count < 5 then some (.quotes (count + 1), done) else none
    else quoting.plainStep (List.replicate count quoting.quote ++ done) c

/-- Read a text after the quotes that open it. -/
def textFrom (quoting : Quoting) (mode : QuotedMode) (done : List Char) :
    List Char → Option (String × List Char)
  | [] => (quoting.close? mode done).map (·, [])
  | c :: rest =>
    let closed := if quoting.isLong ∧ c = quoting.quote then none else quoting.close? mode done
    match closed with
    | some content => some (content, c :: rest)
    | none =>
      match quoting.step mode done c with
      | some (mode, done) => textFrom quoting mode done rest
      | none => none

theorem length_of_textFrom {quoting : Quoting} {mode : QuotedMode} {done input rest : List Char}
    {content : String} (read : textFrom quoting mode done input = some (content, rest)) :
    rest.length ≤ input.length := by
  induction input generalizing mode done with
  | nil =>
    obtain ⟨_, -, equal⟩ := Option.map_eq_some_iff.1 read
    simp [← (Prod.mk.inj equal).2]
  | cons c tail ih =>
    simp only [textFrom] at read
    split at read
    · simp [← (Prod.mk.inj (Option.some.inj read)).2]
    · split at read
      · exact Nat.le_succ_of_le (ih read)
      · simp at read

/-- A text of several lines starts after the line of its quotes. -/
def dropLineEnd : List Char → List Char
  | '\n' :: rest => rest
  | rest => rest

theorem length_dropLineEnd_le (input : List Char) :
    (dropLineEnd input).length ≤ input.length := by
  unfold dropLineEnd
  split <;> simp

end Quoting

/-- What is left of a text when something is taken off its front. -/
abbrev Rest (input : List Char) := { rest : List Char // rest.length < input.length }

/-- Read a text on one line, with the quote that it starts with. -/
def shortText? : (input : List Char) → Option (String × Rest input)
  | [] => none
  | c :: input =>
    if c = '"' ∨ c = '\'' then
      match read : Quoting.textFrom ⟨c, false⟩ .plain [] input with
      | some (content, rest) =>
        some (content, ⟨rest, Nat.lt_succ_of_le (Quoting.length_of_textFrom read)⟩)
      | none => none
    else none

/-- Read a text that may have several lines, with the quotes that it starts with. -/
def longText? : (input : List Char) → Option (String × Rest input)
  | a :: b :: c :: input =>
    if (a = '"' ∨ a = '\'') ∧ b = a ∧ c = a then
      match read : Quoting.textFrom ⟨a, true⟩ .plain [] (Quoting.dropLineEnd input) with
      | some (content, rest) =>
        some (content, ⟨rest, by
          have := Quoting.length_of_textFrom read
          have := Quoting.length_dropLineEnd_le input
          simp only [List.length_cons]
          omega⟩)
      | none => none
    else none
  | _ => none

end Toml
end Companion
