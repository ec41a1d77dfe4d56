import Companion.Text.Blank

/-!
# Cutting texts into pieces

Cutting a text at a pattern, at dots, at lines and at the commas that stand outside angle brackets.
No piece is longer than the text it was cut from.
-/

namespace Companion
namespace Text

/-- What stands before and after the first occurrence of a pattern. -/
def cut? (pattern : List Char) : List Char → Option (List Char × List Char)
  | [] => if pattern = [] then some ([], []) else none
  | c :: rest =>
    match pattern.isPrefixOf? (c :: rest) with
    | some after => some ([], after)
    | none => (cut? pattern rest).map fun (before, after) => (c :: before, after)

/-- Join texts with a separator between them. -/
def joined (separator : String) (pieces : List String) : String := separator.intercalate pieces

/-- The segments of a dotted name. -/
def segments (name : String) : List String := (name.toList.splitOn '.').map String.ofList

/-- The dotted name with given segments. -/
def dotted (names : List String) : String := joined "." names

/-- What stands before and after the last dot of a name, if it has one. -/
def splitLast? (name : String) : Option (String × String) :=
  match (segments name).reverse with
  | [] => none
  | [_] => none
  | last :: before => some (dotted before.reverse, last)

/-- What stands after the last dot of a name. -/
def lastSegment (name : String) : String := (segments name).getLast?.getD name

/-- A line without the carriage return that may stand before its line feed. -/
def dropReturn (line : List Char) : List Char := (['\r'].isSuffixOf? line).getD line

/-- The lines of a text.  Each line feed ends a line; what follows the last one is a line of its
own unless it is empty. -/
def lines (text : String) : List String :=
  let pieces := text.toList.splitOn '\n'
  let last := pieces.getLast?.getD []
  (pieces.dropLast.map dropReturn ++ if last = [] then [] else [last]).map String.ofList

/-- The bracket depth after a character; a closing bracket without a partner leaves it at zero. -/
def depthAfter (depth : Nat) (c : Char) : Nat :=
  if c = '<' then depth + 1 else if c = '>' then depth - 1 else depth

/-- Cut a text at the commas outside angle brackets: the first piece and the others. -/
def argumentsFrom (depth : Nat) : List Char → List Char × List (List Char)
  | [] => ([], [])
  | c :: rest =>
    if c = ',' ∧ depth = 0 then
      let (first, more) := argumentsFrom 0 rest
      ([], first :: more)
    else
      let (first, more) := argumentsFrom (depthAfter depth c) rest
      (c :: first, more)

/-- The pieces of an argument list, without the blanks around them. -/
def splitArguments (text : List Char) : List (List Char) :=
  let (first, more) := argumentsFrom 0 text
  (first :: more).map trim

theorem length_trim_le (text : List Char) : (trim text).length ≤ text.length := by
  have front := (List.dropWhile_sublist isBlank (l := text)).length_le
  have back := (List.dropWhile_sublist isBlank (l := (trimStart text).reverse)).length_le
  simp only [trim, trimEnd, trimStart, List.length_reverse] at *
  omega

theorem eq_append_of_isPrefixOf? {pattern text after : List Char}
    (found : pattern.isPrefixOf? text = some after) : text = pattern ++ after := by
  induction pattern generalizing text with
  | nil => exact Option.some.inj found
  | cons c pattern ih =>
    cases text with
    | nil => cases found
    | cons d text =>
      change (if c == d then pattern.isPrefixOf? text else none) = some after at found
      split at found
      · rename_i same
        rw [ih found, beq_iff_eq.1 same, List.cons_append]
      · simp at found

theorem eq_append_of_isSuffixOf? {pattern text before : List Char}
    (found : pattern.isSuffixOf? text = some before) : text = before ++ pattern := by
  obtain ⟨rest, reversed, rfl⟩ := Option.map_eq_some_iff.1 found
  have := congrArg List.reverse (eq_append_of_isPrefixOf? reversed)
  simpa using this

/-- Cutting loses nothing but the pattern. -/
theorem eq_append_of_cut? {pattern text before after : List Char}
    (found : cut? pattern text = some (before, after)) : text = before ++ pattern ++ after := by
  induction text generalizing before with
  | nil =>
    simp only [cut?] at found
    split at found
    · rename_i blank
      simp_all
    · simp at found
  | cons c rest ih =>
    simp only [cut?] at found
    split at found
    · rename_i tail here
      obtain ⟨rfl, rfl⟩ := Prod.mk.inj (Option.some.inj found)
      simpa using eq_append_of_isPrefixOf? here
    · obtain ⟨⟨before', after'⟩, later, equal⟩ := Option.map_eq_some_iff.1 found
      obtain ⟨rfl, rfl⟩ := Prod.mk.inj equal
      rw [ih later]
      simp

/-- The length of the pieces, with one for each piece. -/
def weight : List (List Char) → Nat
  | [] => 0
  | piece :: rest => piece.length + 1 + weight rest

theorem weight_map_trim_le (pieces : List (List Char)) :
    weight (pieces.map trim) ≤ weight pieces := by
  induction pieces with
  | nil => simp
  | cons piece rest ih =>
    have := length_trim_le piece
    simp only [List.map_cons, weight]
    omega

theorem weight_argumentsFrom (depth : Nat) (text : List Char) :
    weight ((argumentsFrom depth text).1 :: (argumentsFrom depth text).2) = text.length + 1 := by
  induction text generalizing depth with
  | nil => simp [argumentsFrom, weight]
  | cons c rest ih =>
    simp only [argumentsFrom]
    split
    · have := ih 0
      simp only [weight, List.length_cons, List.length_nil] at *
      omega
    · have := ih (depthAfter depth c)
      simp only [weight, List.length_cons] at *
      omega

/-- The arguments are together no longer than the text and one more separator. -/
theorem weight_splitArguments_le (text : List Char) :
    weight (splitArguments text) ≤ text.length + 1 := by
  rw [← weight_argumentsFrom 0 text]
  exact weight_map_trim_le _

end Text
end Companion
