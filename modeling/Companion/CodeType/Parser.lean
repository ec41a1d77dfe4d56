import Companion.CodeType.Basic

/-!
# Reading types of generated code

The text of a type is split once at its outermost construct, and the parts are read in the same
way.  A wildcard whose bound is not an upper bound reads as the wildcard without a bound.
-/

namespace Companion
namespace CodeType

open Text

/-- The outermost construct of the text of a type. -/
inductive Shape where
  | void
  | primitive (kind : PrimitiveType)
  | array (component : List Char)
  | anyWildcard
  | wildcard (bound : List Char)
  | plain (name : List Char)
  | generic (name : List Char) (args : List (List Char))
  | unbalanced

/-- The construct of a class name with or without type arguments. -/
def shapeOfName (text : List Char) : Shape :=
  match text.dropWhile (· ≠ '<') with
  | [] => .plain text
  | _ :: inner =>
    match ['>'].isSuffixOf? inner with
    | some inner => .generic (text.takeWhile (· ≠ '<')) (splitArguments inner)
    | none => .unbalanced

/-- The construct of a text that is neither an array nor a single word of the language. -/
def shapeOfUse (text : List Char) : Shape :=
  match text with
  | '?' :: rest =>
    match "extends ".toList.isPrefixOf? (trim rest) with
    | some bound => .wildcard bound
    | none => .anyWildcard
  | _ => shapeOfName text

/-- The outermost construct of a trimmed text. -/
def shape (text : List Char) : Shape :=
  if text = "void".toList then .void
  else match PrimitiveType.ofKeyword? (String.ofList text) with
    | some kind => .primitive kind
    | none =>
      match ['[', ']'].isSuffixOf? text with
      | some component => .array component
      | none => shapeOfUse text

/-- The parts of a shape that are read further are shorter than the text. -/
def Shape.Below (size : Nat) : Shape → Prop
  | .array component => component.length < size
  | .wildcard bound => bound.length < size
  | .generic _ args => weight args < size
  | _ => True

theorem below_shapeOfName (text : List Char) : (shapeOfName text).Below text.length := by
  unfold shapeOfName
  split
  · trivial
  · rename_i open_eq
    have parts := (List.dropWhile_sublist (· ≠ '<') (l := text)).length_le
    rw [open_eq] at parts
    split
    · rename_i inner close_eq
      have close := congrArg List.length (eq_append_of_isSuffixOf? close_eq)
      have := weight_splitArguments_le inner
      simp only [Shape.Below, List.length_append, List.length_cons, List.length_nil] at *
      omega
    · trivial

theorem below_shapeOfUse (text : List Char) : (shapeOfUse text).Below text.length := by
  unfold shapeOfUse
  split
  · rename_i rest
    split
    · rename_i bound found
      have := congrArg List.length (eq_append_of_isPrefixOf? found)
      have := length_trim_le rest
      simp only [List.length_append, Shape.Below, List.length_cons] at *
      omega
    · trivial
  · exact below_shapeOfName text

theorem below_shape (text : List Char) : (shape text).Below text.length := by
  unfold shape
  split
  · trivial
  · split
    · trivial
    · split
      · rename_i component found
        have := congrArg List.length (eq_append_of_isSuffixOf? found)
        simp only [List.length_append, Shape.Below, List.length_cons, List.length_nil] at *
        omega
      · exact below_shapeOfUse text

theorem below_shape_trim (input : List Char) : (shape (trim input)).Below input.length := by
  have below := below_shape (trim input)
  have := length_trim_le input
  cases found : shape (trim input) <;> simp only [found, Shape.Below] at * <;> omega

mutual

/-- Read the text of a type. -/
def parse (input : List Char) : Except BindingError CodeType :=
  match _found : shape (trim input) with
  | .void => .ok .void
  | .primitive kind => .ok (.primitive kind)
  | .array component => do return .array (← parse component)
  | .anyWildcard => .ok .anyWildcard
  | .wildcard bound => do return .wildcard (← parse bound)
  | .plain name => do return .classType (← ClassName.ofText (String.ofList name))
  | .generic name args => do
    let args ← parseAll args
    return .parameterized (← ClassName.ofText (String.ofList name)) args
  | .unbalanced => .error (.invalidClassName (String.ofList (trim input)))
termination_by input.length + 1
decreasing_by
  all_goals
    have below := below_shape_trim input
    rw [_found] at below
    simp only [Shape.Below] at below
    omega

/-- Read the texts of several types, in order. -/
def parseAll : List (List Char) → Except BindingError (List CodeType)
  | [] => .ok []
  | input :: rest => do return (← parse input) :: (← parseAll rest)
termination_by inputs => weight inputs + 1
decreasing_by
  all_goals
    simp only [weight]
    omega

end

/-- Read the text of a type. -/
def ofText (input : String) : Except BindingError CodeType := parse input.toList

end CodeType
end Companion
