import Companion.SourceType.Basic
import Companion.Text.Letter

/-!
# Reading types

The text of a type is split once at its outermost construct; the parts are then read in the same
way.  Each part is shorter than the text, so the reading ends.
-/

namespace Companion

/-- What is wrong with the text of a type. -/
inductive SourceType.Fault where
  | emptyType
  | lowerBoundedWildcard
  | unbalancedArguments
  | malformedName
  deriving DecidableEq, Repr

/-- The fault in words. -/
def SourceType.Fault.message : SourceType.Fault → String
  | .emptyType => "empty type"
  | .lowerBoundedWildcard => "only upper-bounded wildcards are supported"
  | .unbalancedArguments => "unbalanced type arguments"
  | .malformedName => "malformed qualified name"

/-- A text that is not the spelling of a type. -/
structure SourceType.Unreadable where
  /-- The text or the part of it that was being read. -/
  input : String
  /-- What is wrong with it. -/
  fault : SourceType.Fault
  deriving DecidableEq, Repr

/-- The text that could not be read and what is wrong with it, in words. -/
def SourceType.Unreadable.message (error : SourceType.Unreadable) : String :=
  s!"Invalid type syntax '{error.input}': {error.fault.message}"

namespace SourceType

open Text

/-- The outermost construct of the text of a type. -/
inductive Shape where
  | blank
  | unresolved (name : List Char)
  | array (component : List Char)
  | void
  | primitive (kind : PrimitiveType)
  | anyWildcard
  | wildcard (bound : List Char)
  | otherWildcard
  | typeVariable (name bound : List Char)
  | plain (name : List Char)
  | generic (name : List Char) (args : List (List Char))
  | unbalanced

/-- A name and bound joined by the first `extends` of a text, outside any type argument. -/
def splitVariable? (text : List Char) : Option (List Char × List Char) :=
  match cut? " extends ".toList text with
  | some (name, bound) => if '<' ∈ name then none else some (trim name, trim bound)
  | none => none

/-- The construct of a text with type arguments, or of a plain name. -/
def shapeOfName (text : List Char) : Shape :=
  match text.dropWhile (· ≠ '<') with
  | [] => .plain text
  | _ :: inner =>
    match ['>'].isSuffixOf? inner with
    | some inner => .generic (text.takeWhile (· ≠ '<')) (splitArguments inner)
    | none => .unbalanced

/-- The construct of a text that is neither an array nor a single word of the language. -/
def shapeOfUse (text : List Char) : Shape :=
  match text with
  | '?' :: rest =>
    if trim rest = [] then .anyWildcard
    else match "extends ".toList.isPrefixOf? (trim rest) with
      | some bound => .wildcard bound
      | none => .otherWildcard
  | _ =>
    match splitVariable? text with
    | some (name, bound) => .typeVariable name bound
    | none => shapeOfName text

/-- The outermost construct of a trimmed text. -/
def shape (text : List Char) : Shape :=
  match text with
  | [] => .blank
  | '!' :: name => .unresolved (trim name)
  | _ =>
    match "[]".toList.isSuffixOf? text with
    | some component => .array component
    | none =>
      if text = "void".toList then .void
      else match PrimitiveType.ofKeyword? (String.ofList text) with
        | some kind => .primitive kind
        | none => shapeOfUse text

/-- Whether a character may start a segment of a name. -/
def startsSegment (c : Char) : Bool := isLetter c || c = '_' || c = '$'

/-- Whether a character may stand later in a segment of a name. -/
def continuesSegment (c : Char) : Bool := isLetterOrNumber c || c = '_' || c = '$'

/-- Whether a text is a segment of a qualified name. -/
def isSegment : List Char → Bool
  | [] => false
  | first :: rest => startsSegment first && rest.all continuesSegment

/-- Whether a text is a qualified name. -/
def isQualifiedName (text : List Char) : Bool := (text.splitOn '.').all isSegment

theorem weight_of_shapeOfName {text name : List Char} {args : List (List Char)}
    (found : shapeOfName text = .generic name args) : weight args + 1 ≤ text.length := by
  unfold shapeOfName at found
  split at found
  · simp at found
  · rename_i open_eq
    have parts := (List.dropWhile_sublist (· ≠ '<') (l := text)).length_le
    rw [open_eq] at parts
    split at found
    · rename_i inner close_eq
      obtain ⟨-, rfl⟩ := Shape.generic.inj found
      have close := congrArg List.length (eq_append_of_isSuffixOf? close_eq)
      have := weight_splitArguments_le inner
      simp only [List.length_append, List.length_cons, List.length_nil] at close parts
      omega
    · simp at found

theorem length_of_splitVariable? {text name bound : List Char}
    (found : splitVariable? text = some (name, bound)) : bound.length < text.length := by
  unfold splitVariable? at found
  split at found
  · rename_i before after cut_eq
    split at found
    · simp at found
    · obtain ⟨-, rfl⟩ := Prod.mk.inj (Option.some.inj found)
      have := congrArg List.length (eq_append_of_cut? cut_eq)
      have := length_trim_le after
      simp only [List.length_append] at *
      have : " extends ".toList.length = 9 := by decide
      omega
  · simp at found

/-- The parts of a shape that are read further are shorter than the text. -/
def Shape.Below (size : Nat) : Shape → Prop
  | .array component => component.length < size
  | .wildcard bound => bound.length < size
  | .typeVariable _ bound => bound.length < size
  | .generic _ args => weight args < size
  | _ => True

theorem below_shapeOfName (text : List Char) : (shapeOfName text).Below text.length := by
  cases found : shapeOfName text with
  | generic name args => exact weight_of_shapeOfName found
  | _ => unfold shapeOfName at found; split at found <;> grind [Shape.Below]

theorem below_shapeOfUse (text : List Char) : (shapeOfUse text).Below text.length := by
  unfold shapeOfUse
  split
  · rename_i rest
    split
    · trivial
    · split
      · rename_i bound found
        have := congrArg List.length (eq_append_of_isPrefixOf? found)
        have := length_trim_le rest
        simp only [List.length_append, Shape.Below, List.length_cons] at *
        omega
      · trivial
  · split
    · rename_i found
      exact length_of_splitVariable? found
    · exact below_shapeOfName text

theorem below_shape (text : List Char) : (shape text).Below text.length := by
  unfold shape
  split
  · trivial
  · trivial
  · split
    · rename_i component found
      have := congrArg List.length (eq_append_of_isSuffixOf? found)
      have : "[]".toList.length = 2 := by decide
      simp only [List.length_append, Shape.Below] at *
      omega
    · split
      · trivial
      · split
        · trivial
        · exact below_shapeOfUse text

theorem below_shape_trim (input : List Char) : (shape (trim input)).Below input.length := by
  have below := below_shape (trim input)
  have := length_trim_le input
  cases found : shape (trim input) <;> simp only [found, Shape.Below] at * <;> omega

/-- Check the name of a declared type. -/
def requireName (input name : List Char) : Except Unreadable Unit :=
  if isQualifiedName name then .ok () else .error ⟨String.ofList input, .malformedName⟩

mutual

/-- Read the text of a type. -/
def parse (input : List Char) : Except Unreadable SourceType :=
  match _found : shape (trim input) with
  | .blank => .error ⟨String.ofList input, .emptyType⟩
  | .unresolved name => .ok (.unresolved (String.ofList name))
  | .array component => do return .array (← parse component)
  | .void => .ok .void
  | .primitive kind => .ok (.primitive kind)
  | .anyWildcard => .ok .anyWildcard
  | .wildcard bound => do return .wildcard (← parse bound)
  | .otherWildcard => .error ⟨String.ofList input, .lowerBoundedWildcard⟩
  | .typeVariable name bound => do return .typeVariable (String.ofList name) (← parse bound)
  | .plain name => do
    requireName input name
    return .declared (String.ofList name) []
  | .generic name args => do
    requireName input name
    return .declared (String.ofList name) (← parseAll args)
  | .unbalanced => .error ⟨String.ofList input, .unbalancedArguments⟩
termination_by input.length + 1
decreasing_by
  all_goals
    have below := below_shape_trim input
    rw [_found] at below
    simp only [Shape.Below] at below
    omega

/-- Read the texts of several types, in order. -/
def parseAll : List (List Char) → Except Unreadable (List SourceType)
  | [] => .ok []
  | input :: rest => do return (← parse input) :: (← parseAll rest)
termination_by inputs => weight inputs + 1
decreasing_by
  all_goals
    simp only [weight]
    omega

end

/-- Read the text of a type. -/
def ofText (input : String) : Except Unreadable SourceType := parse input.toList

end SourceType
end Companion
