import Companion.Proofs.Success
import Companion.Proofs.Text.Pieces
import Companion.SourceType.Parser

/-!
# How types are read

The outermost construct of a text is told by conditions on the text, and what the text is read as
by what its parts are read as.  Each part is shorter than the text, which gives an induction over
the reading of a type.
-/

namespace Companion
namespace SourceType

open Text

/-- Whether a text is a word of the language that stands for a type. -/
def IsWord (text : List Char) : Prop :=
  text = "void".toList ∨ ∃ kind : PrimitiveType, text = kind.keyword.toList

theorem eq_keyword_of_ofKeyword? {text : List Char} {kind : PrimitiveType}
    (found : PrimitiveType.ofKeyword? (String.ofList text) = some kind) :
    text = kind.keyword.toList := by
  rw [PrimitiveType.keyword_of_ofKeyword? found, String.toList_ofList]

theorem not_isWord {text : List Char} (notVoid : text ≠ "void".toList)
    (notKeyword : PrimitiveType.ofKeyword? (String.ofList text) = none) : ¬IsWord text := by
  rintro (isVoid | ⟨kind, rfl⟩)
  · exact notVoid isVoid
  · rw [String.ofList_toList, PrimitiveType.ofKeyword?_keyword] at notKeyword
    cases notKeyword

/-- Whether a text is neither marked as unresolved nor an array nor a word of the language. -/
structure IsUse (text : List Char) : Prop where
  notNil : text ≠ []
  unmarked : text.head? ≠ some '!'
  notArray : ¬"[]".toList <:+ text
  notWord : ¬IsWord text

/-- The conditions under which a construct is the outermost one of a text. -/
inductive Outline (text : List Char) : Shape → Prop where
  | blank (nil : text = []) : Outline text .blank
  | unresolved {name : List Char} (text_eq : text = '!' :: name) :
      Outline text (.unresolved (trim name))
  | array {component : List Char} (unmarked : text.head? ≠ some '!')
      (text_eq : text = component ++ "[]".toList) : Outline text (.array component)
  | void (text_eq : text = "void".toList) : Outline text .void
  | primitive {kind : PrimitiveType} (text_eq : text = kind.keyword.toList) :
      Outline text (.primitive kind)
  | anyWildcard {rest : List Char} (use : IsUse text) (text_eq : text = '?' :: rest)
      (nil : trim rest = []) : Outline text .anyWildcard
  | wildcard {rest bound : List Char} (use : IsUse text) (text_eq : text = '?' :: rest)
      (rest_eq : trim rest = "extends ".toList ++ bound) : Outline text (.wildcard bound)
  | otherWildcard {rest : List Char} (use : IsUse text) (text_eq : text = '?' :: rest)
      (notNil : trim rest ≠ []) (other : ¬"extends ".toList <+: trim rest) :
      Outline text .otherWildcard
  | typeVariable {before after : List Char} (use : IsUse text) (named : text.head? ≠ some '?')
      (cut_eq : cut? " extends ".toList text = some (before, after)) (outside : '<' ∉ before) :
      Outline text (.typeVariable (trim before) (trim after))
  | plain (use : IsUse text) (named : text.head? ≠ some '?') (unsplit : splitVariable? text = none)
      (outside : '<' ∉ text) : Outline text (.plain text)
  | generic {name inner : List Char} (use : IsUse text) (named : text.head? ≠ some '?')
      (unsplit : splitVariable? text = none) (text_eq : text = name ++ '<' :: (inner ++ ['>']))
      (outside : '<' ∉ name) : Outline text (.generic name (splitArguments inner))
  | unbalanced {name inner : List Char} (use : IsUse text) (named : text.head? ≠ some '?')
      (unsplit : splitVariable? text = none) (text_eq : text = name ++ '<' :: inner)
      (outside : '<' ∉ name) (notClosed : ¬['>'] <:+ inner) : Outline text .unbalanced

theorem splitVariable?_eq_some_iff {text name bound : List Char} :
    splitVariable? text = some (name, bound) ↔ ∃ before after,
      cut? " extends ".toList text = some (before, after) ∧ '<' ∉ before ∧
        name = trim before ∧ bound = trim after := by
  rw [splitVariable?]
  cases cut? " extends ".toList text with
  | none => simp
  | some cut =>
      obtain ⟨before, after⟩ := cut
      by_cases inside : '<' ∈ before
      · simp [inside]
      · simp [inside, eq_comm]

theorem outline_shapeOfName {text : List Char} (use : IsUse text)
    (named : text.head? ≠ some '?') (unsplit : splitVariable? text = none) :
    Outline text (shapeOfName text) := by
  rw [shapeOfName]
  split
  · exact .plain use named unsplit (dropWhile_ne_eq_nil_iff.1 ‹_›)
  · rename_i dropped
    obtain ⟨outside, text_eq⟩ := eq_append_cons_of_dropWhile_ne dropped
    split
    · rename_i closed
      rw [eq_append_of_isSuffixOf? closed] at text_eq
      exact .generic use named unsplit text_eq outside
    · exact .unbalanced use named unsplit text_eq outside (isSuffixOf?_eq_none_iff.1 ‹_›)

theorem outline_shapeOfUse {text : List Char} (use : IsUse text) :
    Outline text (shapeOfUse text) := by
  rw [shapeOfUse.eq_def]
  split
  · rename_i rest
    split
    · exact .anyWildcard use rfl ‹_›
    · rename_i notNil
      split
      · exact .wildcard use rfl (eq_append_of_isPrefixOf? ‹_›)
      · exact .otherWildcard use rfl notNil (isPrefixOf?_eq_none_iff.1 ‹_›)
  · rename_i notWildcard
    have named : text.head? ≠ some '?' := by
      intro head
      obtain ⟨rest, text_eq⟩ := List.head?_eq_some_iff.1 head
      exact notWildcard rest text_eq
    split
    · rename_i found
      obtain ⟨before, after, cut_eq, outside, rfl, rfl⟩ := splitVariable?_eq_some_iff.1 found
      exact .typeVariable use named cut_eq outside
    · exact outline_shapeOfName use named ‹_›

theorem outline_shape (text : List Char) : Outline text (shape text) := by
  rw [shape.eq_def]
  split
  · exact .blank rfl
  · exact .unresolved rfl
  · rename_i notNil notMarked
    have unmarked : text.head? ≠ some '!' := by
      intro head
      obtain ⟨name, text_eq⟩ := List.head?_eq_some_iff.1 head
      exact notMarked name text_eq
    split
    · exact .array unmarked (eq_append_of_isSuffixOf? ‹_›)
    · rename_i notArray
      split
      · exact .void ‹_›
      · rename_i notVoid
        split
        · exact .primitive (eq_keyword_of_ofKeyword? ‹_›)
        · rename_i notKeyword
          exact outline_shapeOfUse ⟨notNil, unmarked, isSuffixOf?_eq_none_iff.1 notArray,
            not_isWord notVoid notKeyword⟩

theorem IsUse.shape_eq {text : List Char} (use : IsUse text) : shape text = shapeOfUse text := by
  rw [shape.eq_def]
  split
  · exact absurd rfl use.notNil
  · exact absurd rfl use.unmarked
  · split
    · rename_i component found
      exact absurd ⟨component, (eq_append_of_isSuffixOf? found).symm⟩ use.notArray
    · split
      · exact absurd (.inl ‹_›) use.notWord
      · split
        · exact absurd (.inr ⟨_, eq_keyword_of_ofKeyword? ‹_›⟩) use.notWord
        · rfl

theorem shapeOfUse_of_named {text : List Char} (named : text.head? ≠ some '?')
    (unsplit : splitVariable? text = none) : shapeOfUse text = shapeOfName text := by
  rw [shapeOfUse.eq_def]
  split
  · exact absurd rfl named
  · rw [unsplit]

/-- The conditions tell the outermost construct of a text. -/
theorem shape_eq_iff {text : List Char} {found : Shape} :
    shape text = found ↔ Outline text found := by
  constructor
  · rintro rfl
    exact outline_shape text
  · intro outline
    cases outline with
    | blank nil => rw [nil, shape]
    | unresolved text_eq => rw [text_eq, shape]
    | @array component unmarked text_eq =>
        rw [shape.eq_def]
        split
        · cases component <;> cases text_eq
        · exact absurd rfl unmarked
        · rw [List.isSuffixOf?_eq_some_iff_append_eq.2 text_eq.symm]
    | void text_eq => rw [text_eq]; rfl
    | @primitive kind text_eq =>
        rw [text_eq]
        cases kind <;> rfl
    | anyWildcard use text_eq nil => rw [use.shape_eq, text_eq, shapeOfUse, if_pos nil]
    | wildcard use text_eq rest_eq =>
        rw [use.shape_eq, text_eq, shapeOfUse, rest_eq, if_neg (by simp),
          List.isPrefixOf?_eq_some_iff_append_eq.2 rfl]
    | otherWildcard use text_eq notNil other =>
        rw [use.shape_eq, text_eq, shapeOfUse, if_neg notNil]
        split
        · exact absurd ⟨_, (eq_append_of_isPrefixOf? ‹_›).symm⟩ other
        · rfl
    | @typeVariable before after use named cut_eq outside =>
        have found := splitVariable?_eq_some_iff.2 ⟨before, after, cut_eq, outside, rfl, rfl⟩
        rw [use.shape_eq, shapeOfUse.eq_def]
        split
        · exact absurd rfl named
        · rw [found]
    | plain use named unsplit outside =>
        rw [use.shape_eq, shapeOfUse_of_named named unsplit, shapeOfName,
          dropWhile_ne_eq_nil_iff.2 outside]
    | @generic name inner use named unsplit text_eq outside =>
        rw [use.shape_eq, shapeOfUse_of_named named unsplit, text_eq, shapeOfName,
          takeWhile_ne_append_cons outside, dropWhile_ne_append_cons outside]
        dsimp only
        rw [List.isSuffixOf?_eq_some_iff_append_eq.2 rfl]
    | @unbalanced name inner use named unsplit text_eq outside notClosed =>
        rw [use.shape_eq, shapeOfUse_of_named named unsplit, text_eq, shapeOfName,
          dropWhile_ne_append_cons outside]
        dsimp only
        split
        · exact absurd ⟨_, (eq_append_of_isSuffixOf? ‹_›).symm⟩ notClosed
        · rfl

/-- What a text with an outermost construct is read as. -/
def Shape.Yields : Shape → SourceType → Prop
  | .unresolved name, type => .unresolved (String.ofList name) = type
  | .array component, type => ∃ read, parse component = .ok read ∧ .array read = type
  | .void, type => .void = type
  | .primitive kind, type => .primitive kind = type
  | .anyWildcard, type => .anyWildcard = type
  | .wildcard bound, type => ∃ read, parse bound = .ok read ∧ .wildcard read = type
  | .typeVariable name bound, type =>
    ∃ read, parse bound = .ok read ∧ .typeVariable (String.ofList name) read = type
  | .plain name, type => isQualifiedName name = true ∧ .declared (String.ofList name) [] = type
  | .generic name args, type => isQualifiedName name = true ∧ ∃ reads,
    List.Forall₂ (fun arg read => parse arg = .ok read) args reads ∧
      .declared (String.ofList name) reads = type
  | _, _ => False

theorem parseAll_eq_mapM (inputs : List (List Char)) : parseAll inputs = inputs.mapM parse := by
  induction inputs with
  | nil => rw [parseAll]; rfl
  | cons input inputs ih => rw [parseAll, List.mapM_cons, ih]

theorem parseAll_eq_ok_iff {inputs : List (List Char)} {types : List SourceType} :
    parseAll inputs = .ok types ↔
      List.Forall₂ (fun input type => parse input = .ok type) inputs types := by
  rw [parseAll_eq_mapM]
  exact ⟨forall₂_of_mapM, mapM_of_forall₂⟩

theorem requireName_eq_ok_iff {input name : List Char} {done : Unit} :
    requireName input name = .ok done ↔ isQualifiedName name = true := by
  rw [requireName]
  split <;> simp [*]

/-- A text is read by its outermost construct. -/
theorem parse_eq_ok_iff {input : List Char} {type : SourceType} :
    parse input = .ok type ↔ (shape (trim input)).Yields type := by
  rw [parse]
  split <;> rename_i found <;>
    simp [found, Shape.Yields, bind_eq_ok_iff, parseAll_eq_ok_iff, requireName_eq_ok_iff, pure,
      Except.pure]

/-- The parts of a text that are read further. -/
def Shape.parts : Shape → List (List Char)
  | .array component => [component]
  | .wildcard bound => [bound]
  | .typeVariable _ bound => [bound]
  | .generic _ args => args
  | _ => []

theorem length_lt_of_mem_parts {input part : List Char}
    (listed : part ∈ (shape (trim input)).parts) : part.length < input.length := by
  have below := below_shape_trim input
  cases found : shape (trim input) with
  | generic name args =>
      rw [found] at below listed
      exact (length_lt_weight listed).trans below
  | _ => simp_all [Shape.parts, Shape.Below]

/-- What holds of a text and what it is read as, whenever it holds of the parts of the text, holds
of every text that can be read. -/
theorem parse_induction {motive : List Char → SourceType → Prop}
    (step : ∀ {input found type}, Outline (trim input) found → found.Yields type →
      (∀ part ∈ found.parts, ∀ type, parse part = .ok type → motive part type) →
        motive input type)
    {input : List Char} {type : SourceType} (read : parse input = .ok type) : motive input type :=
  step (outline_shape _) (parse_eq_ok_iff.1 read) fun _ _ _ partRead =>
    parse_induction step partRead
termination_by input.length
decreasing_by exact length_lt_of_mem_parts ‹_›

end SourceType
end Companion
