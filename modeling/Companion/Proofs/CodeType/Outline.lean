import Companion.CodeType.Parser
import Companion.Proofs.SourceType.Outline

/-!
# How types of generated code are read

The outermost construct of a text is told by conditions on the text, and what the text is read as
by what its parts are read as.  A wildcard is told by its first character alone, and whatever
follows it is dropped unless it is an upper bound.
-/

namespace Companion
namespace CodeType

open Text
open SourceType (IsWord eq_keyword_of_ofKeyword? not_isWord)

/-- Whether a text is neither a word of the language nor an array. -/
structure IsUse (text : List Char) : Prop where
  notWord : ¬IsWord text
  notArray : ¬['[', ']'] <:+ text

/-- The conditions under which a construct is the outermost one of a text. -/
inductive Outline (text : List Char) : Shape → Prop where
  | void (text_eq : text = "void".toList) : Outline text .void
  | primitive {kind : PrimitiveType} (text_eq : text = kind.keyword.toList) :
      Outline text (.primitive kind)
  | array {component : List Char} (text_eq : text = component ++ ['[', ']']) :
      Outline text (.array component)
  | anyWildcard {rest : List Char} (use : IsUse text) (text_eq : text = '?' :: rest)
      (unbounded : ¬"extends ".toList <+: trim rest) : Outline text .anyWildcard
  | wildcard {rest bound : List Char} (use : IsUse text) (text_eq : text = '?' :: rest)
      (rest_eq : trim rest = "extends ".toList ++ bound) : Outline text (.wildcard bound)
  | plain (use : IsUse text) (named : text.head? ≠ some '?') (outside : '<' ∉ text) :
      Outline text (.plain text)
  | generic {name inner : List Char} (use : IsUse text) (named : text.head? ≠ some '?')
      (text_eq : text = name ++ '<' :: (inner ++ ['>'])) (outside : '<' ∉ name) :
      Outline text (.generic name (splitArguments inner))
  | unbalanced {name inner : List Char} (use : IsUse text) (named : text.head? ≠ some '?')
      (text_eq : text = name ++ '<' :: inner) (outside : '<' ∉ name)
      (notClosed : ¬['>'] <:+ inner) : Outline text .unbalanced

theorem outline_shapeOfName {text : List Char} (use : IsUse text)
    (named : text.head? ≠ some '?') : Outline text (shapeOfName text) := by
  rw [shapeOfName]
  split
  · exact .plain use named (dropWhile_ne_eq_nil_iff.1 ‹_›)
  · rename_i dropped
    obtain ⟨outside, text_eq⟩ := eq_append_cons_of_dropWhile_ne dropped
    split
    · rename_i closed
      rw [eq_append_of_isSuffixOf? closed] at text_eq
      exact .generic use named text_eq outside
    · exact .unbalanced use named text_eq outside (isSuffixOf?_eq_none_iff.1 ‹_›)

theorem outline_shapeOfUse {text : List Char} (use : IsUse text) :
    Outline text (shapeOfUse text) := by
  rw [shapeOfUse.eq_def]
  split
  · rename_i rest
    split
    · exact .wildcard use rfl (eq_append_of_isPrefixOf? ‹_›)
    · exact .anyWildcard use rfl (isPrefixOf?_eq_none_iff.1 ‹_›)
  · rename_i notWildcard
    refine outline_shapeOfName use fun head => ?_
    obtain ⟨rest, text_eq⟩ := List.head?_eq_some_iff.1 head
    exact notWildcard rest text_eq

theorem outline_shape (text : List Char) : Outline text (shape text) := by
  rw [shape]
  split
  · exact .void ‹_›
  · rename_i notVoid
    split
    · exact .primitive (eq_keyword_of_ofKeyword? ‹_›)
    · rename_i notKeyword
      split
      · exact .array (eq_append_of_isSuffixOf? ‹_›)
      · rename_i notArray
        exact outline_shapeOfUse
          ⟨not_isWord notVoid notKeyword, isSuffixOf?_eq_none_iff.1 notArray⟩

theorem shape_of_not_isWord {text : List Char} (notWord : ¬IsWord text) :
    shape text = match ['[', ']'].isSuffixOf? text with
      | some component => .array component
      | none => shapeOfUse text := by
  rw [shape, if_neg fun isVoid => notWord (.inl isVoid)]
  split
  · exact absurd (.inr ⟨_, eq_keyword_of_ofKeyword? ‹_›⟩) notWord
  · rfl

theorem IsUse.shape_eq {text : List Char} (use : IsUse text) : shape text = shapeOfUse text := by
  rw [shape_of_not_isWord use.notWord]
  split
  · exact absurd ⟨_, (eq_append_of_isSuffixOf? ‹_›).symm⟩ use.notArray
  · rfl

theorem shapeOfUse_of_named {text : List Char} (named : text.head? ≠ some '?') :
    shapeOfUse text = shapeOfName text := by
  rw [shapeOfUse.eq_def]
  split
  · exact absurd rfl named
  · rfl

theorem not_isWord_append_brackets (component : List Char) :
    ¬IsWord (component ++ ['[', ']']) := by
  have last : (component ++ ['[', ']']).getLast? = some ']' :=
    List.getLast?_append_of_ne_nil _ (by decide)
  rintro (isVoid | ⟨kind, isKind⟩)
  · rw [isVoid] at last
    exact absurd last (by decide)
  · rw [isKind] at last
    cases kind <;> exact absurd last (by decide)

/-- The conditions tell the outermost construct of a text. -/
theorem shape_eq_iff {text : List Char} {found : Shape} :
    shape text = found ↔ Outline text found := by
  constructor
  · rintro rfl
    exact outline_shape text
  · intro outline
    cases outline with
    | void text_eq => rw [text_eq]; rfl
    | @primitive kind text_eq =>
        rw [text_eq]
        cases kind <;> rfl
    | @array component text_eq =>
        rw [text_eq, shape_of_not_isWord (not_isWord_append_brackets component),
          List.isSuffixOf?_eq_some_iff_append_eq.2 rfl]
    | anyWildcard use text_eq unbounded =>
        rw [use.shape_eq, text_eq, shapeOfUse]
        split
        · exact absurd ⟨_, (eq_append_of_isPrefixOf? ‹_›).symm⟩ unbounded
        · rfl
    | wildcard use text_eq rest_eq =>
        rw [use.shape_eq, text_eq, shapeOfUse, rest_eq,
          List.isPrefixOf?_eq_some_iff_append_eq.2 rfl]
    | plain use named outside =>
        rw [use.shape_eq, shapeOfUse_of_named named, shapeOfName,
          dropWhile_ne_eq_nil_iff.2 outside]
    | @generic name inner use named text_eq outside =>
        rw [use.shape_eq, shapeOfUse_of_named named, text_eq, shapeOfName,
          takeWhile_ne_append_cons outside, dropWhile_ne_append_cons outside]
        dsimp only
        rw [List.isSuffixOf?_eq_some_iff_append_eq.2 rfl]
    | @unbalanced name inner use named text_eq outside notClosed =>
        rw [use.shape_eq, shapeOfUse_of_named named, text_eq, shapeOfName,
          dropWhile_ne_append_cons outside]
        dsimp only
        split
        · exact absurd ⟨_, (eq_append_of_isSuffixOf? ‹_›).symm⟩ notClosed
        · rfl

/-- What a text with an outermost construct is read as. -/
def Shape.Yields : Shape → CodeType → Prop
  | .void, type => .void = type
  | .primitive kind, type => .primitive kind = type
  | .array component, type => ∃ read, parse component = .ok read ∧ .array read = type
  | .anyWildcard, type => .anyWildcard = type
  | .wildcard bound, type => ∃ read, parse bound = .ok read ∧ .wildcard read = type
  | .plain name, type =>
    ∃ raw, ClassName.ofText (String.ofList name) = .ok raw ∧ .classType raw = type
  | .generic name args, type => ∃ reads,
    List.Forall₂ (fun arg read => parse arg = .ok read) args reads ∧
      ∃ raw, ClassName.ofText (String.ofList name) = .ok raw ∧ .parameterized raw reads = type
  | .unbalanced, _ => False

theorem parseAll_eq_mapM (inputs : List (List Char)) : parseAll inputs = inputs.mapM parse := by
  induction inputs with
  | nil => rw [parseAll]; rfl
  | cons input inputs ih => rw [parseAll, List.mapM_cons, ih]

theorem parseAll_eq_ok_iff {inputs : List (List Char)} {types : List CodeType} :
    parseAll inputs = .ok types ↔
      List.Forall₂ (fun input type => parse input = .ok type) inputs types := by
  rw [parseAll_eq_mapM]
  exact ⟨forall₂_of_mapM, mapM_of_forall₂⟩

/-- A text is read by its outermost construct. -/
theorem parse_eq_ok_iff {input : List Char} {type : CodeType} :
    parse input = .ok type ↔ (shape (trim input)).Yields type := by
  rw [parse]
  split <;> rename_i found <;>
    simp [found, Shape.Yields, bind_eq_ok_iff, parseAll_eq_ok_iff, pure, Except.pure]

/-- The parts of a text that are read further. -/
def Shape.parts : Shape → List (List Char)
  | .array component => [component]
  | .wildcard bound => [bound]
  | .generic _ args => args
  | _ => []

theorem length_lt_of_mem_parts {input part : List Char}
    (listed : part ∈ (shape (trim input)).parts) : part.length < input.length := by
  have below := below_shape_trim input
  cases found : shape (trim input) with
  | generic name args =>
      rw [found] at below listed
      exact (length_lt_weight listed).trans below
  | _ => simp_all [Shape.parts, Shape.Below]

/-- What holds of a text and what it is read as, whenever it holds of the parts of the text, holds
of every text that can be read. -/
theorem parse_induction {motive : List Char → CodeType → Prop}
    (step : ∀ {input found type}, Outline (trim input) found → found.Yields type →
      (∀ part ∈ found.parts, ∀ type, parse part = .ok type → motive part type) →
        motive input type)
    {input : List Char} {type : CodeType} (read : parse input = .ok type) : motive input type :=
  step (outline_shape _) (parse_eq_ok_iff.1 read) fun _ _ _ partRead =>
    parse_induction step partRead
termination_by input.length
decreasing_by exact length_lt_of_mem_parts ‹_›

theorem parse_eq_ok_iff_of_outline {text : List Char} {found : Shape} {type : CodeType}
    (trimmed : trim text = text) (outline : Outline text found) :
    parse text = .ok type ↔ found.Yields type := by
  rw [parse_eq_ok_iff, trimmed, shape_eq_iff.2 outline]

end CodeType
end Companion
