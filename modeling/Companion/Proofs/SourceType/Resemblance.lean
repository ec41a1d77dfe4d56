import Companion.Proofs.SourceType.Outline
import Companion.Proofs.Text.Pieces

/-!
# Spellings that resemble a text

The spelling of a type is not the text that the type was read from, because blanks are dropped.  It
starts like that text, has the same brackets and commas in the same order, and is an array when the
text is one.  So it may stand for the text inside a larger one.
-/

namespace Companion
namespace SourceType

open Text

/-- Whether a spelling may stand for a trimmed text wherever a construct is told by the start, the
marks or the brackets of a text. -/
structure Resembles (text spelling : List Char) : Prop where
  head : spelling.head? = text.head?
  last : ∀ c, spelling.getLast? = some c → isBlank c = false
  marks : spelling.filter isMark = text.filter isMark
  brackets : "[]".toList <:+ spelling ↔ "[]".toList <:+ text

namespace Resembles

variable {text spelling : List Char}

theorem self (trimmed : trim text = text) : Resembles text text :=
  ⟨rfl, fun _ => isBlank_of_getLast? trimmed, rfl, .rfl⟩

theorem trim_eq (resembles : Resembles text spelling) (trimmed : trim text = text) :
    trim spelling = spelling :=
  trim_eq_self (fun _ head => isBlank_of_head? trimmed (resembles.head ▸ head)) resembles.last

/-- What follows a character of a text may be spelled anew, and what stands before it may lose
blanks. -/
theorem append_cons {before lead after : List Char} {c : Char}
    (trimmed : trim (before ++ c :: after) = before ++ c :: after)
    (notBracket : c ∉ "[]".toList) (head : lead.head? = before.head?)
    (marks : lead.filter isMark = before.filter isMark)
    (resembles : Resembles (trim after) spelling) :
    Resembles (before ++ c :: after) (lead ++ c :: spelling) := by
  obtain ⟨front, after_eq, blank, nil_of_nil⟩ := exists_eq_append_trim_of_trim_eq trimmed
  refine ⟨?_, fun d last => ?_, ?_, ?_⟩
  · rw [List.head?_append, List.head?_append, head]
    rfl
  · rw [List.getLast?_append, List.getLast?_cons, Option.some_or] at last
    cases spelled : spelling.getLast? with
    | some stop =>
        rw [spelled] at last
        exact resembles.last d (spelled.trans last)
    | none =>
        have nil : trim after = [] := by
          rw [← List.head?_eq_none_iff, ← resembles.head, List.getLast?_eq_none_iff.1 spelled]
          rfl
        rw [spelled] at last
        refine isBlank_of_getLast? trimmed ?_
        rw [nil_of_nil nil, List.getLast?_concat]
        exact last
  · rw [List.filter_append, List.filter_append, marks, List.filter_cons, List.filter_cons,
      resembles.marks, filter_isMark_trim]
  · rw [isSuffix_append_cons_iff notBracket, isSuffix_append_cons_iff notBracket,
      resembles.brackets, iff_comm, congrArg ("[]".toList <:+ ·) after_eq]
    refine isSuffix_append_iff fun d listed inside => ?_
    have isBlank := blank d listed
    rcases List.mem_pair.1 inside with rfl | rfl <;> exact absurd isBlank (by decide)

theorem unresolved {name : List Char} (trimmed : trim ('!' :: name) = '!' :: name) :
    Resembles ('!' :: name) ('!' :: trim name) := by
  rw [← List.nil_append ('!' :: name)] at trimmed
  exact append_cons trimmed (by decide) rfl rfl (self (trim_trim name))

theorem array {component : List Char}
    (trimmed : trim (component ++ "[]".toList) = component ++ "[]".toList) (notNil : component ≠ [])
    (resembles : Resembles (trim component) spelling) :
    Resembles (component ++ "[]".toList) (spelling ++ "[]".toList) := by
  obtain ⟨c, rest, rfl⟩ := List.exists_cons_of_ne_nil notNil
  have head : spelling.head? = some c :=
    resembles.head.trans (head?_trim_of_head? rfl (isBlank_of_head? trimmed rfl))
  refine ⟨?_, fun d last => ?_, ?_, ?_⟩
  · rw [List.head?_append, head]
    rfl
  · rw [List.getLast?_append_of_ne_nil _ (by decide)] at last
    obtain rfl := Option.some.inj last
    decide
  · rw [List.filter_append, List.filter_append, resembles.marks, filter_isMark_trim]
  · exact iff_of_true (List.suffix_append ..) (List.suffix_append ..)

theorem wildcard {rest bound : List Char} (trimmed : trim ('?' :: rest) = '?' :: rest)
    (rest_eq : trim rest = "extends ".toList ++ bound)
    (resembles : Resembles (trim bound) spelling) :
    Resembles ('?' :: rest) ("? extends".toList ++ ' ' :: spelling) := by
  have startsText := trimmed
  rw [← List.nil_append ('?' :: rest)] at startsText
  obtain ⟨front, split_eq, blank, -⟩ := exists_eq_append_trim_of_trim_eq startsText
  have text_eq : '?' :: rest = ('?' :: front ++ "extends".toList) ++ ' ' :: bound := by
    rw [congrArg ('?' :: ·) split_eq, rest_eq]
    simp
  rw [text_eq] at trimmed ⊢
  refine append_cons trimmed (by decide) rfl ?_ resembles
  rw [List.filter_append, List.filter_cons, filter_isMark_of_isBlank blank]
  rfl

theorem typeVariable {before after : List Char}
    (trimmed : trim (before ++ " extends ".toList ++ after) = before ++ " extends ".toList ++ after)
    (resembles : Resembles (trim after) spelling) :
    Resembles (before ++ " extends ".toList ++ after)
      ((trim before ++ " extends".toList) ++ ' ' :: spelling) := by
  have text_eq : before ++ " extends ".toList ++ after =
      (before ++ " extends".toList) ++ ' ' :: after := by simp
  rw [text_eq] at trimmed ⊢
  refine append_cons trimmed (by decide) ?_ ?_ resembles
  · rw [List.head?_append, List.head?_append]
    congr 1
    cases before with
    | nil => rfl
    | cons c rest => exact head?_trim_of_head? rfl (isBlank_of_head? trimmed rfl)
  · rw [List.filter_append, List.filter_append, filter_isMark_trim]

/-- The arguments of a type may be spelled anew with the same marks. -/
theorem generic {name inner spelled : List Char} (notNil : name ≠ [])
    (marks : spelled.filter isMark = inner.filter isMark) :
    Resembles (name ++ '<' :: (inner ++ ['>'])) (name ++ '<' :: (spelled ++ ['>'])) := by
  have notBrackets : ∀ text, ¬"[]".toList <:+ name ++ '<' :: (text ++ ['>']) := by
    intro text
    rw [isSuffix_append_cons_iff (by decide), isSuffix_append_cons_iff (by decide)]
    decide
  obtain ⟨c, rest, rfl⟩ := List.exists_cons_of_ne_nil notNil
  refine ⟨rfl, fun d last => ?_, ?_, iff_of_false (notBrackets _) (notBrackets _)⟩
  · rw [← List.cons_append, ← List.append_assoc, List.getLast?_concat] at last
    obtain rfl := Option.some.inj last
    decide
  · simp only [List.filter_append, List.filter_cons, marks]

end Resembles

@[simp]
theorem chars_plain (full : Bool) (name : List Char) :
    chars full (.declared (String.ofList name) []) = name :=
  String.toList_ofList

@[simp]
theorem chars_array (full : Bool) (component : SourceType) :
    chars full (.array component) = component.chars full ++ "[]".toList := rfl

@[simp]
theorem chars_typeVariable (name : List Char) (bound : SourceType) :
    chars true (.typeVariable (String.ofList name) bound) =
      (name ++ " extends".toList) ++ ' ' :: bound.chars true := by
  change (String.ofList name).toList ++ " extends ".toList ++ bound.chars true = _
  rw [String.toList_ofList, List.append_assoc, List.append_assoc]
  rfl

@[simp]
theorem chars_wildcard (full : Bool) (bound : SourceType) :
    chars full (.wildcard bound) = "? extends".toList ++ ' ' :: bound.chars full := rfl

@[simp]
theorem chars_unresolved (name : List Char) :
    chars true (.unresolved (String.ofList name)) = '!' :: name :=
  congrArg ('!' :: ·) String.toList_ofList

theorem charsAfter_eq (full : Bool) (args : List SourceType) :
    charsAfter full args = (args.map (chars full)).flatMap fun piece => ',' :: piece := by
  induction args with
  | nil => rfl
  | cons arg args ih => rw [List.map_cons, List.flatMap_cons, ← ih]; rfl

@[simp]
theorem chars_generic (full : Bool) (name : List Char) (arg : SourceType)
    (args : List SourceType) : chars full (.declared (String.ofList name) (arg :: args)) =
      name ++ '<' :: (joinArguments (arg.chars full) (args.map (chars full)) ++ ['>']) := by
  change (String.ofList name).toList ++ '<' :: (arg.chars full ++ charsAfter full args) ++ ['>'] = _
  rw [String.toList_ofList, charsAfter_eq, joinArguments, List.append_assoc, List.cons_append]

theorem ne_nil_of_parse {input : List Char} {type : SourceType} (read : parse input = .ok type) :
    input ≠ [] := by
  rintro rfl
  exact parse_eq_ok_iff.1 read

theorem ne_nil_of_isQualifiedName {name : List Char} (qualified : isQualifiedName name = true) :
    name ≠ [] := by
  rintro rfl
  simp [isQualifiedName, isSegment] at qualified

theorem forall₂_of_forall_parts {motive : List Char → SourceType → Prop} {args : List (List Char)}
    {reads : List SourceType} (holds : ∀ arg ∈ args, ∀ type, parse arg = .ok type → motive arg type)
    (allRead : List.Forall₂ (fun arg read => parse arg = .ok read) args reads) :
    List.Forall₂ motive args reads := by
  have related : List.Forall₂ (fun arg read =>
      (∀ type, parse arg = .ok type → motive arg type) ∧ parse arg = .ok read) args reads :=
    (List.forall₂_and_left _ _).2 ⟨holds, allRead⟩
  exact related.imp fun arg read both => both.1 read both.2

/-- The arguments of a type are found again in its spelling. -/
theorem splitArguments_chars {inner : List Char} {type : SourceType} {types : List SourceType}
    (resemble : List.Forall₂ (fun arg read => Resembles (trim arg) (read.chars true))
      (splitArguments inner) (type :: types)) :
    splitArguments (joinArguments (type.chars true) (types.map (chars true))) =
        (type :: types).map (chars true) ∧
      (joinArguments (type.chars true) (types.map (chars true))).filter isMark =
        inner.filter isMark := by
  refine splitArguments_joinArguments (List.forall₂_map_right_iff.2 (resemble.imp ?_))
  intro arg read resembles
  exact ⟨resembles.trim_eq (trim_trim arg), resembles.marks.trans (filter_isMark_trim arg)⟩

/-- The spelling of a type resembles every text that is read as the type. -/
theorem resembles_of_parse {input : List Char} {type : SourceType}
    (read : parse input = .ok type) : Resembles (trim input) (type.chars true) := by
  refine parse_induction (motive := fun input type => Resembles (trim input) (type.chars true))
    ?_ read
  intro input found type outline yields ih
  have trimmed := trim_trim input
  generalize trim input = text at outline trimmed ⊢
  cases outline with
  | blank nil => exact yields.elim
  | otherWildcard => exact yields.elim
  | unbalanced => exact yields.elim
  | @unresolved name text_eq =>
      obtain rfl := yields
      subst text_eq
      rw [chars_unresolved]
      exact .unresolved trimmed
  | @array component unmarked text_eq =>
      obtain ⟨type, read, rfl⟩ := yields
      subst text_eq
      exact .array trimmed (ne_nil_of_parse read) (ih component List.mem_cons_self _ read)
  | void text_eq =>
      obtain rfl := yields
      subst text_eq
      exact .self trimmed
  | primitive text_eq =>
      obtain rfl := yields
      subst text_eq
      exact .self trimmed
  | @anyWildcard rest use text_eq nil =>
      obtain rfl := yields
      subst text_eq
      rw [← List.nil_append ('?' :: rest)] at trimmed
      obtain ⟨-, -, -, nil_of_nil⟩ := exists_eq_append_trim_of_trim_eq trimmed
      rw [nil_of_nil nil] at trimmed ⊢
      exact .self trimmed
  | @wildcard rest bound use text_eq rest_eq =>
      obtain ⟨type, read, rfl⟩ := yields
      subst text_eq
      rw [chars_wildcard]
      exact .wildcard trimmed rest_eq (ih bound List.mem_cons_self _ read)
  | @typeVariable before after use named cut_eq outside =>
      obtain ⟨type, read, rfl⟩ := yields
      have resembles := ih (trim after) List.mem_cons_self _ read
      rw [trim_trim] at resembles
      rw [eq_append_of_cut? cut_eq] at trimmed ⊢
      rw [chars_typeVariable]
      exact .typeVariable trimmed resembles
  | plain use named unsplit outside =>
      obtain ⟨qualified, rfl⟩ := yields
      rw [chars_plain]
      exact .self trimmed
  | @generic name inner use named unsplit text_eq outside =>
      obtain ⟨qualified, reads, allRead, rfl⟩ := yields
      have resemble := forall₂_of_forall_parts ih allRead
      obtain ⟨type, types, rfl⟩ := exists_cons_of_forall₂ resemble
      subst text_eq
      rw [chars_generic]
      exact .generic (ne_nil_of_isQualifiedName qualified) (splitArguments_chars resemble).2

end SourceType
end Companion
