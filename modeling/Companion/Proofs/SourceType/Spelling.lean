import Companion.Proofs.SourceType.Resemblance

/-!
# Spellings read back

The spelling of a type that was read is read back as the same type, unless the name of a type
variable ends in a blank and the word that starts a bound.  Such a name is cut too early.
-/

namespace Companion
namespace SourceType

open Text

mutual

/-- Whether no name of a type variable in a type ends in a blank and the word that starts a
bound. -/
def isUnambiguous : SourceType → Bool
  | .declared _ args => areUnambiguous args
  | .array component => component.isUnambiguous
  | .typeVariable name bound =>
    !" extends".toList.isSuffixOf name.toList && bound.isUnambiguous
  | .wildcard bound => bound.isUnambiguous
  | _ => true

/-- Whether none of several types has such a name. -/
def areUnambiguous : List SourceType → Bool
  | [] => true
  | type :: types => type.isUnambiguous && areUnambiguous types

end

theorem areUnambiguous_iff {types : List SourceType} :
    areUnambiguous types = true ↔ ∀ type ∈ types, type.isUnambiguous = true := by
  induction types with
  | nil => exact iff_of_true rfl nofun
  | cons type types ih => rw [areUnambiguous, Bool.and_eq_true, ih, List.forall_mem_cons]

@[simp]
theorem isUnambiguous_declared (name : String) (args : List SourceType) :
    isUnambiguous (.declared name args) = areUnambiguous args := rfl

@[simp]
theorem isUnambiguous_array (component : SourceType) :
    isUnambiguous (.array component) = component.isUnambiguous := rfl

@[simp]
theorem isUnambiguous_wildcard (bound : SourceType) :
    isUnambiguous (.wildcard bound) = bound.isUnambiguous := rfl

theorem isUnambiguous_typeVariable_iff {name : List Char} {bound : SourceType} :
    isUnambiguous (.typeVariable (String.ofList name) bound) = true ↔
      ¬" extends".toList <:+ name ∧ bound.isUnambiguous = true := by
  change (!" extends".toList.isSuffixOf (String.ofList name).toList && bound.isUnambiguous) =
    true ↔ _
  have name_eq : (String.ofList name).toList = name := String.toList_ofList
  rw [name_eq, Bool.and_eq_true, Bool.not_eq_true', ← Bool.not_eq_true, List.isSuffixOf_iff_suffix]

theorem parse_eq_ok_iff_of_outline {text : List Char} {found : Shape} {type : SourceType}
    (trimmed : trim text = text) (outline : Outline text found) :
    parse text = .ok type ↔ found.Yields type := by
  rw [parse_eq_ok_iff, trimmed, shape_eq_iff.2 outline]

theorem not_isWord_of_mem {text : List Char} {c : Char} (listed : c ∈ text)
    (other : c = ' ' ∨ c = '<') : ¬IsWord text := by
  rintro (rfl | ⟨kind, rfl⟩)
  · rcases other with rfl | rfl <;> exact absurd listed (by decide)
  · rcases other with rfl | rfl <;> cases kind <;> exact absurd listed (by decide)

theorem Resembles.isUse {text spelling : List Char} (resembles : Resembles text spelling)
    (use : IsUse text) {c : Char} (listed : c ∈ spelling) (other : c = ' ' ∨ c = '<') :
    IsUse spelling where
  notNil := List.ne_nil_of_mem listed
  unmarked := resembles.head ▸ use.unmarked
  notArray := resembles.brackets.not.2 use.notArray
  notWord := not_isWord_of_mem listed other

/-- The text before a bound overlaps itself in its first and last character alone. -/
theorem eq_of_overlap {front back : List Char} (split : " extends ".toList = front ++ back)
    (again : back <+: " extends ".toList) :
    front = [] ∨ front = " extends".toList ∨ front = " extends ".toList := by
  have atAll : ∀ size ≤ 9, " extends ".toList.drop size <+: " extends ".toList →
      " extends ".toList.take size = [] ∨ " extends ".toList.take size = " extends".toList ∨
        " extends ".toList.take size = " extends ".toList := by decide
  have size_eq := congrArg List.length split
  rw [List.length_append] at size_eq
  have short : front.length ≤ 9 := by
    have : " extends ".toList.length = 9 := rfl
    omega
  have here := atAll front.length short
  rw [split, List.drop_left, List.take_left, ← split] at here
  exact here again

/-- A text is cut before its bound when no bound seems to start inside or at the end of what stands
there. -/
theorem cut?_bound {name bound : List Char} (unambiguous : ¬" extends".toList <:+ name)
    (apart : ¬" extends ".toList <:+: name) :
    cut? " extends ".toList (name ++ " extends".toList ++ ' ' :: bound) = some (name, bound) := by
  refine cut?_eq_some_iff.2 ⟨by simp, fun front back text_eq => ?_⟩
  have text_eq : front ++ (" extends ".toList ++ back) = name ++ (" extends ".toList ++ bound) := by
    simpa using text_eq.symm
  rcases List.append_eq_append_iff.1 text_eq with ⟨middle, rfl, found_eq⟩ | ⟨middle, rfl, -⟩
  · -- the occurrence starts inside the name
    rcases List.append_eq_append_iff.1 found_eq with ⟨rest, rfl, -⟩ | ⟨rest, pattern_eq, rest_eq⟩
    · exact absurd ⟨front, rest, by simp⟩ apart
    · have again : rest <+: " extends ".toList := by
        refine List.prefix_of_prefix_length_le ⟨back, rest_eq.symm⟩ (List.prefix_append ..) ?_
        rw [pattern_eq, List.length_append]
        exact Nat.le_add_left ..
      rcases eq_of_overlap pattern_eq again with rfl | rfl | rfl
      · rw [List.append_nil]
      · exact absurd ⟨front, rfl⟩ unambiguous
      · exact absurd ⟨front, [], by simp⟩ apart
  · rw [List.length_append]
    exact Nat.le_add_right ..

/-- A bound is not read later than where it seems to start first. -/
theorem length_le_of_parse {text name : List Char} {bound : SourceType} (front back : List Char)
    (trimmed : trim text = text)
    (read : parse text = .ok (.typeVariable (String.ofList name) bound))
    (text_eq : text = front ++ " extends ".toList ++ back) : name.length ≤ front.length := by
  have outline := outline_shape text
  rw [parse_eq_ok_iff, trimmed] at read
  cases found : shape text with
  | typeVariable other part =>
      rw [found] at read outline
      obtain ⟨type, -, type_eq⟩ := read
      obtain ⟨name_eq, -⟩ := SourceType.typeVariable.inj type_eq
      obtain rfl := String.ofList_injective name_eq
      cases outline with
      | typeVariable use named cut_eq outside =>
          have least := (cut?_eq_some_iff.1 cut_eq).least front back text_eq
          exact (length_trim_le _).trans least
  | _ => simp [found, Shape.Yields] at read

theorem not_mem_of_isQualifiedName {name : List Char} (qualified : isQualifiedName name = true) :
    ' ' ∉ name := by
  intro listed
  obtain ⟨segment, known, inside⟩ := exists_mem_splitOn '.' listed (by decide)
  have isSegment := List.all_eq_true.1 qualified segment known
  cases segment with
  | nil => cases inside
  | cons first rest =>
      rw [SourceType.isSegment, Bool.and_eq_true, List.all_eq_true] at isSegment
      rcases List.mem_cons.1 inside with rfl | later
      · exact absurd isSegment.1 (by decide)
      · exact absurd (isSegment.2 ' ' later) (by decide)

theorem splitVariable?_eq_none {name : List Char} (unspaced : ' ' ∉ name) (inner : List Char) :
    splitVariable? (name ++ '<' :: inner) = none := by
  rw [splitVariable?]
  cases cut_eq : cut? " extends ".toList (name ++ '<' :: inner) with
  | none => rfl
  | some cut =>
      obtain ⟨before, after⟩ := cut
      have text_eq : name ++ '<' :: inner = before ++ ' ' :: ("extends ".toList ++ after) := by
        rw [eq_append_of_cut? cut_eq]
        simp
      refine if_pos ?_
      rcases List.append_eq_append_iff.1 text_eq with
        ⟨middle, rfl, rest_eq⟩ | ⟨middle, rfl, rest_eq⟩
      · cases middle with
        | nil => cases rest_eq
        | cons c middle =>
            obtain ⟨rfl, -⟩ := List.cons.inj rest_eq
            simp
      · cases middle with
        | nil => cases rest_eq
        | cons c middle =>
            obtain ⟨rfl, -⟩ := List.cons.inj rest_eq
            simp at unspaced

theorem parse_wildcard_iff {bound : List Char} {type : SourceType}
    (trimmed : trim ("? extends".toList ++ ' ' :: bound) = "? extends".toList ++ ' ' :: bound)
    (use : IsUse ("? extends".toList ++ ' ' :: bound)) :
    parse ("? extends".toList ++ ' ' :: bound) = .ok (.wildcard type) ↔
      parse bound = .ok type := by
  have text_eq : "? extends".toList ++ ' ' :: bound = "? ".toList ++ ("extends ".toList ++ bound) :=
    by simp
  have tailTrimmed : trim ("extends ".toList ++ bound) = "extends ".toList ++ bound := by
    rw [text_eq] at trimmed
    refine trim_eq_self_of_append "? ".toList trimmed fun c head => ?_
    obtain rfl := Option.some.inj head
    decide
  have rest_eq : trim (' ' :: ("extends ".toList ++ bound)) = "extends ".toList ++ bound := by
    rw [trim_cons (by decide), tailTrimmed]
  have outline := Outline.wildcard use (by simp) rest_eq
  rw [parse_eq_ok_iff_of_outline trimmed outline, Shape.Yields]
  simp

/-- A type variable and its bound are found again in their spelling when the name does not end in
the word that starts the bound, and only then. -/
theorem parse_typeVariable_iff {name bound : List Char} {type : SourceType}
    (trimmed : trim (name ++ " extends".toList ++ ' ' :: bound) =
      name ++ " extends".toList ++ ' ' :: bound)
    (use : IsUse (name ++ " extends".toList ++ ' ' :: bound))
    (named : (name ++ " extends".toList ++ ' ' :: bound).head? ≠ some '?')
    (outside : '<' ∉ name) (nameTrimmed : trim name = name) (boundTrimmed : trim bound = bound)
    (apart : ¬" extends ".toList <:+: name) :
    parse (name ++ " extends".toList ++ ' ' :: bound) =
        .ok (.typeVariable (String.ofList name) type) ↔
      ¬" extends".toList <:+ name ∧ parse bound = .ok type := by
  by_cases ambiguous : " extends".toList <:+ name
  · refine iff_of_false (fun read => ?_) fun both => both.1 ambiguous
    obtain ⟨front, rfl⟩ := ambiguous
    have short := length_le_of_parse front ("extends ".toList ++ bound) trimmed read (by simp)
    simp only [List.length_append] at short
    have : " extends".toList.length = 8 := rfl
    omega
  · have outline := Outline.typeVariable use named (cut?_bound ambiguous apart) outside
    rw [parse_eq_ok_iff_of_outline trimmed outline, Shape.Yields, nameTrimmed, boundTrimmed]
    simpa using fun _ => ambiguous

theorem parse_generic_iff {name first : List Char} {more : List (List Char)}
    {types : List SourceType}
    (trimmed : trim (name ++ '<' :: (joinArguments first more ++ ['>'])) =
      name ++ '<' :: (joinArguments first more ++ ['>']))
    (use : IsUse (name ++ '<' :: (joinArguments first more ++ ['>'])))
    (named : (name ++ '<' :: (joinArguments first more ++ ['>'])).head? ≠ some '?')
    (outside : '<' ∉ name) (qualified : isQualifiedName name = true)
    (split : splitArguments (joinArguments first more) = first :: more) :
    parse (name ++ '<' :: (joinArguments first more ++ ['>'])) =
        .ok (.declared (String.ofList name) types) ↔
      List.Forall₂ (fun arg type => parse arg = .ok type) (first :: more) types := by
  have unsplit := splitVariable?_eq_none (not_mem_of_isQualifiedName qualified)
    (joinArguments first more ++ ['>'])
  have outline := Outline.generic use named unsplit rfl outside
  rw [parse_eq_ok_iff_of_outline trimmed outline, split, Shape.Yields]
  simp [qualified]

/-- The spelling of a type that was read is read back as the same type when it is unambiguous, and
only then. -/
theorem parse_chars_iff {input : List Char} {type : SourceType} (read : parse input = .ok type) :
    parse (type.chars true) = .ok type ↔ type.isUnambiguous = true := by
  refine parse_induction (motive := fun _ type =>
    parse (type.chars true) = .ok type ↔ type.isUnambiguous = true) ?_ read
  intro input found type outline yields ih
  have read : parse input = .ok type := parse_eq_ok_iff.2 (by rwa [shape_eq_iff.2 outline])
  have resembles := resembles_of_parse read
  have trimmed := resembles.trim_eq (trim_trim input)
  cases outline with
  | blank nil => exact yields.elim
  | otherWildcard => exact yields.elim
  | unbalanced => exact yields.elim
  | unresolved text_eq =>
      obtain rfl := yields
      rw [chars_unresolved] at trimmed ⊢
      rw [parse_eq_ok_iff_of_outline trimmed (.unresolved rfl), Shape.Yields, trim_trim]
      exact iff_of_true rfl rfl
  | @array component unmarked text_eq =>
      obtain ⟨type, partRead, rfl⟩ := yields
      rw [chars_array] at trimmed resembles ⊢
      rw [parse_eq_ok_iff_of_outline trimmed (.array (resembles.head ▸ unmarked) rfl), Shape.Yields]
      simpa using ih component List.mem_cons_self _ partRead
  | void text_eq =>
      obtain rfl := yields
      exact iff_of_true (parse_eq_ok_iff.2 rfl) rfl
  | @primitive kind text_eq =>
      obtain rfl := yields
      exact iff_of_true (parse_eq_ok_iff.2 (by cases kind <;> rfl)) rfl
  | anyWildcard use text_eq nil =>
      obtain rfl := yields
      exact iff_of_true (parse_eq_ok_iff.2 rfl) rfl
  | @wildcard rest bound use text_eq rest_eq =>
      obtain ⟨type, partRead, rfl⟩ := yields
      rw [chars_wildcard] at trimmed resembles ⊢
      have use := resembles.isUse use (c := ' ') (by simp) (.inl rfl)
      rw [parse_wildcard_iff trimmed use, isUnambiguous_wildcard]
      exact ih bound List.mem_cons_self _ partRead
  | @typeVariable before after use named cut_eq outside =>
      obtain ⟨type, partRead, rfl⟩ := yields
      have partTrimmed := (resembles_of_parse partRead).trim_eq (trim_trim _)
      rw [chars_typeVariable] at trimmed resembles ⊢
      have use := resembles.isUse use (c := ' ') (by simp) (.inl rfl)
      have apart : ¬" extends ".toList <:+: trim before := fun inside =>
        not_isInfix_of_cut? (by decide) cut_eq (inside.trans (trim_isInfix before))
      have outside : '<' ∉ trim before := fun listed =>
        outside ((trim_isInfix before).subset listed)
      rw [parse_typeVariable_iff trimmed use (resembles.head ▸ named) outside (trim_trim before)
        partTrimmed apart, isUnambiguous_typeVariable_iff]
      exact and_congr_right fun _ => ih (trim after) List.mem_cons_self _ partRead
  | plain use named unsplit outside =>
      obtain ⟨qualified, rfl⟩ := yields
      rw [chars_plain, parse_eq_ok_iff, trim_trim, ← parse_eq_ok_iff]
      exact iff_of_true read rfl
  | @generic name inner use named unsplit text_eq outside =>
      obtain ⟨qualified, reads, allRead, rfl⟩ := yields
      have resemble := allRead.imp fun _ _ => resembles_of_parse
      obtain ⟨type, types, rfl⟩ := exists_cons_of_forall₂ resemble
      rw [chars_generic] at trimmed resembles ⊢
      have use := resembles.isUse use (c := '<') (by simp) (.inr rfl)
      rw [parse_generic_iff trimmed use (resembles.head ▸ named) outside qualified
        (splitArguments_chars resemble).1, isUnambiguous_declared, areUnambiguous_iff,
        ← List.map_cons, List.forall₂_map_left_iff, List.forall₂_same]
      refine forall₂_congr fun read listed => ?_
      have done := parseAll_eq_ok_iff.2 allRead
      rw [parseAll_eq_mapM] at done
      obtain ⟨arg, argListed, argRead⟩ := exists_ok_of_mem_mapM done listed
      exact ih arg argListed read argRead

/-- Whether the full spelling of a type reads back as the type. -/
def ReadsBack (type : SourceType) : Prop := ofText type.spelled = .ok type

instance : DecidablePred ReadsBack := fun type =>
  inferInstanceAs (Decidable (ofText type.spelled = .ok type))

/-- A type that was read from any text is read back from its spelling exactly when no name of a
type variable in it ends in a blank and the word that starts a bound. -/
theorem readsBack_iff_isUnambiguous {text : String} {type : SourceType}
    (read : ofText text = .ok type) : type.ReadsBack ↔ type.isUnambiguous = true := by
  rw [ReadsBack, spelled, ofText, String.toList_ofList]
  exact parse_chars_iff read

/-- A text with constructs of all sorts inside one another. -/
def nestedText : String := " a.Map<K  extends a.List< ? extends !  b.Later>,int [] , a.Set<?>,b>[]"

/-- What the text with constructs of all sorts is read as. -/
def nestedType : SourceType :=
  let bound := SourceType.declared "a.List" [.wildcard (.unresolved "b.Later")]
  .array (.declared "a.Map" [.typeVariable "K" bound, .array (.primitive .int),
    .declared "a.Set" [.anyWildcard], .named "b"])

theorem readsBack_iff_isUnambiguous_nestedType : ofText nestedText = .ok nestedType ∧
    (nestedType.ReadsBack ↔ nestedType.isUnambiguous = true) := by
  have read : ofText nestedText = .ok nestedType := by decide +kernel
  exact ⟨read, readsBack_iff_isUnambiguous read⟩

/-- A type variable whose name ends in the word that starts a bound is cut too early. -/
theorem not_readsBack_typeVariable :
    ofText "a extends\t extends B" = .ok (.typeVariable "a extends" (.named "B")) ∧
      ofText (SourceType.typeVariable "a extends" (.named "B")).spelled =
        .error ⟨"extends B", .malformedName⟩ := by
  decide +kernel

end SourceType
end Companion
