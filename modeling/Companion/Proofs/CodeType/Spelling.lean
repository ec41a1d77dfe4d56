import Companion.Code.Imports
import Companion.Proofs.ClassName
import Companion.Proofs.CodeType.Outline
import Companion.Proofs.SourceType.Spelling
import Companion.Proofs.Text.Arguments

/-!
# Spellings of generated code read back

A class name is cut from a text wherever the brackets and commas leave it, and may itself end in
closing brackets.  In the spelling of a type they close brackets of the types around it, after which
a comma no longer stands inside.  The text that the type was read from is cut in the same way, but
not what it leaves out: the spelling of a wildcard drops whatever kept the brackets open.
-/

namespace Companion
namespace CodeType

open Text

/-- The closing brackets in the names of several classes. -/
def closers (classes : List ClassName) : Nat :=
  (classes.flatMap fun name => name.canonical.toList).count '>'

theorem closers_cons (name : ClassName) (classes : List ClassName) :
    closers (name :: classes) = name.canonical.toList.count '>' + closers classes := by
  rw [closers, List.flatMap_cons, List.count_append]
  rfl

theorem closers_append (front back : List ClassName) :
    closers (front ++ back) = closers front + closers back := by
  rw [closers, List.flatMap_append, List.count_append]
  rfl

/-- Whether no class name opens a bracket. -/
def Unopened (classes : List ClassName) : Prop :=
  ∀ name ∈ classes, '<' ∉ name.canonical.toList

theorem Unopened.of_append {front back : List ClassName} (unopened : Unopened (front ++ back)) :
    Unopened front ∧ Unopened back :=
  List.forall_mem_append.1 unopened

theorem chars_parameterized (raw : ClassName) (arg : CodeType) (args : List CodeType) :
    chars (.parameterized raw (arg :: args)) =
      raw.canonical.toList ++ '<' :: (arg.chars ++ charsAfter args ++ ['>']) := by
  change raw.canonical.toList ++ '<' :: chars arg ++ charsAfter args ++ ['>'] = _
  simp

theorem chars_parameterized_nil (raw : ClassName) :
    chars (.parameterized raw []) = raw.canonical.toList ++ '<' :: ([] ++ ['>']) := rfl

theorem chars_array (component : CodeType) :
    chars (.array component) = component.chars ++ ['[', ']'] := rfl

theorem chars_wildcard (bound : CodeType) :
    chars (.wildcard bound) = "? extends ".toList ++ bound.chars := rfl

theorem charsAfter_cons (type : CodeType) (types : List CodeType) :
    charsAfter (type :: types) = ", ".toList ++ type.chars ++ charsAfter types := rfl

/-- Brackets that are opened after the depth of a class name are closed again. -/
theorem depthAlong_generic (depth : Nat) {name : List Char} (unopened : '<' ∉ name)
    (inner : List Char) : depthAlong depth (name ++ '<' :: (inner ++ ['>'])) =
      depthAlong (depth - name.count '>' + 1) inner - 1 := by
  rw [depthAlong_append, depthAlong_of_not_mem depth unopened, depthAlong_cons, depthAfter_open,
    depthAlong_append, depthAlong_cons, depthAfter_close]
  rfl

mutual

/-- Brackets in the spelling of a type are closed, apart from those in class names. -/
theorem depthAlong_chars : ∀ (type : CodeType) (depth : Nat), Unopened type.classes →
    depthAlong depth type.chars = depth - closers type.classes
  | .void, depth, _ => by
    have unopened : '<' ∉ "void".toList := by decide
    exact depthAlong_of_not_mem depth unopened
  | .primitive kind, depth, _ => by
    have unopened : '<' ∉ kind.keyword.toList := by cases kind <;> decide
    have unclosed : kind.keyword.toList.count '>' = 0 := by cases kind <;> decide
    change depthAlong depth kind.keyword.toList = depth - 0
    rw [depthAlong_of_not_mem depth unopened, unclosed]
  | .classType name, depth, unopened => by
    change depthAlong depth name.canonical.toList = depth - closers [name]
    rw [depthAlong_of_not_mem depth (unopened name List.mem_cons_self), closers_cons]
    rfl
  | .parameterized raw [], depth, unopened => by
    rw [chars_parameterized_nil, depthAlong_generic depth (unopened raw List.mem_cons_self)]
    change depth - _ + 1 - 1 = depth - closers [raw]
    rw [closers_cons, Nat.add_sub_cancel]
    rfl
  | .parameterized raw (arg :: args), depth, unopened => by
    obtain ⟨rawUnopened, argsUnopened⟩ := List.forall_mem_cons.1 unopened
    obtain ⟨argUnopened, restUnopened⟩ := Unopened.of_append argsUnopened
    rw [chars_parameterized, depthAlong_generic depth rawUnopened, depthAlong_append,
      depthAlong_chars arg _ argUnopened, depthAlong_charsAfter args _ restUnopened, classes,
      classesOfAll, closers_cons, closers_append]
    omega
  | .array component, depth, unopened => by
    rw [chars_array, depthAlong_append, depthAlong_chars component depth unopened]
    rfl
  | .anyWildcard, _, _ => rfl
  | .wildcard bound, depth, unopened => by
    rw [chars_wildcard, depthAlong_append]
    exact depthAlong_chars bound depth unopened

theorem depthAlong_charsAfter : ∀ (types : List CodeType) (depth : Nat),
    Unopened (classesOfAll types) →
      depthAlong depth (charsAfter types) = depth - closers (classesOfAll types)
  | [], _, _ => rfl
  | type :: types, depth, unopened => by
    obtain ⟨hereUnopened, laterUnopened⟩ := Unopened.of_append unopened
    rw [charsAfter_cons, depthAlong_append, depthAlong_append]
    change depthAlong (depthAlong depth type.chars) (charsAfter types) = _
    rw [depthAlong_chars type depth hereUnopened, depthAlong_charsAfter types _ laterUnopened,
      classesOfAll, closers_append, Nat.sub_sub]

end

mutual

/-- Whether no class name in an argument but the last, here or further inside, has a closing
bracket. -/
def isSealed : CodeType → Bool
  | .parameterized _ args =>
    (args.dropLast.all fun arg => closers arg.classes = 0) && areSealed args
  | .array component => component.isSealed
  | .wildcard bound => bound.isSealed
  | _ => true

/-- Whether this is so of several types. -/
def areSealed : List CodeType → Bool
  | [] => true
  | type :: types => type.isSealed && areSealed types

end

/-- Whether the arguments of a type, be it inside an array or a wildcard, are sealed. -/
def hasSealedArguments : CodeType → Bool
  | .parameterized _ args => args.all isSealed
  | .array component => component.hasSealedArguments
  | .wildcard bound => bound.hasSealedArguments
  | _ => true

theorem areSealed_iff {types : List CodeType} :
    areSealed types = true ↔ ∀ type ∈ types, type.isSealed = true := by
  induction types with
  | nil => exact iff_of_true rfl nofun
  | cons type types ih => rw [areSealed, Bool.and_eq_true, ih, List.forall_mem_cons]

theorem isSealed_parameterized_iff {raw : ClassName} {args : List CodeType} :
    isSealed (.parameterized raw args) = true ↔
      (∀ arg ∈ args.dropLast, closers arg.classes = 0) ∧ ∀ arg ∈ args, arg.isSealed = true := by
  rw [isSealed, Bool.and_eq_true, areSealed_iff, List.all_eq_true]
  simp only [decide_eq_true_eq]

/-- Arguments inside brackets stay there unless a class name in one but the last closes them. -/
theorem isUncut_arguments_iff {type : CodeType} {types : List CodeType}
    (unopened : ∀ arg ∈ type :: types, Unopened arg.classes)
    (uncut : ∀ arg ∈ type :: types, isUncut 0 arg.chars = true) :
    isUncut 1 (type.chars ++ charsAfter types) = true ↔
      ∀ arg ∈ (type :: types).dropLast, closers arg.classes = 0 := by
  induction types generalizing type with
  | nil =>
      have here := isUncut_of_le (Nat.zero_le 1) (uncut type List.mem_cons_self)
      rw [charsAfter, List.append_nil]
      exact iff_of_true here nofun
  | cons next types ih =>
      obtain ⟨hereUnopened, laterUnopened⟩ := List.forall_mem_cons.1 unopened
      obtain ⟨hereUncut, laterUncut⟩ := List.forall_mem_cons.1 uncut
      rw [isUncut_append, isUncut_of_le (Nat.zero_le 1) hereUncut,
        depthAlong_chars type 1 hereUnopened, List.dropLast_cons_cons, List.forall_mem_cons,
        ← ih laterUnopened laterUncut, Bool.true_and, charsAfter_cons, List.append_assoc]
      by_cases kept : closers type.classes = 0
      · rw [kept]
        exact (and_iff_right rfl).symm
      · have closed : 1 - closers type.classes = 0 := by omega
        rw [closed]
        exact iff_of_false nofun fun both => kept both.1

/-! ## Types that were read -/

/-- Whether a spelling has no blanks around it and is an array only if the text is one. -/
structure Follows (text spelling : List Char) : Prop where
  notNil : spelling ≠ []
  trimmed : trim spelling = spelling
  brackets : ['[', ']'] <:+ spelling → ['[', ']'] <:+ text

theorem ne_nil_of_ofText {name : List Char} {raw : ClassName}
    (named : ClassName.ofText (String.ofList name) = .ok raw) : name ≠ [] := by
  rintro rfl
  cases named

theorem canonical_eq {name : List Char} {raw : ClassName}
    (named : ClassName.ofText (String.ofList name) = .ok raw) :
    raw.canonical.toList = name := by
  rw [ClassName.canonical_of_ofText named, String.toList_ofList]

theorem exists_parse_of_mem {args : List (List Char)} {reads : List CodeType}
    (allRead : List.Forall₂ (fun arg read => parse arg = .ok read) args reads) {read : CodeType}
    (listed : read ∈ reads) : ∃ arg ∈ args, parse arg = .ok read := by
  have done := parseAll_eq_ok_iff.2 allRead
  rw [parseAll_eq_mapM] at done
  exact exists_ok_of_mem_mapM done listed

theorem mem_classesOfAll {types : List CodeType} {name : ClassName} :
    name ∈ classesOfAll types ↔ ∃ type ∈ types, name ∈ type.classes := by
  induction types with
  | nil => simp [classesOfAll]
  | cons type types ih => rw [classesOfAll, List.mem_append, ih, List.exists_mem_cons_iff]

/-- A class name stands before the first bracket that opens. -/
theorem unopened_of_parse {input : List Char} {type : CodeType} (read : parse input = .ok type) :
    Unopened type.classes := by
  refine parse_induction (motive := fun _ type => Unopened type.classes) ?_ read
  intro input found type outline yields ih
  cases outline with
  | void => obtain rfl := yields; exact nofun
  | primitive => obtain rfl := yields; exact nofun
  | anyWildcard => obtain rfl := yields; exact nofun
  | unbalanced => exact yields.elim
  | @array component =>
      obtain ⟨type, partRead, rfl⟩ := yields
      exact ih component List.mem_cons_self type partRead
  | @wildcard _ bound =>
      obtain ⟨type, partRead, rfl⟩ := yields
      exact ih bound List.mem_cons_self type partRead
  | plain use named outside =>
      obtain ⟨raw, rawNamed, rfl⟩ := yields
      refine List.forall_mem_singleton.2 ?_
      rw [canonical_eq rawNamed]
      exact outside
  | generic use named text_eq outside =>
      obtain ⟨reads, allRead, raw, rawNamed, rfl⟩ := yields
      refine List.forall_mem_cons.2 ⟨?_, fun name listed => ?_⟩
      · rw [canonical_eq rawNamed]
        exact outside
      · obtain ⟨read, known, inside⟩ := mem_classesOfAll.1 listed
        obtain ⟨arg, argKnown, argRead⟩ := exists_parse_of_mem allRead known
        exact ih arg argKnown read argRead name inside

theorem not_isSuffix_generic (name inner : List Char) :
    ¬['[', ']'] <:+ name ++ '<' :: (inner ++ ['>']) := by
  rw [isSuffix_append_cons_iff (by decide), isSuffix_append_cons_iff (by decide)]
  decide

theorem trim_generic {name : List Char} (notNil : name ≠ []) {text : List Char}
    (trimmed : trim (name ++ text) = name ++ text) (inner : List Char) :
    trim (name ++ '<' :: (inner ++ ['>'])) = name ++ '<' :: (inner ++ ['>']) := by
  obtain ⟨c, rest, rfl⟩ := List.exists_cons_of_ne_nil notNil
  refine trim_eq_self (fun d head => ?_) fun d last => ?_
  · obtain rfl := Option.some.inj head
    exact isBlank_of_head? trimmed rfl
  · rw [← List.cons_append, ← List.append_assoc, List.getLast?_concat] at last
    obtain rfl := Option.some.inj last
    decide

/-- The bound of a wildcard ends where the text does. -/
theorem trim_isSuffix_wildcard {rest bound : List Char} (trimmed : trim ('?' :: rest) = '?' :: rest)
    (rest_eq : trim rest = "extends ".toList ++ bound) : trim bound <:+ '?' :: rest := by
  have startsText := trimmed
  rw [← List.nil_append ('?' :: rest)] at startsText
  obtain ⟨front, split_eq, -, -⟩ := exists_eq_append_trim_of_trim_eq startsText
  have text_eq : '?' :: rest = ('?' :: front ++ "extends".toList) ++ ' ' :: bound := by
    rw [congrArg ('?' :: ·) split_eq, rest_eq]
    simp
  rw [text_eq] at trimmed ⊢
  obtain ⟨blanks, bound_eq, -, -⟩ := exists_eq_append_trim_of_trim_eq trimmed
  have inBound : trim bound <:+ bound := ⟨blanks, bound_eq.symm⟩
  exact inBound.trans ((List.suffix_cons ' ' bound).trans (List.suffix_append ..))

/-- The spelling of a type may stand for every text that is read as the type. -/
theorem follows_of_parse {input : List Char} {type : CodeType} (read : parse input = .ok type) :
    Follows (trim input) type.chars := by
  refine parse_induction (motive := fun input type => Follows (trim input) type.chars) ?_ read
  intro input found type outline yields ih
  have trimmed := trim_trim input
  generalize trim input = text at outline trimmed ⊢
  cases outline with
  | unbalanced => exact yields.elim
  | void text_eq =>
      obtain rfl := yields
      subst text_eq
      exact ⟨by decide, trimmed, id⟩
  | @primitive kind text_eq =>
      obtain rfl := yields
      subst text_eq
      exact ⟨by cases kind <;> decide, trimmed, id⟩
  | anyWildcard =>
      obtain rfl := yields
      exact ⟨by decide, by decide, fun brackets => absurd brackets (by decide)⟩
  | @array component text_eq =>
      obtain ⟨type, partRead, rfl⟩ := yields
      have follows := ih component List.mem_cons_self type partRead
      rw [chars_array]
      refine ⟨by simp, ?_, fun _ => ⟨component, text_eq.symm⟩⟩
      obtain ⟨c, rest, chars_eq⟩ := List.exists_cons_of_ne_nil follows.notNil
      refine trim_eq_self (fun d head => ?_) fun d last => ?_
      · rw [chars_eq] at head
        obtain rfl := Option.some.inj head
        exact isBlank_of_head? follows.trimmed (congrArg List.head? chars_eq)
      · rw [List.getLast?_append_of_ne_nil _ (by decide)] at last
        obtain rfl := Option.some.inj last
        decide
  | @wildcard rest bound use text_eq rest_eq =>
      obtain ⟨type, partRead, rfl⟩ := yields
      have follows := ih bound List.mem_cons_self type partRead
      rw [chars_wildcard]
      refine ⟨by simp, trim_eq_self (fun d head => ?_) fun d last => ?_, fun brackets => ?_⟩
      · obtain rfl := Option.some.inj head
        decide
      · rw [List.getLast?_append_of_ne_nil _ follows.notNil] at last
        exact isBlank_of_getLast? follows.trimmed last
      · have unbracketed : ∀ c ∈ "? extends ".toList, c ∉ ['[', ']'] := by
          intro c listed inside
          rcases List.mem_pair.1 inside with rfl | rfl <;> exact absurd listed (by decide)
        have inBound := (isSuffix_append_iff unbracketed).1 brackets
        rw [text_eq] at trimmed ⊢
        exact (follows.brackets inBound).trans (trim_isSuffix_wildcard trimmed rest_eq)
  | plain use named outside =>
      obtain ⟨raw, rawNamed, rfl⟩ := yields
      change Follows text raw.canonical.toList
      rw [canonical_eq rawNamed]
      exact ⟨ne_nil_of_ofText rawNamed, trimmed, id⟩
  | @generic name inner use named text_eq outside =>
      obtain ⟨reads, allRead, raw, rawNamed, rfl⟩ := yields
      obtain ⟨type, types, rfl⟩ := exists_cons_of_forall₂ allRead
      rw [chars_parameterized, canonical_eq rawNamed]
      rw [text_eq] at trimmed
      exact ⟨by simp, trim_generic (ne_nil_of_ofText rawNamed) trimmed _,
        fun brackets => absurd brackets (not_isSuffix_generic name _)⟩

theorem charsAfter_eq_flatMap (types : List CodeType) :
    charsAfter types =
      (types.map fun type => ' ' :: type.chars).flatMap fun piece => ',' :: piece := by
  induction types with
  | nil => rfl
  | cons type types ih => rw [List.map_cons, List.flatMap_cons, ← ih]; rfl

/-- Types are found again in their spellings as arguments if each stays in one piece, and only
then. -/
theorem parse_arguments_iff {type : CodeType} {types : List CodeType}
    (trimmed : ∀ arg ∈ type :: types, trim arg.chars = arg.chars)
    (unopened : ∀ arg ∈ type :: types, Unopened arg.classes) :
    List.Forall₂ (fun piece arg => parse piece = .ok arg)
        (splitArguments (type.chars ++ charsAfter types)) (type :: types) ↔
      ∀ arg ∈ type :: types, isUncut 0 arg.chars = true ∧ parse arg.chars = .ok arg := by
  let pieces := types.map fun arg => ' ' :: arg.chars
  have spelled : type.chars ++ charsAfter types = joinArguments type.chars pieces := by
    rw [charsAfter_eq_flatMap, joinArguments]
  have level : ∀ arg ∈ type :: types, depthAlong 0 arg.chars = 0 := fun arg listed => by
    rw [depthAlong_chars arg 0 (unopened arg listed), Nat.zero_sub]
  have closed : ∀ piece ∈ type.chars :: pieces, depthAlong 0 piece = 0 := by
    obtain ⟨here, later⟩ := List.forall_mem_cons.1 level
    exact List.forall_mem_cons.2 ⟨here, List.forall_mem_map.2 later⟩
  have uncut_iff : (∀ piece ∈ type.chars :: pieces, isUncut 0 piece = true) ↔
      ∀ arg ∈ type :: types, isUncut 0 arg.chars = true := by
    rw [List.forall_mem_cons, List.forall_mem_cons, List.forall_mem_map]
    exact Iff.rfl
  have trim_pieces : (type.chars :: pieces).map trim = (type :: types).map chars := by
    obtain ⟨here, later⟩ := List.forall_mem_cons.1 trimmed
    rw [List.map_cons, List.map_map, here, List.map_cons]
    refine congrArg (type.chars :: ·) (List.map_congr_left fun arg listed => ?_)
    exact (trim_cons (by decide) arg.chars).trans (later arg listed)
  rw [spelled]
  constructor
  · intro allRead
    have length_eq : (splitArguments (joinArguments type.chars pieces)).length =
        pieces.length + 1 := by
      rw [allRead.length_eq, List.length_cons, List.length_map]
    have uncut := isUncut_of_length_splitArguments closed length_eq
    rw [splitArguments_of_isUncut closed uncut, trim_pieces, List.forall₂_map_left_iff,
      List.forall₂_same] at allRead
    exact fun arg listed => ⟨uncut_iff.1 uncut arg listed, allRead arg listed⟩
  · intro both
    have uncut := uncut_iff.2 fun arg listed => (both arg listed).1
    rw [splitArguments_of_isUncut closed uncut, trim_pieces, List.forall₂_map_left_iff,
      List.forall₂_same]
    exact fun arg listed => (both arg listed).2

theorem parse_array_iff {component : List Char} {type : CodeType}
    (trimmed : trim (component ++ ['[', ']']) = component ++ ['[', ']']) :
    parse (component ++ ['[', ']']) = .ok (.array type) ↔ parse component = .ok type := by
  rw [parse_eq_ok_iff_of_outline trimmed (.array rfl), Shape.Yields]
  simp

theorem parse_wildcard_iff {bound : List Char} {type : CodeType}
    (trimmed : trim ("? extends ".toList ++ bound) = "? extends ".toList ++ bound)
    (notArray : ¬['[', ']'] <:+ "? extends ".toList ++ bound) :
    parse ("? extends ".toList ++ bound) = .ok (.wildcard type) ↔ parse bound = .ok type := by
  have use : IsUse ("? extends ".toList ++ bound) :=
    ⟨SourceType.not_isWord_of_mem (c := ' ') (by simp) (.inl rfl), notArray⟩
  have tailTrimmed : trim ("extends ".toList ++ bound) = "extends ".toList ++ bound := by
    refine trim_eq_self_of_append "? ".toList trimmed fun c head => ?_
    obtain rfl := Option.some.inj head
    decide
  have rest_eq : trim (" extends ".toList ++ bound) = "extends ".toList ++ bound :=
    (trim_cons (by decide) _).trans tailTrimmed
  rw [parse_eq_ok_iff_of_outline trimmed (.wildcard use rfl rest_eq), Shape.Yields]
  simp

theorem parse_generic_iff {name inner : List Char} {raw : ClassName} {types : List CodeType}
    (trimmed : trim (name ++ '<' :: (inner ++ ['>'])) = name ++ '<' :: (inner ++ ['>']))
    (named : (name ++ '<' :: (inner ++ ['>'])).head? ≠ some '?') (outside : '<' ∉ name)
    (rawNamed : ClassName.ofText (String.ofList name) = .ok raw) :
    parse (name ++ '<' :: (inner ++ ['>'])) = .ok (.parameterized raw types) ↔
      List.Forall₂ (fun piece type => parse piece = .ok type) (splitArguments inner) types := by
  have use : IsUse (name ++ '<' :: (inner ++ ['>'])) :=
    ⟨SourceType.not_isWord_of_mem (c := '<') (by simp) (.inr rfl), not_isSuffix_generic name inner⟩
  rw [parse_eq_ok_iff_of_outline trimmed (.generic use named rfl outside), Shape.Yields, rawNamed]
  simp

theorem isUncut_generic {name : List Char} (outside : '<' ∉ name) (unlisted : ',' ∉ name)
    (inner : List Char) : isUncut 0 (name ++ '<' :: (inner ++ ['>'])) = isUncut 1 inner := by
  have level : depthAlong 0 name = 0 := by
    rw [depthAlong_of_not_mem 0 outside, Nat.zero_sub]
  rw [isUncut_append, isUncut_of_comma_not_mem 0 unlisted, level, Bool.true_and]
  change isUncut 1 (inner ++ ['>']) = isUncut 1 inner
  rw [isUncut_append]
  exact Bool.and_true _

/-- Sealing decides whether the spelling of a type that was read from a text is read back, by itself
and as an argument in the place of the text. -/
structure Judged (input : List Char) (type : CodeType) : Prop where
  inside : isUncut 0 input = true →
    (isUncut 0 type.chars = true ∧ parse type.chars = .ok type ↔ type.isSealed = true)
  alone : parse type.chars = .ok type ↔ type.hasSealedArguments = true

theorem Judged.generic {name inner : List Char} {raw : ClassName} {type : CodeType}
    {types : List CodeType}
    (trimmed : trim (name ++ '<' :: (inner ++ ['>'])) = name ++ '<' :: (inner ++ ['>']))
    (named : (name ++ '<' :: (inner ++ ['>'])).head? ≠ some '?') (outside : '<' ∉ name)
    (rawNamed : ClassName.ofText (String.ofList name) = .ok raw)
    (allRead : List.Forall₂ (fun arg read => parse arg = .ok read) (splitArguments inner)
      (type :: types))
    (judged : ∀ arg ∈ splitArguments inner, ∀ read, parse arg = .ok read → Judged arg read) :
    Judged (name ++ '<' :: (inner ++ ['>'])) (.parameterized raw (type :: types)) := by
  have notNil := ne_nil_of_ofText rawNamed
  have eachRead : ∀ read ∈ type :: types, ∃ arg ∈ splitArguments inner, parse arg = .ok read :=
    fun read listed => exists_parse_of_mem allRead listed
  have unopened : ∀ read ∈ type :: types, Unopened read.classes := fun read listed => by
    obtain ⟨arg, -, argRead⟩ := eachRead read listed
    exact unopened_of_parse argRead
  have spelled : ∀ read ∈ type :: types, trim read.chars = read.chars := fun read listed => by
    obtain ⟨arg, -, argRead⟩ := eachRead read listed
    exact (follows_of_parse argRead).trimmed
  have each : (∀ read ∈ type :: types, isUncut 0 read.chars = true ∧
      parse read.chars = .ok read) ↔ ∀ read ∈ type :: types, read.isSealed = true := by
    refine forall₂_congr fun read listed => ?_
    obtain ⟨arg, known, argRead⟩ := eachRead read listed
    exact (judged arg known read argRead).inside (isUncut_of_mem_splitArguments known)
  have readsBack : parse (chars (.parameterized raw (type :: types))) =
      .ok (.parameterized raw (type :: types)) ↔
        ∀ read ∈ type :: types, read.isSealed = true := by
    have head : (name ++ '<' :: (type.chars ++ charsAfter types ++ ['>'])).head? ≠ some '?' := by
      obtain ⟨c, rest, rfl⟩ := List.exists_cons_of_ne_nil notNil
      exact named
    rw [chars_parameterized, canonical_eq rawNamed,
      parse_generic_iff (trim_generic notNil trimmed _) head outside rawNamed,
      parse_arguments_iff spelled unopened, each]
  refine ⟨fun uncut => ?_, readsBack.trans List.all_eq_true.symm⟩
  have unlisted := comma_not_mem_of_isUncut outside uncut
  rw [readsBack, isSealed_parameterized_iff, chars_parameterized, canonical_eq rawNamed,
    isUncut_generic outside unlisted]
  refine and_congr_left fun allSealed => ?_
  exact isUncut_arguments_iff unopened fun read listed => (each.2 allSealed read listed).1

theorem judged_of_parse {input : List Char} {type : CodeType} (read : parse input = .ok type) :
    Judged (trim input) type := by
  refine parse_induction (motive := fun input type => Judged (trim input) type) ?_ read
  intro input found type outline yields ih
  have read : parse input = .ok type := parse_eq_ok_iff.2 (by rwa [shape_eq_iff.2 outline])
  have follows := follows_of_parse read
  have trimmed := trim_trim input
  generalize trim input = text at outline trimmed follows ⊢
  cases outline with
  | unbalanced => exact yields.elim
  | void text_eq =>
      obtain rfl := yields
      have readsBack : parse "void".toList = .ok .void := parse_eq_ok_iff.2 rfl
      exact ⟨fun _ => iff_of_true ⟨by decide, readsBack⟩ rfl, iff_of_true readsBack rfl⟩
  | @primitive kind text_eq =>
      obtain rfl := yields
      have readsBack : parse kind.keyword.toList = .ok (.primitive kind) :=
        parse_eq_ok_iff.2 (by cases kind <;> rfl)
      exact ⟨fun _ => iff_of_true ⟨by cases kind <;> decide, readsBack⟩ rfl,
        iff_of_true readsBack rfl⟩
  | anyWildcard =>
      obtain rfl := yields
      have readsBack : parse ['?'] = .ok .anyWildcard := parse_eq_ok_iff.2 rfl
      exact ⟨fun _ => iff_of_true ⟨by decide, readsBack⟩ rfl, iff_of_true readsBack rfl⟩
  | @array component text_eq =>
      obtain ⟨type, partRead, rfl⟩ := yields
      have judged := ih component List.mem_cons_self type partRead
      have alone : _ ↔ parse type.chars = .ok type := parse_array_iff follows.trimmed
      have bracketsUncut := fun depth =>
        isUncut_of_comma_not_mem depth (show ',' ∉ ['[', ']'] by decide)
      refine ⟨fun uncut => ?_, alone.trans judged.alone⟩
      rw [text_eq, isUncut_append, bracketsUncut, Bool.and_true] at uncut
      rw [chars_array, alone, isUncut_append, bracketsUncut, Bool.and_true]
      exact judged.inside ((isUncut_trim 0 component).trans uncut)
  | @wildcard rest bound use text_eq rest_eq =>
      obtain ⟨type, partRead, rfl⟩ := yields
      have judged := ih bound List.mem_cons_self type partRead
      have notArray := fun brackets => use.notArray (follows.brackets brackets)
      have alone : _ ↔ parse type.chars = .ok type :=
        parse_wildcard_iff follows.trimmed notArray
      refine ⟨fun uncut => ?_, alone.trans judged.alone⟩
      have restUncut : isUncut 0 (trim rest) = true := by
        rw [text_eq] at uncut
        exact (isUncut_trim 0 rest).trans uncut
      rw [rest_eq] at restUncut
      rw [chars_wildcard, alone]
      exact judged.inside ((isUncut_trim 0 bound).trans restUncut)
  | plain use named outside =>
      obtain ⟨raw, rawNamed, rfl⟩ := yields
      have chars_eq : chars (.classType raw) = text := canonical_eq rawNamed
      have readsBack : parse text = .ok (.classType raw) :=
        (parse_eq_ok_iff_of_outline trimmed (.plain use named outside)).2 ⟨raw, rawNamed, rfl⟩
      rw [← chars_eq] at readsBack ⊢
      exact ⟨fun uncut => iff_of_true ⟨uncut, readsBack⟩ rfl, iff_of_true readsBack rfl⟩
  | @generic name inner use named text_eq outside =>
      obtain ⟨reads, allRead, raw, rawNamed, rfl⟩ := yields
      obtain ⟨type, types, rfl⟩ := exists_cons_of_forall₂ allRead
      subst text_eq
      refine .generic trimmed named outside rawNamed allRead fun arg known read argRead => ?_
      have judged := ih arg known read argRead
      obtain ⟨piece, -, rfl⟩ := List.mem_map.1 known
      rwa [trim_trim] at judged

/-- Whether the spelling of a type reads back as the type. -/
def ReadsBack (type : CodeType) : Prop := ofText type.display = .ok type

instance : DecidablePred ReadsBack := fun type =>
  inferInstanceAs (Decidable (ofText type.display = .ok type))

/-- A type that was read from any text is read back from its spelling exactly when no class name
within its arguments, in an argument but the last of another type, has a closing bracket. -/
theorem readsBack_iff_hasSealedArguments {text : String} {type : CodeType}
    (read : ofText text = .ok type) : type.ReadsBack ↔ type.hasSealedArguments = true := by
  rw [ReadsBack, display, ofText, String.toList_ofList]
  exact (judged_of_parse read).alone

/-- A text with constructs of all sorts inside one another and a class name that closes a
bracket. -/
def nestedText : String := " a.Map< ? super b.Pair<C, D>,a.Set<? extends E [],F>>, int[][]>[]"

/-- What the text with constructs of all sorts is read as. -/
def nestedType : CodeType :=
  let set := CodeType.parameterized (.ofOuter "a" "Set")
    [.array (.wildcard (.classType (.ofOuter "" "E"))), .classType (.ofOuter "" "F>")]
  .array (.parameterized (.ofOuter "a" "Map")
    [.anyWildcard, set, .array (.array (.primitive .int))])

theorem readsBack_iff_hasSealedArguments_nestedType : ofText nestedText = .ok nestedType ∧
    (nestedType.ReadsBack ↔ nestedType.hasSealedArguments = true) := by
  have read : ofText nestedText = .ok nestedType := by decide +kernel
  exact ⟨read, readsBack_iff_hasSealedArguments read⟩

/-- A class name that closes the bracket before a comma moves what follows out of its type. -/
theorem not_readsBack_dropped :
    let inner := CodeType.parameterized (.ofOuter "" "A")
      [.parameterized (.ofOuter "" "X>") [.anyWildcard]]
    let type := CodeType.parameterized (.ofOuter "" "N")
      [.parameterized (.ofOuter "" "M") [inner, .classType (.ofOuter "" "B")]]
    ofText "N<M<A<X><?<>>, B>>" = .ok type ∧ ¬type.ReadsBack := by
  decide +kernel

end CodeType
end Companion
