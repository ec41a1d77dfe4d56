import Companion.Text.Pieces
import Mathlib.Data.List.Forall2
import Mathlib.Data.List.Induction
import Mathlib.Data.List.TakeWhile

/-!
# Trimmed texts, cuts and arguments

Trimming takes blanks off and nothing else.  A text is cut where a pattern first occurs.  Where the
commas between arguments stand depends on the brackets and commas of a text alone, so arguments that
are spelled with the same marks are told apart in the same way.
-/

namespace Companion
namespace Text

theorem exists_eq_append_trimStart (text : List Char) : ∃ front,
    text = front ++ trimStart text ∧ ∀ c ∈ front, isBlank c = true :=
  ⟨text.takeWhile isBlank, List.takeWhile_append_dropWhile.symm, fun _ => List.mem_takeWhile_imp⟩

theorem exists_eq_trimEnd_append (text : List Char) : ∃ back,
    text = trimEnd text ++ back ∧ ∀ c ∈ back, isBlank c = true := by
  obtain ⟨front, reverse_eq, blank⟩ := exists_eq_append_trimStart text.reverse
  refine ⟨front.reverse, ?_, fun c listed => blank c (List.mem_reverse.1 listed)⟩
  rw [trimEnd, ← List.reverse_append, ← trimStart, ← reverse_eq, List.reverse_reverse]

/-- What trimming takes off is blank. -/
theorem exists_eq_append_trim (text : List Char) : ∃ front back,
    text = front ++ trim text ++ back ∧ (∀ c ∈ front, isBlank c = true) ∧
      ∀ c ∈ back, isBlank c = true := by
  obtain ⟨front, start_eq, frontBlank⟩ := exists_eq_append_trimStart text
  obtain ⟨back, stop_eq, backBlank⟩ := exists_eq_trimEnd_append (trimStart text)
  refine ⟨front, back, ?_, frontBlank, backBlank⟩
  rw [List.append_assoc, trim, ← stop_eq, ← start_eq]

theorem isBlank_of_head?_trimStart {text : List Char} {c : Char}
    (head : (trimStart text).head? = some c) : isBlank c = false := by
  have stops := List.head?_dropWhile_not isBlank text
  rw [trimStart] at head
  simpa [head] using stops

theorem isBlank_of_head?_trim {text : List Char} {c : Char}
    (head : (trim text).head? = some c) : isBlank c = false := by
  obtain ⟨back, stop_eq, -⟩ := exists_eq_trimEnd_append (trimStart text)
  have startHead : (trimStart text).head? = some c := by
    rw [stop_eq, List.head?_append, ← trim, head, Option.some_or]
  exact isBlank_of_head?_trimStart startHead

theorem isBlank_of_getLast?_trim {text : List Char} {c : Char}
    (last : (trim text).getLast? = some c) : isBlank c = false := by
  rw [trim, trimEnd, List.getLast?_reverse] at last
  exact isBlank_of_head?_trimStart last

theorem trim_trim (text : List Char) : trim (trim text) = trim text :=
  trim_eq_self (fun _ => isBlank_of_head?_trim) fun _ => isBlank_of_getLast?_trim

theorem isBlank_of_head? {text : List Char} (trimmed : trim text = text) {c : Char}
    (head : text.head? = some c) : isBlank c = false := by
  rw [← trimmed] at head
  exact isBlank_of_head?_trim head

theorem isBlank_of_getLast? {text : List Char} (trimmed : trim text = text) {c : Char}
    (last : text.getLast? = some c) : isBlank c = false := by
  rw [← trimmed] at last
  exact isBlank_of_getLast?_trim last

theorem trim_eq_self_of_append (before : List Char) {after : List Char}
    (trimmed : trim (before ++ after) = before ++ after)
    (start : ∀ c, after.head? = some c → isBlank c = false) : trim after = after :=
  trim_eq_self start fun _ last =>
    isBlank_of_getLast? trimmed (by rw [List.getLast?_append, last, Option.some_or])

theorem trim_cons {c : Char} (blank : isBlank c = true) (text : List Char) :
    trim (c :: text) = trim text := by
  rw [trim, trim, trimStart, List.dropWhile_cons_of_pos blank, trimStart]

theorem eq_nil_of_isBlank {kept back : List Char} (trimmed : trim (kept ++ back) = kept ++ back)
    (blank : ∀ c ∈ back, isBlank c = true) : back = [] := by
  cases back using List.reverseRecOn with
  | nil => rfl
  | append_singleton back last =>
      have notBlank : isBlank last = false :=
        isBlank_of_getLast? trimmed (by rw [← List.append_assoc, List.getLast?_concat])
      rw [blank last (by simp)] at notBlank
      cases notBlank

/-- What follows a character of a trimmed text is trimmed at its start alone. -/
theorem exists_eq_append_trim_of_trim_eq {before after : List Char} {c : Char}
    (trimmed : trim (before ++ c :: after) = before ++ c :: after) : ∃ front,
      after = front ++ trim after ∧ (∀ d ∈ front, isBlank d = true) ∧
        (trim after = [] → after = []) := by
  obtain ⟨front, back, after_eq, frontBlank, backBlank⟩ := exists_eq_append_trim after
  have text_eq : before ++ c :: after = (before ++ c :: (front ++ trim after)) ++ back := by
    rw [congrArg (c :: ·) after_eq]
    simp
  rw [text_eq] at trimmed
  rw [eq_nil_of_isBlank trimmed backBlank, List.append_nil] at after_eq trimmed
  refine ⟨front, after_eq, frontBlank, fun nil => ?_⟩
  rw [nil, List.append_nil] at after_eq trimmed
  rw [after_eq]
  rw [List.append_cons] at trimmed
  exact eq_nil_of_isBlank trimmed frontBlank

/-- Blanks around a text do not count. -/
theorem trim_append_of_isBlank {front back : List Char} (text : List Char)
    (frontBlank : ∀ c ∈ front, isBlank c = true) (backBlank : ∀ c ∈ back, isBlank c = true) :
    trim (front ++ text ++ back) = trim text := by
  have stop_eq : ∀ kept, trimEnd (kept ++ back) = trimEnd kept := by
    intro kept
    have reversed : ∀ c ∈ back.reverse, isBlank c = true :=
      fun c listed => backBlank c (List.mem_reverse.1 listed)
    rw [trimEnd, List.reverse_append, List.dropWhile_append_of_pos reversed, trimEnd]
  rw [trim, List.append_assoc, trimStart, List.dropWhile_append_of_pos frontBlank,
    List.dropWhile_append, trim, trimStart]
  split
  · rename_i nothing
    rw [List.isEmpty_iff.1 nothing, List.dropWhile_eq_nil_iff.2 backBlank]
  · exact stop_eq _

theorem head?_trim_of_head? {text : List Char} {c : Char} (head : text.head? = some c)
    (start : isBlank c = false) : (trim text).head? = some c := by
  obtain ⟨front, back, text_eq, frontBlank, backBlank⟩ := exists_eq_append_trim text
  have notBlank : isBlank c ≠ true := Bool.eq_false_iff.1 start
  rw [text_eq, List.append_assoc, List.head?_append] at head
  cases front with
  | nil =>
      cases trim_eq : trim text with
      | nil =>
          rw [trim_eq] at head
          exact absurd (backBlank c (List.mem_of_head? head)) notBlank
      | cons first rest =>
          rw [trim_eq] at head
          exact head
  | cons first front =>
      exact absurd (frontBlank c (List.mem_of_head? head)) notBlank

theorem trim_isInfix (text : List Char) : trim text <:+: text := by
  obtain ⟨front, back, text_eq, -, -⟩ := exists_eq_append_trim text
  exact ⟨front, back, text_eq.symm⟩

/-- A pattern at the end of a text stands behind any character that it does not have. -/
theorem isSuffix_append_cons_iff {pattern before after : List Char} {c : Char}
    (other : c ∉ pattern) :
    pattern <:+ before ++ c :: after ↔ pattern <:+ after := by
  constructor
  · rintro ⟨front, same⟩
    rcases List.append_eq_append_iff.1 same with ⟨middle, -, pattern_eq⟩ | ⟨middle, -, after_eq⟩
    · exact absurd (pattern_eq ▸ List.mem_append_right middle List.mem_cons_self) other
    · cases middle with
      | nil =>
          rw [List.nil_append] at after_eq
          exact absurd (after_eq ▸ List.mem_cons_self) other
      | cons first middle =>
          obtain ⟨-, rfl⟩ := List.cons.inj after_eq
          exact ⟨middle, rfl⟩
  · intro atEnd
    exact List.suffix_append_of_suffix (List.suffix_cons_iff.2 (.inr atEnd))

theorem isSuffix_append_iff {pattern before after : List Char}
    (others : ∀ c ∈ before, c ∉ pattern) : pattern <:+ before ++ after ↔ pattern <:+ after := by
  cases before using List.reverseRecOn with
  | nil => rfl
  | append_singleton before last =>
      rw [List.append_assoc]
      exact isSuffix_append_cons_iff (others last (by simp))

theorem isPrefixOf?_eq_none_iff {pattern text : List Char} :
    pattern.isPrefixOf? text = none ↔ ¬pattern <+: text := by
  rw [← List.isPrefixOf_iff_prefix, ← List.isSome_isPrefixOf?_eq_isPrefixOf,
    Option.not_isSome_iff_eq_none]

theorem isSuffixOf?_eq_none_iff {pattern text : List Char} :
    pattern.isSuffixOf? text = none ↔ ¬pattern <:+ text := by
  rw [List.isSuffixOf?, Option.map_eq_none_iff, isPrefixOf?_eq_none_iff, List.reverse_prefix]

variable {c : Char} {front : List Char}

theorem dropWhile_ne_eq_nil_iff {text : List Char} :
    text.dropWhile (· ≠ c) = [] ↔ c ∉ text := by
  simp only [List.dropWhile_eq_nil_iff, decide_eq_true_eq]
  exact ⟨fun apart listed => apart c listed rfl,
    fun outside _ listed => ne_of_mem_of_not_mem listed outside⟩

/-- A text that is not dropped as a whole is cut at the first place of the character. -/
theorem eq_append_cons_of_dropWhile_ne {text rest : List Char} {first : Char}
    (dropped : text.dropWhile (· ≠ c) = first :: rest) :
    c ∉ text.takeWhile (· ≠ c) ∧ text = text.takeWhile (· ≠ c) ++ c :: rest := by
  have first_eq : first = c := by
    have stops := List.head?_dropWhile_not (· ≠ c) text
    rw [dropped] at stops
    simpa using stops
  refine ⟨fun listed => by simpa using List.mem_takeWhile_imp listed, ?_⟩
  rw [← first_eq, ← dropped, first_eq, List.takeWhile_append_dropWhile]

theorem takeWhile_ne_append_cons (outside : c ∉ front) (rest : List Char) :
    (front ++ c :: rest).takeWhile (· ≠ c) = front := by
  have kept := List.dropWhile_eq_nil_iff.1 (dropWhile_ne_eq_nil_iff.2 outside)
  rw [List.takeWhile_append_of_pos kept]
  simp

theorem dropWhile_ne_append_cons (outside : c ∉ front) (rest : List Char) :
    (front ++ c :: rest).dropWhile (· ≠ c) = c :: rest := by
  rw [List.dropWhile_append, dropWhile_ne_eq_nil_iff.2 outside]
  simp

/-! ## Cuts -/

/-- Whether a text is cut at the first place where a pattern occurs. -/
structure IsCut (pattern text before after : List Char) : Prop where
  /-- The pattern stands between the two parts. -/
  parts : text = before ++ pattern ++ after
  /-- It does not occur earlier. -/
  least : ∀ front back, text = front ++ pattern ++ back → before.length ≤ front.length

section

variable {pattern text before after : List Char}

theorem isCut_iff_of_startsWith {tail : List Char} (text_eq : text = pattern ++ tail) :
    IsCut pattern text before after ↔ before = [] ∧ after = tail := by
  constructor
  · rintro ⟨parts, least⟩
    obtain rfl := List.length_eq_zero_iff.1 (Nat.le_zero.1 (least [] tail text_eq))
    rw [text_eq, List.nil_append] at parts
    exact ⟨rfl, (List.append_cancel_left parts).symm⟩
  · rintro ⟨rfl, rfl⟩
    exact ⟨text_eq, fun front back _ => Nat.zero_le _⟩

theorem isCut_cons_iff {rest : List Char} (notHere : ¬pattern <+: c :: rest) :
    IsCut pattern (c :: rest) before after ↔
      ∃ later, before = c :: later ∧ IsCut pattern rest later after := by
  constructor
  · rintro ⟨parts, least⟩
    cases before with
    | nil => exact absurd ⟨after, parts.symm⟩ notHere
    | cons first later =>
        obtain ⟨rfl, rest_eq⟩ := List.cons.inj parts
        refine ⟨later, rfl, rest_eq, fun front back rest_eq => ?_⟩
        exact Nat.le_of_succ_le_succ (least (c :: front) back (congrArg (c :: ·) rest_eq))
  · rintro ⟨later, rfl, rest_eq, least⟩
    refine ⟨congrArg (c :: ·) rest_eq, fun front back text_eq => ?_⟩
    cases front with
    | nil => exact absurd ⟨back, text_eq.symm⟩ notHere
    | cons first front =>
        obtain ⟨-, rest_eq⟩ := List.cons.inj text_eq
        exact Nat.succ_le_succ (least front back rest_eq)

/-- A text is cut at the first place where the pattern occurs. -/
theorem cut?_eq_some_iff :
    cut? pattern text = some (before, after) ↔ IsCut pattern text before after := by
  induction text generalizing before with
  | nil =>
      rw [cut?]
      split
      · rename_i blank
        rw [isCut_iff_of_startsWith (List.append_nil pattern ▸ blank.symm)]
        simp [eq_comm]
      · rename_i notBlank
        refine iff_of_false (by simp) fun isCut => notBlank ?_
        exact (List.append_eq_nil_iff.1 (List.append_eq_nil_iff.1 isCut.parts.symm).1).2
  | cons c rest ih =>
      rw [cut?]
      cases here : pattern.isPrefixOf? (c :: rest) with
      | some tail =>
          rw [isCut_iff_of_startsWith (eq_append_of_isPrefixOf? here)]
          simp [eq_comm]
      | none =>
          rw [isCut_cons_iff (isPrefixOf?_eq_none_iff.1 here)]
          simp only [← ih, Option.map_eq_some_iff, Prod.exists, Prod.mk.injEq]
          constructor
          · rintro ⟨later, tail, found, rfl, rfl⟩
            exact ⟨later, rfl, found⟩
          · rintro ⟨later, rfl, found⟩
            exact ⟨later, after, found, rfl, rfl⟩

end

theorem not_isInfix_of_cut? {pattern text before after : List Char} (notNil : pattern ≠ [])
    (cut_eq : cut? pattern text = some (before, after)) : ¬pattern <:+: before := by
  rintro ⟨front, back, rfl⟩
  obtain ⟨text_eq, least⟩ := cut?_eq_some_iff.1 cut_eq
  have earlier := least front (back ++ pattern ++ after) (by rw [text_eq]; simp)
  have := List.length_pos_iff.2 notNil
  simp only [List.length_append] at earlier
  omega

/-- Every character of a text but the separators is in one of the pieces. -/
theorem exists_mem_splitOn (separator : Char) {text : List Char} {c : Char} (listed : c ∈ text)
    (other : c ≠ separator) : ∃ piece ∈ text.splitOn separator, c ∈ piece := by
  induction text with
  | nil => cases listed
  | cons first rest ih =>
      obtain ⟨piece, pieces, split_eq⟩ :=
        List.exists_cons_of_ne_nil (List.splitOn_ne_nil separator rest)
      rw [List.splitOn_cons_eq_if_modifyHead]
      rw [split_eq] at ih ⊢
      rcases List.mem_cons.1 listed with rfl | later
      · rw [if_neg (by simpa using other)]
        exact ⟨c :: piece, List.mem_cons_self, List.mem_cons_self⟩
      · obtain ⟨found, known, inside⟩ := ih later
        split
        · exact ⟨found, List.mem_cons_of_mem _ known, inside⟩
        · rcases List.mem_cons.1 known with rfl | known
          · exact ⟨first :: found, List.mem_cons_self, List.mem_cons_of_mem _ inside⟩
          · exact ⟨found, List.mem_cons_of_mem _ known, inside⟩

theorem length_lt_weight {pieces : List (List Char)} {piece : List Char} (listed : piece ∈ pieces) :
    piece.length < weight pieces := by
  induction pieces with
  | nil => cases listed
  | cons first pieces ih =>
      rw [weight]
      rcases List.mem_cons.1 listed with rfl | later
      · omega
      · have := ih later
        omega

/-- Whether a character decides where the arguments of a text are. -/
def isMark (c : Char) : Bool := c = '<' || c = '>' || c = ','

/-- The bracket depth after a text. -/
def depthAlong (depth : Nat) (text : List Char) : Nat := text.foldl depthAfter depth

/-- Whether no comma of a text stands outside brackets. -/
def isUncut (depth : Nat) : List Char → Bool
  | [] => true
  | c :: rest => !(c = ',' && depth = 0) && isUncut (depthAfter depth c) rest

/-- Whether a text and others are told apart again when commas are put between them. -/
def AreArguments (depth : Nat) (first : List Char) : List (List Char) → Prop
  | [] => isUncut depth first
  | next :: more => isUncut depth first ∧ depthAlong depth first = 0 ∧ AreArguments 0 next more

/-- Texts with commas between them. -/
def joinArguments (first : List Char) (more : List (List Char)) : List Char :=
  first ++ more.flatMap fun piece => ',' :: piece

theorem not_isMark_iff {c : Char} : isMark c ≠ true ↔ c ≠ '<' ∧ c ≠ '>' ∧ c ≠ ',' := by
  simp [isMark, and_assoc]

theorem filter_isMark_of_isBlank {text : List Char} (blank : ∀ c ∈ text, isBlank c = true) :
    text.filter isMark = [] := by
  refine List.filter_eq_nil_iff.2 fun c listed => not_isMark_iff.2 ?_
  have isBlank := blank c listed
  refine ⟨?_, ?_, ?_⟩ <;> rintro rfl <;> exact absurd isBlank (by decide)

theorem filter_isMark_trim (text : List Char) : (trim text).filter isMark = text.filter isMark := by
  obtain ⟨front, back, text_eq, frontBlank, backBlank⟩ := exists_eq_append_trim text
  rw [congrArg (List.filter isMark) text_eq, List.filter_append, List.filter_append,
    filter_isMark_of_isBlank frontBlank, filter_isMark_of_isBlank backBlank, List.nil_append,
    List.append_nil]

theorem depthAlong_filter (depth : Nat) (text : List Char) :
    depthAlong depth (text.filter isMark) = depthAlong depth text := by
  induction text generalizing depth with
  | nil => rfl
  | cons c rest ih =>
      rw [List.filter_cons]
      split
      · exact ih (depthAfter depth c)
      · rename_i unmarked
        obtain ⟨notOpen, notClose, -⟩ := not_isMark_iff.1 unmarked
        have kept : depthAfter depth c = depth := by
          rw [depthAfter, if_neg notOpen, if_neg notClose]
        rw [ih depth]
        exact congrArg (fun depth => depthAlong depth rest) kept.symm

theorem isUncut_filter (depth : Nat) (text : List Char) :
    isUncut depth (text.filter isMark) = isUncut depth text := by
  induction text generalizing depth with
  | nil => rfl
  | cons c rest ih =>
      rw [List.filter_cons]
      split
      · rw [isUncut, isUncut, ih]
      · rename_i unmarked
        obtain ⟨notOpen, notClose, notComma⟩ := not_isMark_iff.1 unmarked
        rw [isUncut, ih, depthAfter, if_neg notOpen, if_neg notClose]
        simp [notComma]

/-- The marks of the texts decide whether they are told apart again. -/
theorem areArguments_congr {depth : Nat} {first other : List Char} {more others : List (List Char)}
    (same : other.filter isMark = first.filter isMark)
    (allSame : List.Forall₂ (fun piece other => other.filter isMark = piece.filter isMark)
      more others)
    (areArguments : AreArguments depth first more) : AreArguments depth other others := by
  have uncut_eq : isUncut depth other = isUncut depth first := by
    rw [← isUncut_filter, same, isUncut_filter]
  have depth_eq : depthAlong depth other = depthAlong depth first := by
    rw [← depthAlong_filter, same, depthAlong_filter]
  induction allSame generalizing depth first other with
  | nil => exact uncut_eq.trans areArguments
  | cons nextSame _ ih =>
      obtain ⟨uncut, closed, areArguments⟩ := areArguments
      refine ⟨uncut_eq.trans uncut, depth_eq.trans closed, ih nextSame areArguments ?_ ?_⟩
      · rw [← isUncut_filter, nextSame, isUncut_filter]
      · rw [← depthAlong_filter, nextSame, depthAlong_filter]

/-- A text without commas outside brackets stays in one piece. -/
theorem argumentsFrom_append {depth : Nat} {first : List Char} (uncut : isUncut depth first)
    (rest : List Char) : argumentsFrom depth (first ++ rest) =
      (first ++ (argumentsFrom (depthAlong depth first) rest).1,
        (argumentsFrom (depthAlong depth first) rest).2) := by
  induction first generalizing depth with
  | nil => rfl
  | cons c first ih =>
      rw [isUncut, Bool.and_eq_true, Bool.not_eq_true', Bool.and_eq_false_iff,
        decide_eq_false_iff_not, decide_eq_false_iff_not, ← not_and_or] at uncut
      rw [List.cons_append, argumentsFrom, if_neg uncut.1, ih uncut.2]
      rfl

theorem AreArguments.cons {depth : Nat} {c : Char} {first : List Char} {more : List (List Char)}
    (areArguments : AreArguments (depthAfter depth c) first more)
    (notCut : ¬(c = ',' ∧ depth = 0)) :
    AreArguments depth (c :: first) more := by
  have uncut_eq : isUncut depth (c :: first) = isUncut (depthAfter depth c) first := by
    have kept : (decide (c = ',') && decide (depth = 0)) = false := by simpa using notCut
    rw [isUncut, kept, Bool.not_false, Bool.true_and]
  cases more with
  | nil => exact uncut_eq.trans areArguments
  | cons next more => exact ⟨uncut_eq.trans areArguments.1, areArguments.2⟩

/-- A text is cut into the texts that make it up and are told apart again. -/
theorem argumentsFrom_eq_iff {depth : Nat} {text first : List Char} {more : List (List Char)} :
    argumentsFrom depth text = (first, more) ↔
      text = joinArguments first more ∧ AreArguments depth first more := by
  constructor
  · intro cut_eq
    induction text generalizing depth first more with
    | nil =>
        cases cut_eq
        exact ⟨rfl, rfl⟩
    | cons c rest ih =>
        rw [argumentsFrom] at cut_eq
        split at cut_eq
        · rename_i isCut
          obtain ⟨rfl, rfl⟩ := isCut
          cases cut_eq
          obtain ⟨rest_eq, areArguments⟩ := ih (Prod.eta _).symm
          refine ⟨?_, rfl, rfl, areArguments⟩
          rw [joinArguments, List.flatMap_cons, List.nil_append, List.cons_append,
            ← joinArguments, ← rest_eq]
        · rename_i notCut
          cases cut_eq
          obtain ⟨rest_eq, areArguments⟩ := ih (Prod.eta _).symm
          refine ⟨congrArg (c :: ·) rest_eq, ?_⟩
          exact areArguments.cons notCut
  · rintro ⟨rfl, areArguments⟩
    induction more generalizing depth first with
    | nil =>
        rw [joinArguments, List.flatMap_nil, argumentsFrom_append areArguments]
        simp [argumentsFrom]
    | cons next more ih =>
        obtain ⟨uncut, closed, areArguments⟩ := areArguments
        rw [joinArguments, List.flatMap_cons, List.cons_append, ← joinArguments,
          argumentsFrom_append uncut, closed, argumentsFrom, if_pos ⟨rfl, rfl⟩, ih areArguments]
        simp

theorem filter_joinArguments_congr {first other : List Char} {more others : List (List Char)}
    (same : other.filter isMark = first.filter isMark)
    (allSame : List.Forall₂ (fun piece other => other.filter isMark = piece.filter isMark)
      more others) :
    (joinArguments other others).filter isMark = (joinArguments first more).filter isMark := by
  rw [joinArguments, joinArguments, List.filter_append, List.filter_append, same]
  congr 1
  induction allSame with
  | nil => rfl
  | cons nextSame _ ih =>
      rw [List.flatMap_cons, List.flatMap_cons, List.filter_append, List.filter_append, ih]
      exact congrArg (· ++ _) (congrArg (',' :: ·) nextSame)

/-- A text has at least one argument. -/
theorem exists_cons_of_forall₂ {α : Type} {related : List Char → α → Prop} {text : List Char}
    {items : List α} (allRelated : List.Forall₂ related (splitArguments text) items) :
    ∃ first more, items = first :: more := by
  cases items with
  | nil => cases List.forall₂_nil_right_iff.1 allRelated
  | cons first more => exact ⟨first, more, rfl⟩

/-- Arguments that are spelled anew, with the same marks and without blanks around them, are found
again in the text that they make up, which has the same marks as the old one. -/
theorem splitArguments_joinArguments {text first : List Char} {more : List (List Char)}
    (spelled : List.Forall₂ (fun piece spelling => trim spelling = spelling ∧
      spelling.filter isMark = piece.filter isMark) (splitArguments text) (first :: more)) :
    splitArguments (joinArguments first more) = first :: more ∧
      (joinArguments first more).filter isMark = text.filter isMark := by
  obtain ⟨⟨old, others⟩, cut_eq⟩ : ∃ cut, argumentsFrom 0 text = cut := ⟨_, rfl⟩
  obtain ⟨text_eq, areArguments⟩ := argumentsFrom_eq_iff.1 cut_eq
  rw [splitArguments, cut_eq, List.forall₂_map_left_iff] at spelled
  obtain ⟨trimmed, same⟩ := (List.forall₂_and_left _ _).1 spelled.flip
  have same := same.flip.imp fun piece spelling same => same.trans (filter_isMark_trim piece)
  obtain ⟨firstSame, moreSame⟩ := List.forall₂_cons.1 same
  have found := argumentsFrom_eq_iff.2 ⟨rfl, areArguments_congr firstSame moreSame areArguments⟩
  refine ⟨?_, text_eq ▸ filter_joinArguments_congr firstSame moreSame⟩
  rw [splitArguments, found]
  exact (List.map_congr_left trimmed).trans (List.map_id _)

end Text
end Companion
