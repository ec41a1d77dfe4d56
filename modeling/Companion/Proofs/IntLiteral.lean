import Companion.IntLiteral
import Companion.Proofs.Text.Digits
import Companion.Proofs.Text.Pieces

/-!
# Values of integer literals

A decimal literal stands for its number, and a hexadecimal one for its pattern of 32 bits, read as a
signed number and negated after a minus sign.  The least number has no decimal literal: its digits
are read without their sign, and alone they are out of range.
-/

namespace Companion
namespace IntLiteral

open Text

/-- What stands in front of the digits of a literal. -/
def sign (negative : Bool) : List Char := if negative then ['-'] else []

/-- Whether a text is a decimal literal of a number.  There may be underscores among its digits. -/
def IsDecimal (number : Int32) (literal : List Char) : Prop :=
  ∃ digits, digits.filter (· ≠ '_') = Nat.toDigits 10 number.toInt.natAbs ∧
    literal = sign (number < 0) ++ digits

/-- Whether a text is a hexadecimal literal of a pattern.  There may be zeros in front of its digits
and underscores among them, and each digit may be in either case. -/
def IsHexadecimal (pattern : UInt32) (negative : Bool) (literal : List Char) : Prop :=
  ∃ mark digits zeros, (mark = 'x' ∨ mark = 'X') ∧
    (digits.filter (· ≠ '_')).map Char.toLower =
      List.replicate zeros '0' ++ Nat.toDigits 16 pattern.toNat ∧
    literal = sign negative ++ '0' :: mark :: digits

/-- Whether a text is a literal with blanks around it. -/
def IsPadded (literal : List Char) (text : String) : Prop :=
  ∃ front back, text.toList = front ++ literal ++ back ∧ (∀ c ∈ front, isBlank c = true) ∧
    ∀ c ∈ back, isBlank c = true

variable {base value : Nat} {digits literal : List Char} {text : String} {number : Int32}
  {pattern : UInt32} {negative : Bool}

theorem toNat_of_isSome_digit? {c : Char} (isDigit : (digit? base c).isSome = true) :
    48 ≤ c.toNat ∧ c.toNat ≤ 57 ∨ 65 ≤ c.toNat ∧ c.toNat ≤ 70 ∨ 97 ≤ c.toNat ∧ c.toNat ≤ 102 := by
  unfold digit? at isDigit
  dsimp only at isDigit
  split at isDigit
  · rename_i bounds
    exact .inl bounds
  · split at isDigit
    · rename_i bounds
      exact .inr (.inr bounds)
    · split at isDigit
      · rename_i bounds
        exact .inr (.inl bounds)
      · cases isDigit

theorem isBlank_of_isSome_digit? {c : Char} (isDigit : (digit? base c).isSome = true) :
    isBlank c = false := by
  have bounds := toNat_of_isSome_digit? isDigit
  refine Bool.eq_false_iff.2 fun blank => ?_
  obtain ⟨range, listed, first, last⟩ := exists_range_of_inRanges blank
  simp only [blankRanges, List.mem_cons, List.not_mem_nil, or_false] at listed
  rcases listed with rfl | rfl | rfl | rfl | rfl | rfl | rfl | rfl | rfl | rfl <;>
    dsimp only at first last <;> omega

theorem isBlank_of_mem_digits (found : numeralFrom? base 0 (digits.filter (· ≠ '_')) = some value)
    {c : Char} (listed : c ∈ digits) : isBlank c = false := by
  by_cases gap : c = '_'
  · rw [gap]
    decide
  · have kept : c ∈ digits.filter (· ≠ '_') := List.mem_filter.2 ⟨listed, by simpa using gap⟩
    exact isBlank_of_isSome_digit? (isSome_digit?_of_numeralFrom? found kept)

theorem numeral_of_areHexDigits {zeros number : Nat}
    (digits_eq : digits.map Char.toLower = List.replicate zeros '0' ++ Nat.toDigits 16 number) :
    numeralFrom? 16 0 digits = some number ∧ digits ≠ [] := by
  constructor
  · rw [← numeralFrom?_map_toLower, digits_eq, numeralFrom?_append,
      numeralFrom?_replicate_zero (by decide), Option.bind_some]
    exact numeralFrom?_toDigits (by decide) (by decide) number
  · rintro rfl
    exact Nat.toDigits_ne_nil (List.append_eq_nil_iff.1 digits_eq.symm).2

/-- A row of decimal digits is read as its number, if that is in range. -/
theorem magnitude?_of_decimal (nonempty : digits ≠ [])
    (found : numeralFrom? 10 0 digits = some value) : magnitude? digits = inRange? value := by
  have notDigit : ∀ c, (digit? 10 c).isSome = false → c ∉ digits := by
    intro c other listed
    rw [isSome_digit?_of_numeralFrom? found listed] at other
    cases other
  have decimal_eq : ofDecimal? digits = inRange? value := by
    rw [ofDecimal?.eq_def]
    split
    · exact absurd List.mem_cons_self (notDigit '-' (by decide))
    · rw [signedNumeral?_of_numeralFrom? nonempty found, Option.bind_some]
  rw [magnitude?.eq_def]
  split
  · exact absurd (List.mem_cons_of_mem _ List.mem_cons_self) (notDigit 'x' (by decide))
  · exact absurd (List.mem_cons_of_mem _ List.mem_cons_self) (notDigit 'X' (by decide))
  · exact decimal_eq

theorem magnitude?_of_hexadecimal {mark : Char} (isMark : mark = 'x' ∨ mark = 'X')
    (nonempty : digits ≠ []) (found : numeralFrom? 16 0 digits = some pattern.toNat) :
    magnitude? ('0' :: mark :: digits) = some pattern.toInt32 := by
  have hex_eq : ofHex? digits = some pattern.toInt32 := by
    rw [ofHex?, signedNumeral?_of_numeralFrom? nonempty found, Option.bind_some,
      if_pos pattern.toNat_lt_size, Int32.ofInt_eq_ofNat, ← UInt32.toInt32_ofNat',
      UInt32.ofNat_toNat]
  rcases isMark with rfl | rfl
  · exact hex_eq
  · exact hex_eq

/-- A literal is read without the blanks around it and the underscores in it, and what stands after
a minus sign is negated. -/
theorem value?_of_isPadded {digits : List Char} (padded : IsPadded (sign negative ++ digits) text)
    (notBlank : ∀ c ∈ digits, isBlank c = false)
    (unsigned : (digits.filter (· ≠ '_')).head? ≠ some '-') :
    value? text = (magnitude? (digits.filter (· ≠ '_'))).map fun value =>
      if negative then -value else value := by
  obtain ⟨front, back, text_eq, frontBlank, backBlank⟩ := padded
  have filled : ∀ c ∈ sign negative ++ digits, isBlank c = false := by
    intro c listed
    rcases List.mem_append.1 listed with inSign | inDigits
    · cases negative with
      | false => cases inSign
      | true =>
          rw [List.mem_singleton.1 inSign]
          decide
    · exact notBlank c inDigits
  have trimmed : trim (sign negative ++ digits) = sign negative ++ digits :=
    trim_eq_self (fun c head => filled c (List.mem_of_head? head))
      fun c last => filled c (List.mem_of_getLast? last)
  rw [value?, text_eq, trim_append_of_isBlank _ frontBlank backBlank, trimmed, List.filter_append]
  cases negative with
  | true => rfl
  | false =>
      rw [sign, if_neg (by decide), List.filter_nil, List.nil_append]
      split
      · rename_i first _ kept_eq
        rw [kept_eq] at unsigned
        exact absurd rfl unsigned
      · simp

theorem inRange?_of_nonnegative (nonnegative : ¬number < 0) :
    inRange? number.toInt.natAbs = some number := by
  rw [Int32.lt_iff_toInt_lt, Int32.toInt_zero, Int.not_lt] at nonnegative
  have upper := number.toInt_lt
  have number_eq : (number.toInt.natAbs : Int) = number.toInt := Int.natAbs_of_nonneg nonnegative
  rw [inRange?, number_eq, if_pos (by omega), Int32.ofInt_toInt]

theorem inRange?_of_negative (negative : number < 0) :
    (inRange? number.toInt.natAbs).map (fun value => -value) =
      if number = Int32.minValue then none else some number := by
  rw [Int32.lt_iff_toInt_lt, Int32.toInt_zero] at negative
  have lower := number.le_toInt
  have number_eq : (number.toInt.natAbs : Int) = -number.toInt := by omega
  have least_iff : number = Int32.minValue ↔ number.toInt = -2 ^ 31 := by
    rw [← Int32.toInt_inj, Int32.toInt_minValue]
  rw [inRange?, number_eq]
  by_cases least : number.toInt = -2 ^ 31
  · rw [if_pos (least_iff.2 least), if_neg (by omega), Option.map_none]
  · rw [if_neg (mt least_iff.1 least), if_pos (by omega), Option.map_some, ← Int32.ofInt_neg,
      Int.neg_neg, Int32.ofInt_toInt]

/-- A decimal literal stands for its number, unless this is the least one, for which it stands for
nothing.  A hexadecimal literal stands for its pattern, negated after a minus sign. -/
theorem value?_literal (padded : IsPadded literal text) :
    (∀ number, IsDecimal number literal →
      value? text = if number = Int32.minValue then none else some number) ∧
    ∀ pattern negative, IsHexadecimal pattern negative literal →
      value? text = some (if negative then -pattern.toInt32 else pattern.toInt32) := by
  constructor
  · rintro number ⟨digits, digits_eq, rfl⟩
    have found := @numeralFrom?_toDigits 10 (by decide) (by decide) number.toInt.natAbs
    rw [← digits_eq] at found
    have nonempty : digits.filter (· ≠ '_') ≠ [] := digits_eq ▸ Nat.toDigits_ne_nil
    have unsigned : (digits.filter (· ≠ '_')).head? ≠ some '-' := by
      intro head
      have isDigit := isSome_digit?_of_numeralFrom? found (List.mem_of_head? head)
      exact absurd isDigit (by decide)
    rw [value?_of_isPadded padded (fun c => isBlank_of_mem_digits found) unsigned,
      magnitude?_of_decimal nonempty found]
    by_cases negative : number < 0
    · simpa [negative] using inRange?_of_negative negative
    · have notLeast : number ≠ Int32.minValue := by
        rintro rfl
        exact negative (by decide)
      rw [inRange?_of_nonnegative negative, if_neg notLeast]
      simp [negative]
  · rintro pattern negative ⟨mark, digits, zeros, isMark, digits_eq, rfl⟩
    obtain ⟨found, nonempty⟩ := numeral_of_areHexDigits digits_eq
    have kept_eq : ('0' :: mark :: digits).filter (· ≠ '_') =
        '0' :: mark :: digits.filter (· ≠ '_') := by
      rcases isMark with rfl | rfl <;> rfl
    have notBlank : ∀ c ∈ '0' :: mark :: digits, isBlank c = false := by
      rw [List.forall_mem_cons, List.forall_mem_cons]
      refine ⟨by decide, ?_, fun c => isBlank_of_mem_digits found⟩
      rcases isMark with rfl | rfl <;> decide
    rw [value?_of_isPadded padded notBlank (by rw [kept_eq]; simp), kept_eq,
      magnitude?_of_hexadecimal isMark nonempty found, Option.map_some]

theorem value?_someLiterals :
    (IsPadded "-1_000".toList " -1_000\n" ∧ IsDecimal (-1000) "-1_000".toList ∧
      value? " -1_000\n" = some (-1000)) ∧
    (IsPadded "-0X00_fF".toList "\t-0X00_fF" ∧ IsHexadecimal 255 true "-0X00_fF".toList ∧
      value? "\t-0X00_fF" = some (-255)) ∧
    IsPadded "0xFFFFffff".toList "0xFFFFffff" ∧
      IsHexadecimal 0xffffffff false "0xFFFFffff".toList ∧ value? "0xFFFFffff" = some (-1) := by
  have decimalPadded : IsPadded "-1_000".toList " -1_000\n" :=
    ⟨[' '], ['\n'], by decide, List.forall_mem_singleton.2 (by decide),
      List.forall_mem_singleton.2 (by decide)⟩
  have decimal : IsDecimal (-1000) "-1_000".toList := ⟨"1_000".toList, by decide, by decide⟩
  have negatedPadded : IsPadded "-0X00_fF".toList "\t-0X00_fF" :=
    ⟨['\t'], [], by decide, List.forall_mem_singleton.2 (by decide), List.forall_mem_nil _⟩
  have negated : IsHexadecimal 255 true "-0X00_fF".toList :=
    ⟨'X', "00_fF".toList, 2, by decide, by decide, by decide⟩
  have fullPadded : IsPadded "0xFFFFffff".toList "0xFFFFffff" :=
    ⟨[], [], by decide, List.forall_mem_nil _, List.forall_mem_nil _⟩
  have full : IsHexadecimal 0xffffffff false "0xFFFFffff".toList :=
    ⟨'x', "FFFFffff".toList, 0, by decide, by decide +kernel, by decide⟩
  have decimal_eq := (value?_literal decimalPadded).1 (-1000) decimal
  have negated_eq := (value?_literal negatedPadded).2 255 true negated
  have full_eq := (value?_literal fullPadded).2 0xffffffff false full
  exact ⟨⟨decimalPadded, decimal, decimal_eq.trans (by decide)⟩,
    ⟨negatedPadded, negated, negated_eq.trans (by decide)⟩,
    fullPadded, full, full_eq.trans (by decide)⟩

/-- The decimal literal of the least number stands for nothing, though the number is in range. -/
theorem value?_least : IsDecimal Int32.minValue "-2147483648".toList ∧
    value? "-2147483648" = none :=
  ⟨⟨"2147483648".toList, by decide +kernel, by decide⟩, by decide +kernel⟩

end IntLiteral
end Companion
