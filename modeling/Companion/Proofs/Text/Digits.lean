import Companion.Text.Digits
import Mathlib.Data.List.Basic

/-!
# Numerals of numbers

A row of digits stands for a number by the values of its digits.  The digits of a number stand for
that number again; zeros in front of them do not count, and neither does the case of a digit.
-/

namespace Companion
namespace Text

variable {base value number : Nat} {digits : List Char}

theorem digit?_digitChar {digit : Nat} (small : base ≤ 16) (below : digit < base) :
    digit? base digit.digitChar = some digit := by
  have all : ∀ base ≤ 16, ∀ digit < base, digit? base digit.digitChar = some digit := by decide
  exact all base small digit below

/-- A letter is the same digit in both cases. -/
theorem digit?_toLower (c : Char) : digit? 16 c.toLower = digit? 16 c := by
  by_cases upper : 'A'.val ≤ c.val ∧ c.val ≤ 'Z'.val
  · have all : ∀ code < 91, 65 ≤ code →
        digit? 16 (Char.ofNat code).toLower = digit? 16 (Char.ofNat code) := by decide
    have same := all c.toNat (Nat.lt_succ_of_le upper.2) upper.1
    rwa [Char.ofNat_toNat] at same
  · have kept : c.toLower = c := dif_neg upper
    rw [kept]

theorem numeralFrom?_append (value : Nat) (front back : List Char) :
    numeralFrom? base value (front ++ back) =
      (numeralFrom? base value front).bind fun value => numeralFrom? base value back := by
  induction front generalizing value with
  | nil => rfl
  | cons c rest ih =>
      rw [List.cons_append, numeralFrom?, numeralFrom?]
      cases digit? base c with
      | none => rfl
      | some digit => exact ih (value * base + digit)

theorem numeralFrom?_toDigits (positive : 1 < base) (small : base ≤ 16) (number : Nat) :
    numeralFrom? base 0 (Nat.toDigits base number) = some number := by
  induction number using Nat.strongRecOn with
  | ind number ih =>
      rw [Nat.toDigits_eq_if positive]
      split
      · rename_i isDigit
        rw [numeralFrom?, digit?_digitChar small isDigit]
        simp [numeralFrom?]
      · rename_i long
        have below : number / base < number :=
          Nat.div_lt_self (by omega) positive
        have last := digit?_digitChar small (Nat.mod_lt number (by omega : 0 < base))
        rw [numeralFrom?_append, ih (number / base) below, Option.bind_some, numeralFrom?, last]
        have whole := Nat.div_add_mod' number base
        simp [numeralFrom?, whole]

theorem numeralFrom?_replicate_zero (positive : 1 < base) (zeros : Nat) :
    numeralFrom? base 0 (List.replicate zeros '0') = some 0 := by
  have zero : digit? base '0' = some 0 := by
    have inside : 0 < base := by omega
    simp [digit?, inside]
  induction zeros with
  | zero => rfl
  | succ zeros ih =>
      rw [List.replicate_succ, numeralFrom?, zero, Option.bind_some, Nat.zero_mul]
      exact ih

/-- Only digits stand for a number. -/
theorem isSome_digit?_of_numeralFrom? (found : numeralFrom? base value digits = some number)
    {c : Char} (listed : c ∈ digits) : (digit? base c).isSome = true := by
  induction digits generalizing value with
  | nil => cases listed
  | cons first rest ih =>
      obtain ⟨digit, isDigit, later⟩ := Option.bind_eq_some_iff.1 found
      rcases List.mem_cons.1 listed with rfl | inside
      · rw [isDigit]
        rfl
      · exact ih later inside

theorem numeralFrom?_map_toLower (value : Nat) (digits : List Char) :
    numeralFrom? 16 value (digits.map Char.toLower) = numeralFrom? 16 value digits := by
  induction digits generalizing value with
  | nil => rfl
  | cons c rest ih =>
      rw [List.map_cons, numeralFrom?, numeralFrom?, digit?_toLower]
      simp only [ih]

/-- Digits are read as a number with no sign in front of them. -/
theorem signedNumeral?_of_numeralFrom? (nonempty : digits ≠ [])
    (found : numeralFrom? base 0 digits = some number) :
    signedNumeral? base digits = some number := by
  cases digits with
  | nil => exact absurd rfl nonempty
  | cons first rest =>
      have isDigit := isSome_digit?_of_numeralFrom? found List.mem_cons_self
      have unsigned : first ≠ '+' := by
        rintro rfl
        simp [digit?] at isDigit
      rw [signedNumeral?.eq_def]
      split
      · rename_i same
        exact absurd (List.cons.inj same).1 unsigned
      · exact found

end Text
end Companion
