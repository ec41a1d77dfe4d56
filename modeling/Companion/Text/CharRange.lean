/-!
# Ascending ranges of characters

A character property is a list of closed code point ranges in ascending order; looking a character
up stops at the first range that starts above it.  The lists of this library are those of version 17
of Unicode.
-/

namespace Companion
namespace Text

/-- Whether a code point lies in one of the ascending closed ranges. -/
def inRanges (code : Nat) : List (Nat × Nat) → Bool
  | [] => false
  | (first, last) :: rest =>
    if code < first then false else code ≤ last || inRanges code rest

/-- A code point found in the ranges lies in one of them. -/
theorem exists_range_of_inRanges {code : Nat} {ranges : List (Nat × Nat)}
    (found : inRanges code ranges = true) :
    ∃ range ∈ ranges, range.1 ≤ code ∧ code ≤ range.2 := by
  induction ranges with
  | nil => simp [inRanges] at found
  | cons range rest ih =>
    obtain ⟨first, last⟩ := range
    simp only [inRanges] at found
    split at found
    · simp at found
    · rename_i from_first
      simp only [Bool.or_eq_true, decide_eq_true_eq] at found
      rcases found with within | later
      · exact ⟨(first, last), by simp, Nat.le_of_not_lt from_first, within⟩
      · obtain ⟨range, member, bounds⟩ := ih later
        exact ⟨range, by simp [member], bounds⟩

end Text
end Companion
