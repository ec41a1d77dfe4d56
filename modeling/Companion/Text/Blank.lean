import Companion.Text.CharRange

/-!
# White space

The blank characters are those with the Unicode property `White_Space`.  Trimming takes them off
both ends of a text.
-/

namespace Companion
namespace Text

/-- Code points with the property `White_Space`. -/
def blankRanges : List (Nat × Nat) :=
  [(0x09, 0x0d), (0x20, 0x20), (0x85, 0x85), (0xa0, 0xa0), (0x1680, 0x1680), (0x2000, 0x200a),
    (0x2028, 0x2029), (0x202f, 0x202f), (0x205f, 0x205f), (0x3000, 0x3000)]

/-- Whether a character is white space. -/
def isBlank (c : Char) : Bool := inRanges c.toNat blankRanges

/-- The text without its leading blanks. -/
def trimStart (text : List Char) : List Char := text.dropWhile isBlank

/-- The text without its trailing blanks. -/
def trimEnd (text : List Char) : List Char := (text.reverse.dropWhile isBlank).reverse

/-- The text without blanks at either end. -/
def trim (text : List Char) : List Char := trimEnd (trimStart text)

/-- `trim` on strings. -/
def trimmed (text : String) : String := String.ofList (trim text.toList)

@[simp]
theorem trim_nil : trim [] = [] := rfl

/-- A text that starts and ends with characters other than blanks is its own trimmed form. -/
theorem trim_eq_self {text : List Char}
    (start : ∀ c, text.head? = some c → isBlank c = false)
    (stop : ∀ c, text.getLast? = some c → isBlank c = false) : trim text = text := by
  have start_eq : trimStart text = text := by
    cases text with
    | nil => rfl
    | cons c rest => simp [trimStart, start c rfl]
  have stop_eq : trimEnd text = text := by
    unfold trimEnd
    cases h : text.reverse with
    | nil => simpa using h.symm
    | cons c rest =>
      have last : text.getLast? = some c := by
        rw [List.getLast?_eq_head?_reverse, h]; rfl
      rw [List.dropWhile_cons_of_neg (by simp [stop c last]), ← h, List.reverse_reverse]
  rw [trim, start_eq, stop_eq]

end Text
end Companion
