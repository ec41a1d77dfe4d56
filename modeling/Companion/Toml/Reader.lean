import Companion.Toml.Quoted
import Companion.Toml.Scalar

/-!
# Reading TOML

Each reader takes something off the front of a text and leaves a shorter one, so that reading a
document ends.  Line feeds are the only line ends here: a carriage return before a line feed is
dropped first.
-/

namespace Companion
namespace Toml

theorem length_dropWhile_isSpace_le (input : List Char) :
    (input.dropWhile isSpace).length ≤ input.length :=
  (List.dropWhile_sublist isSpace).length_le

/-- Drop a comment. -/
def dropComment : List Char → List Char
  | '#' :: rest => rest.dropWhile isPlain
  | rest => rest

theorem length_dropComment_le (input : List Char) : (dropComment input).length ≤ input.length := by
  unfold dropComment
  split
  · rename_i rest
    exact Nat.le_succ_of_le (List.dropWhile_sublist isPlain).length_le
  · exact Nat.le_refl _

/-- What follows the end of a line, which may have blanks and a comment in front of it. -/
def afterLine? (input : List Char) : Option (List Char) :=
  match dropComment (input.dropWhile isSpace) with
  | [] => some []
  | '\n' :: rest => some rest
  | _ => none

theorem length_of_afterLine? {input rest : List Char} (read : afterLine? input = some rest) :
    rest.length ≤ input.length ∧ (input ≠ [] → rest.length < input.length) := by
  have comment_le := length_dropComment_le (input.dropWhile isSpace)
  have space_le := length_dropWhile_isSpace_le input
  unfold afterLine? at read
  split at read
  · obtain rfl := Option.some.inj read
    exact ⟨by simp, fun nonempty => by simpa using List.length_pos_iff.2 nonempty⟩
  · rename_i line
    obtain rfl := Option.some.inj read
    rw [line, List.length_cons] at comment_le
    exact ⟨by omega, fun _ => by omega⟩
  · simp at read

/-- Drop blanks, line ends and comments. -/
def dropGap (inComment : Bool) : List Char → List Char
  | [] => []
  | c :: rest =>
    if inComment && isPlain c then dropGap true rest
    else if isSpace c || c = '\n' then dropGap false rest
    else if c = '#' then dropGap true rest
    else c :: rest

theorem length_dropGap_le (inComment : Bool) (input : List Char) :
    (dropGap inComment input).length ≤ input.length := by
  induction input generalizing inComment with
  | nil => simp [dropGap]
  | cons c rest ih =>
    simp only [dropGap]
    split
    · exact Nat.le_succ_of_le (ih _)
    · split
      · exact Nat.le_succ_of_le (ih _)
      · split
        · exact Nat.le_succ_of_le (ih _)
        · exact Nat.le_refl _

/-- Whether a character may stand in a key without quotes. -/
def isKeyChar (c : Char) : Bool := c.isAlphanum || c = '-' || c = '_'

/-- The longest row of characters of a kind at the front of a text. -/
def row? (belongs : Char → Bool) : (input : List Char) → Option (List Char × Rest input)
  | [] => none
  | c :: rest =>
    if belongs c then
      some (c :: rest.takeWhile belongs, ⟨rest.dropWhile belongs,
        Nat.lt_succ_of_le (List.dropWhile_sublist belongs).length_le⟩)
    else none

/-- Read one key. -/
def key? (input : List Char) : Option (String × Rest input) :=
  match shortText? input with
  | some quoted => some quoted
  | none => (row? isKeyChar input).map fun (key, rest) => (String.ofList key, rest)

/-- Read a dotted key after the keys before its last dot, which come last first. -/
def keyPathFrom? (before : List String) (input : List Char) : Option (KeyPath × Rest input) := do
  let (key, ⟨rest, shorter⟩) ← key? input
  have space_le := length_dropWhile_isSpace_le rest
  match next : rest.dropWhile isSpace with
  | '.' :: after =>
    have after_le := length_dropWhile_isSpace_le after
    have : after.length + 1 = (rest.dropWhile isSpace).length := by simp [next]
    let (path, ⟨left, less⟩) ← keyPathFrom? (key :: before) (after.dropWhile isSpace)
    return (path, ⟨left, by omega⟩)
  | left =>
    have : left.length = (rest.dropWhile isSpace).length := by simp [next]
    return (⟨before.reverse, key⟩, ⟨left, by omega⟩)
termination_by input.length

/-- Read a dotted key and the sign and the blanks between it and its value. -/
def assignment? (input : List Char) : Option (KeyPath × Rest input) := do
  let (path, ⟨rest, shorter⟩) ← keyPathFrom? [] input
  match rest, shorter with
  | '=' :: after, shorter =>
    have after_le := length_dropWhile_isSpace_le after
    return (path, ⟨after.dropWhile isSpace, by simp only [List.length_cons] at shorter; omega⟩)
  | _, _ => none

/-- Read a word, or a date and a time with a blank between them. -/
def word? (input : List Char) : Option (Toml × Rest input) := do
  let (word, ⟨rest, shorter⟩) ← row? isWordChar input
  let alone := do return (← ofWord? word, ⟨rest, shorter⟩)
  match rest, shorter with
  | ' ' :: after, shorter =>
    match row? Char.isDigit after, row? isWordChar after with
    | some _, some (time, ⟨left, less⟩) =>
      if afterDate? word = some [] then do
        let value ← ofWord? (word ++ ' ' :: time)
        return (value, ⟨left, by simp only [List.length_cons] at shorter; omega⟩)
      else alone
    | _, _ => alone
  | _, _ => alone

/-- The deepest nesting of lists and tables in braces. -/
def nestingLimit : Nat := 79

mutual

/-- Read a value with a number of levels below it. -/
def value? (levels : Nat) (input : List Char) : Option (Toml × Rest input) :=
  match longText? input, shortText? input with
  | some (content, rest), _ => some (.text content, rest)
  | none, some (content, rest) => some (.text content, rest)
  | none, none =>
    match input, levels with
    | '[' :: rest, levels + 1 => do
      let (value, ⟨left, less⟩) ← items? levels [] rest
      return (value, ⟨left, by simp only [List.length_cons]; omega⟩)
    | '\x7b' :: rest, levels + 1 => do
      let (value, ⟨left, less⟩) ← entries? levels .root rest
      return (value, ⟨left, by simp only [List.length_cons]; omega⟩)
    | input, _ => word? input
termination_by 2 * input.length

/-- Read on in a list; the items read come last first. -/
def items? (levels : Nat) (done : List Toml) (input : List Char) : Option (Toml × Rest input) :=
  have gap_le := length_dropGap_le false input
  match before : dropGap false input with
  | ']' :: rest =>
    have : rest.length + 1 = (dropGap false input).length := by simp [before]
    some (.list done.reverse, ⟨rest, by omega⟩)
  | start => do
    have : start.length = (dropGap false input).length := by simp [before]
    let (item, ⟨rest, shorter⟩) ← value? levels start
    have rest_le := length_dropGap_le false rest
    match next : dropGap false rest with
    | ',' :: after =>
      have : after.length + 1 = (dropGap false rest).length := by simp [next]
      let (value, ⟨left, less⟩) ← items? levels (item :: done) after
      return (value, ⟨left, by omega⟩)
    | ']' :: after =>
      have : after.length + 1 = (dropGap false rest).length := by simp [next]
      return (.list (item :: done).reverse, ⟨after, by omega⟩)
    | _ => none
termination_by 2 * input.length + 1

/-- Read on in a table in braces, which has no line ends between its parts. -/
def entries? (levels : Nat) (done : OpenTable) (input : List Char) : Option (Toml × Rest input) :=
  have space_le := length_dropWhile_isSpace_le input
  match before : input.dropWhile isSpace with
  | [] => none
  | c :: rest =>
    have rest_eq : rest.length + 1 = (input.dropWhile isSpace).length := by simp [before]
    if c = '\x7d' ∧ done.entries.isEmpty then some (.inline [], ⟨rest, by omega⟩)
    else do
      let (path, ⟨start, start_lt⟩) ← assignment? (c :: rest)
      have : (c :: rest).length = rest.length + 1 := rfl
      let (value, ⟨rest, shorter⟩) ← value? levels start
      let done ← done.addEntry path value
      have rest_le := length_dropWhile_isSpace_le rest
      match next : rest.dropWhile isSpace with
      | ',' :: after =>
        have : after.length + 1 = (rest.dropWhile isSpace).length := by simp [next]
        let (value, ⟨left, less⟩) ← entries? levels done after
        return (value, ⟨left, by omega⟩)
      | '\x7d' :: after =>
        have : after.length + 1 = (rest.dropWhile isSpace).length := by simp [next]
        return (.inline done.entries, ⟨after, by omega⟩)
      | _ => none
termination_by 2 * input.length + 1

end

/-- Read a line that is not blank, up to the blanks at its end. -/
def statement? (input : List Char) : Option (Statement × Rest input) :=
  match input with
  | '[' :: '[' :: rest => do
    have space_le := length_dropWhile_isSpace_le rest
    let (path, ⟨left, less⟩) ← keyPathFrom? [] (rest.dropWhile isSpace)
    match left, less with
    | ']' :: ']' :: left, less =>
      return (.row path, ⟨left, by simp only [List.length_cons] at less ⊢; omega⟩)
    | _, _ => none
  | '[' :: rest => do
    have space_le := length_dropWhile_isSpace_le rest
    let (path, ⟨left, less⟩) ← keyPathFrom? [] (rest.dropWhile isSpace)
    match left, less with
    | ']' :: left, less =>
      return (.header path, ⟨left, by simp only [List.length_cons] at less ⊢; omega⟩)
    | _, _ => none
  | input => do
    let (path, ⟨start, start_lt⟩) ← assignment? input
    let (value, ⟨rest, shorter⟩) ← value? nestingLimit start
    return (.entry path value, ⟨rest, by omega⟩)

/-- Read the lines of a document. -/
def statements? (input : List Char) : Option (List Statement) :=
  if ended : input = [] then some []
  else
    match blank : afterLine? input with
    | some rest =>
      have := (length_of_afterLine? blank).2 ended
      statements? rest
    | none => do
      have _space_le := length_dropWhile_isSpace_le input
      let (statement, ⟨rest, _shorter⟩) ← statement? (input.dropWhile isSpace)
      match line : afterLine? rest with
      | some after =>
        have := (length_of_afterLine? line).1
        return statement :: (← statements? after)
      | none => none
termination_by input.length

/-- Drop the carriage returns that stand before line feeds. -/
def dropReturns : List Char → List Char
  | '\r' :: '\n' :: rest => '\n' :: dropReturns rest
  | c :: rest => c :: dropReturns rest
  | [] => []

/-- Drop the mark that may stand in front of a text. -/
def dropMark : List Char → List Char
  | '\ufeff' :: rest => rest
  | rest => rest

/-- The entries of the document that a text holds. -/
def ofText? (source : String) : Option (List (String × Toml)) := do
  entriesOf? (← statements? (dropReturns (dropMark source.toList)))

end Toml
end Companion
