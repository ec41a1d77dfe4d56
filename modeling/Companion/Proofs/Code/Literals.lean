import Companion.Code.Literal
import Mathlib.Algebra.Ring.Parity
import Mathlib.Data.List.DropRight

/-!
# Literals that read back

Characters are escaped in passes over the whole text, each on what the one before has left.  No pass
replaces what an earlier one has put in, so together they write each character on its own.  What
they write is one literal, which ends at its closing quote whatever comes after it, and which stands
for the text.
-/

namespace Companion
namespace Literal

/-- A character as it is written on its own. -/
def write (escapes : List (Char × Char)) (c : Char) : List Char :=
  match escapes.lookup c with
  | some letter => ['\\', letter]
  | none => [c]

/-- Whether no character that is replaced in a pass is one that an earlier pass puts in. -/
def AreApart (escapes : List (Char × Char)) : Prop :=
  escapes.Pairwise fun earlier later => later.1 ≠ '\\' ∧ later.1 ≠ earlier.2

theorem write_of_forall_ne {escapes : List (Char × Char)} {c : Char}
    (other : ∀ escape ∈ escapes, escape.1 ≠ c) : write escapes c = [c] := by
  have absent : escapes.lookup c = none :=
    List.lookup_eq_none_iff.2 fun escape listed => bne_iff_ne.2 (other escape listed).symm
  rw [write, absent]

theorem write_cons (old letter : Char) (escapes : List (Char × Char)) (c : Char) :
    write ((old, letter) :: escapes) c =
      if c = old then ['\\', letter] else write escapes c := by
  by_cases here : c = old
  · simp [write, here]
  · simp [write, here, List.lookup_cons, beq_eq_false_iff_ne.2 here]

theorem escapeAll_cons (c letter : Char) (escapes : List (Char × Char)) (text : List Char) :
    escapeAll ((c, letter) :: escapes) text = escapeAll escapes (replace c ['\\', letter] text) :=
  rfl

/-- Passes that leave alone what earlier ones have put in write each character on its own. -/
theorem escapeAll_eq_flatMap {escapes : List (Char × Char)} (apart : AreApart escapes)
    (text : List Char) : escapeAll escapes text = text.flatMap (write escapes) := by
  induction escapes generalizing text with
  | nil => exact (List.flatMap_singleton' text).symm
  | cons escape rest ih =>
      obtain ⟨old, letter⟩ := escape
      obtain ⟨untouched, apart⟩ := List.pairwise_cons.1 apart
      have slash_eq : write rest '\\' = ['\\'] :=
        write_of_forall_ne fun later listed => (untouched later listed).1
      have letter_eq : write rest letter = [letter] :=
        write_of_forall_ne fun later listed => (untouched later listed).2
      rw [escapeAll_cons, ih apart, replace, List.flatMap_assoc]
      refine List.flatMap_congr fun c _ => ?_
      rw [write_cons]
      split
      · simp [slash_eq, letter_eq]
      · exact List.flatMap_singleton (write rest) c

/-- The character that an escape stands for. -/
def unescape? : Char → Option Char
  | '\\' => some '\\'
  | '"' => some '"'
  | 'n' => some '\n'
  | 'r' => some '\r'
  | 't' => some '\t'
  | _ => none

/-- What the characters between the quotes of a literal stand for: an escape for another character,
and each character for itself that neither starts an escape nor ends the literal or its line. -/
inductive Denotes : List Char → List Char → Prop where
  | nil : Denotes [] []
  | plain {c : Char} {code value : List Char} (ordinary : c ∉ ['\\', '"', '\n', '\r'])
      (rest : Denotes code value) : Denotes (c :: code) (c :: value)
  | escape {letter c : Char} {code value : List Char} (escaped : unescape? letter = some c)
      (rest : Denotes code value) : Denotes ('\\' :: letter :: code) (c :: value)

/-- Each character is written as something that stands for it. -/
theorem Denotes.write_append {code value : List Char} (c : Char) (rest : Denotes code value) :
    Denotes (write escapes c ++ code) (c :: value) := by
  cases found : escapes.lookup c with
  | some letter =>
      obtain ⟨before, after, escapes_eq, -⟩ := List.lookup_eq_some_iff.1 found
      have listed : (c, letter) ∈ escapes := by simp [escapes_eq]
      have escaped : ∀ escape ∈ escapes, unescape? escape.2 = some escape.1 := by decide
      rw [write, found]
      exact .escape (escaped _ listed) rest
  | none =>
      have covered : ['\\', '"', '\n', '\r'] ⊆ escapes.map Prod.fst := by simp [escapes]
      rw [write, found]
      refine .plain (fun special => ?_) rest
      obtain ⟨escape, listed, rfl⟩ := List.mem_map.1 (covered special)
      exact bne_iff_ne.1 (List.lookup_eq_none_iff.1 found escape listed) rfl

/-- What is written between the quotes stands for the text. -/
theorem denotes_escapeAll (text : List Char) : Denotes (escapeAll escapes text) text := by
  rw [escapeAll_eq_flatMap (by unfold AreApart; decide)]
  induction text with
  | nil => exact .nil
  | cons c rest ih => exact ih.write_append c

/-- Whether the character after some text is escaped: the text ends in an odd number of
backslashes. -/
def EscapesNext (front : List Char) : Prop := Odd (front.rtakeWhile (· = '\\')).length

theorem not_escapesNext_nil : ¬EscapesNext [] := by simp [EscapesNext]

theorem escapesNext_concat {front : List Char} {c : Char} :
    EscapesNext (front ++ [c]) ↔ c = '\\' ∧ ¬EscapesNext front := by
  by_cases slash : c = '\\'
  · simp [EscapesNext, slash, Nat.odd_add_one]
  · simp [EscapesNext, slash]

/-- Wherever the inside of a literal is cut, the backslashes before the cut tell whether it is in
the middle of an escape. -/
theorem Denotes.cut {front back value : List Char} (denotes : Denotes (front ++ back) value) :
    (¬EscapesNext front ∧ ∃ rest, Denotes back rest) ∨
      EscapesNext front ∧ ∃ letter c code rest, back = letter :: code ∧
        unescape? letter = some c ∧ Denotes code rest := by
  -- from the end of what is before the cut: its last character starts an escape, completes one or
  -- stands for itself
  induction front using List.reverseRecOn generalizing back with
  | nil => exact .inl ⟨not_escapesNext_nil, value, denotes⟩
  | append_singleton front c ih =>
      rw [List.append_assoc] at denotes
      rw [escapesNext_concat]
      rcases ih denotes with ⟨unescaped, rest, denotes⟩ |
        ⟨escaped, letter, _, code, rest, back_eq, -, denotes⟩
      · cases denotes with
        | plain ordinary rest => exact .inl ⟨by simp_all, _, rest⟩
        | escape meaning rest => exact .inr ⟨⟨rfl, unescaped⟩, _, _, _, _, rfl, meaning, rest⟩
      · cases back_eq
        exact .inl ⟨by simp [escaped], rest, denotes⟩

/-- What cannot come after a cut by itself comes after an odd number of backslashes. -/
theorem Denotes.escapesNext {front back value : List Char}
    (denotes : Denotes (front ++ back) value) (inside : ∀ rest, ¬Denotes back rest) :
    EscapesNext front := by
  rcases denotes.cut with ⟨-, rest, starts⟩ | ⟨escaped, -⟩
  · exact absurd starts (inside rest)
  · exact escaped

theorem not_denotes_quote_cons (back value : List Char) : ¬Denotes ('"' :: back) value := by
  intro denotes
  cases denotes with
  | plain ordinary _ => simp at ordinary

theorem not_denotes_unit (back value : List Char) : ¬Denotes ('\\' :: 'u' :: back) value := by
  intro denotes
  cases denotes with
  | plain ordinary _ => simp at ordinary
  | escape meaning _ => cases meaning

/-- No line ends inside a literal. -/
theorem Denotes.not_mem_of_lineEnd {code value : List Char} (denotes : Denotes code value)
    {c : Char} (lineEnd : c ∈ ['\n', '\r']) : c ∉ code := by
  intro listed
  obtain ⟨front, back, rfl⟩ := List.append_of_mem listed
  rcases denotes.cut with ⟨-, _, starts⟩ | ⟨-, _, _, _, _, back_eq, meaning, -⟩
  · cases starts with
    | plain ordinary _ => exact ordinary (by simp_all)
    | escape _ _ => simp at lineEnd
  · cases back_eq
    rcases List.mem_pair.1 lineEnd with rfl | rfl <;> cases meaning

/-- Whether what stands between two quotes is all of a literal: it ends neither the literal nor its
line, and no part of it is replaced by the character of a code unit before literals are read. -/
structure IsSealed (code : List Char) : Prop where
  /-- The literal stands on one line. -/
  lineFeed : '\n' ∉ code
  carriageReturn : '\r' ∉ code
  /-- Every quote is escaped. -/
  quote : ∀ front back, code = front ++ '"' :: back → EscapesNext front
  /-- A backslash before a `u` is escaped, so it starts no code unit. -/
  unit : ∀ front back, code = front ++ '\\' :: 'u' :: back → EscapesNext front
  /-- The closing quote is not escaped. -/
  closed : ¬EscapesNext code

theorem Denotes.isSealed {code value : List Char} (denotes : Denotes code value) :
    IsSealed code := by
  refine ⟨denotes.not_mem_of_lineEnd (by decide), denotes.not_mem_of_lineEnd (by decide), ?_, ?_,
    ?_⟩
  · rintro front back rfl
    exact denotes.escapesNext (not_denotes_quote_cons back)
  · rintro front back rfl
    exact denotes.escapesNext (not_denotes_unit back)
  · rw [← List.append_nil code] at denotes
    rcases denotes.cut with ⟨unescaped, -⟩ | ⟨-, _, _, _, _, back_eq, -⟩
    · exact unescaped
    · cases back_eq

/-- The value of a literal without its opening quote, and what comes after it. -/
def readOn? : List Char → Option (List Char × List Char)
  | [] => none
  | '"' :: rest => some ([], rest)
  | '\\' :: letter :: rest =>
    (unescape? letter).bind fun c => (readOn? rest).map fun (value, rest) => (c :: value, rest)
  | c :: rest =>
    if c ∈ ['\\', '\n', '\r'] then none
    else (readOn? rest).map fun (value, rest) => (c :: value, rest)

/-- The value of the literal at the start of a text, and what comes after it. -/
def read? : List Char → Option (List Char × List Char)
  | '"' :: rest => readOn? rest
  | _ => none

/-- A literal ends at its closing quote and has the value that its characters stand for. -/
theorem Denotes.readOn?_eq {code value : List Char} (denotes : Denotes code value)
    (rest : List Char) : readOn? (code ++ '"' :: rest) = some (value, rest) := by
  induction denotes with
  | nil => rfl
  | plain ordinary _ ih =>
      simp only [List.mem_cons, List.not_mem_nil, or_false, not_or] at ordinary
      simp [readOn?, ordinary, ih]
  | escape meaning _ ih => simp [readOn?, meaning, ih]

theorem toList_ofText (text : String) :
    (ofText text).toList = '"' :: escapeAll escapes text.toList ++ ['"'] :=
  String.toList_ofList

theorem read?_ofText (text : String) (rest : List Char) :
    read? ((ofText text).toList ++ rest) = some (text.toList, rest) := by
  rw [toList_ofText, List.append_assoc]
  exact (denotes_escapeAll text.toList).readOn?_eq rest

/-- What is written for a text is one literal on one line, from quote to quote, that stands for the
text whatever comes after it.  So different texts have different literals. -/
theorem isLiteral_ofText :
    (∀ text : String,
      (∃ code, (ofText text).toList = '"' :: code ++ ['"'] ∧ IsSealed code) ∧
        ∀ rest, read? ((ofText text).toList ++ rest) = some (text.toList, rest)) ∧
      Function.Injective ofText := by
  refine ⟨fun text => ⟨⟨_, toList_ofText text, (denotes_escapeAll _).isSealed⟩,
    read?_ofText text⟩, fun text other same => ?_⟩
  have readSame := read?_ofText text []
  rw [same, read?_ofText] at readSame
  exact String.toList_inj.1 (Prod.mk.inj (Option.some.inj readSame)).1.symm

end Literal
end Companion
