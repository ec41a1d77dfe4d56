import Companion.Proofs.Text.Pieces

/-!
# Arguments that stay in one piece

Texts with commas between them are cut where one of them has a comma outside brackets, and nowhere
else when the brackets of each of them are closed.  So they are told apart again if each stays in
one piece, and only then.
-/

namespace Companion
namespace Text

theorem depthAlong_cons (depth : Nat) (c : Char) (rest : List Char) :
    depthAlong depth (c :: rest) = depthAlong (depthAfter depth c) rest :=
  List.foldl_cons ..

theorem depthAfter_open (depth : Nat) : depthAfter depth '<' = depth + 1 := if_pos rfl

theorem depthAfter_close (depth : Nat) : depthAfter depth '>' = depth - 1 := by
  rw [depthAfter, if_neg (by decide), if_pos rfl]

theorem depthAlong_append (depth : Nat) (front back : List Char) :
    depthAlong depth (front ++ back) = depthAlong (depthAlong depth front) back :=
  List.foldl_append

theorem isUncut_append (depth : Nat) (front back : List Char) :
    isUncut depth (front ++ back) =
      (isUncut depth front && isUncut (depthAlong depth front) back) := by
  induction front generalizing depth with
  | nil => rfl
  | cons c front ih =>
      rw [List.cons_append, isUncut, isUncut, ih, Bool.and_assoc]
      rfl

theorem isUncut_trim (depth : Nat) (text : List Char) :
    isUncut depth (trim text) = isUncut depth text := by
  rw [← isUncut_filter, filter_isMark_trim, isUncut_filter]

/-- A text that stays in one piece does so inside more brackets. -/
theorem isUncut_of_le {depth other : Nat} (inside : depth ≤ other) {text : List Char}
    (uncut : isUncut depth text = true) : isUncut other text = true := by
  induction text generalizing depth other with
  | nil => rfl
  | cons c rest ih =>
      rw [isUncut, Bool.and_eq_true, Bool.not_eq_true', Bool.and_eq_false_iff,
        decide_eq_false_iff_not, decide_eq_false_iff_not] at uncut ⊢
      have deeper : depthAfter depth c ≤ depthAfter other c := by
        unfold depthAfter
        split
        · omega
        · split
          · omega
          · exact inside
      exact ⟨uncut.1.imp_right (by omega), ih deeper uncut.2⟩

/-- The depth falls with each closing bracket of a text that opens none. -/
theorem depthAlong_of_not_mem (depth : Nat) {text : List Char} (unopened : '<' ∉ text) :
    depthAlong depth text = depth - text.count '>' := by
  induction text generalizing depth with
  | nil => rfl
  | cons c rest ih =>
      rw [List.mem_cons, not_or] at unopened
      have rest_eq := ih (depthAfter depth c) unopened.2
      rw [depthAfter, if_neg (Ne.symm unopened.1)] at rest_eq
      change depthAlong (depthAfter depth c) rest = _
      rw [depthAfter, if_neg (Ne.symm unopened.1), rest_eq, List.count_cons]
      by_cases closes : c = '>'
      · simp [closes]
        omega
      · simp [closes]

theorem comma_not_mem_of_isUncut {text rest : List Char} (unopened : '<' ∉ text)
    (uncut : isUncut 0 (text ++ rest) = true) : ',' ∉ text := by
  intro listed
  obtain ⟨front, back, rfl⟩ := List.append_of_mem listed
  have closed : depthAlong 0 front = 0 := by
    rw [depthAlong_of_not_mem 0 fun inside => unopened (List.mem_append_left _ inside),
      Nat.zero_sub]
  rw [List.append_assoc, isUncut_append, closed, List.cons_append, isUncut] at uncut
  simp at uncut

theorem isUncut_of_comma_not_mem (depth : Nat) {text : List Char} (unlisted : ',' ∉ text) :
    isUncut depth text = true := by
  induction text generalizing depth with
  | nil => rfl
  | cons c rest ih =>
      rw [List.mem_cons, not_or] at unlisted
      rw [isUncut, ih (depthAfter depth c) unlisted.2]
      simp [Ne.symm unlisted.1]

theorem AreArguments.forall_isUncut {first : List Char} {more : List (List Char)}
    (areArguments : AreArguments 0 first more) :
    ∀ piece ∈ first :: more, isUncut 0 piece = true := by
  induction more generalizing first with
  | nil => exact List.forall_mem_singleton.2 areArguments
  | cons next more ih =>
      obtain ⟨uncut, -, areArguments⟩ := areArguments
      exact List.forall_mem_cons.2 ⟨uncut, ih areArguments⟩

/-- The arguments of a text stay in one piece. -/
theorem isUncut_of_mem_splitArguments {text piece : List Char}
    (listed : piece ∈ splitArguments text) : isUncut 0 piece = true := by
  obtain ⟨cutOff, known, rfl⟩ := List.mem_map.1 listed
  obtain ⟨-, areArguments⟩ := argumentsFrom_eq_iff.1 (Prod.eta (argumentsFrom 0 text)).symm
  rw [isUncut_trim]
  exact areArguments.forall_isUncut cutOff known

theorem length_argumentsFrom_append (depth : Nat) (front back : List Char) :
    (argumentsFrom depth (front ++ back)).2.length =
      (argumentsFrom depth front).2.length +
        (argumentsFrom (depthAlong depth front) back).2.length := by
  induction front generalizing depth with
  | nil => simp [argumentsFrom, depthAlong]
  | cons c front ih =>
      rw [List.cons_append, argumentsFrom, argumentsFrom]
      have rest_eq := ih (depthAfter depth c)
      split
      · rename_i isCut
        have level : depthAfter depth c = 0 := by
          obtain ⟨rfl, rfl⟩ := isCut
          rfl
        rw [level] at rest_eq
        change _ = _ + (argumentsFrom (depthAlong (depthAfter depth c) front) back).2.length
        rw [level]
        simp only [List.length_cons, rest_eq]
        omega
      · exact rest_eq

theorem isUncut_iff_argumentsFrom {depth : Nat} {text : List Char} :
    isUncut depth text = true ↔ (argumentsFrom depth text).2 = [] := by
  constructor
  · intro uncut
    have cut_eq : argumentsFrom depth text = (text, []) :=
      argumentsFrom_eq_iff.2 ⟨(List.append_nil text).symm, uncut⟩
    rw [cut_eq]
  · intro whole
    obtain ⟨text_eq, uncut⟩ := argumentsFrom_eq_iff.1 (Prod.eta (argumentsFrom depth text)).symm
    rw [whole] at text_eq uncut
    rw [text_eq, joinArguments, List.flatMap_nil, List.append_nil]
    exact uncut

theorem joinArguments_cons (first next : List Char) (more : List (List Char)) :
    joinArguments first (next :: more) = first ++ ',' :: joinArguments next more := rfl

/-- Joined texts are cut between them and where each of them is cut. -/
theorem length_argumentsFrom_joinArguments {first : List Char} {more : List (List Char)}
    (closed : ∀ piece ∈ first :: more, depthAlong 0 piece = 0) :
    (argumentsFrom 0 (joinArguments first more)).2.length = more.length +
      ((first :: more).flatMap fun piece => (argumentsFrom 0 piece).2).length := by
  induction more generalizing first with
  | nil => simp [joinArguments]
  | cons next more ih =>
      obtain ⟨firstClosed, moreClosed⟩ := List.forall_mem_cons.1 closed
      rw [List.flatMap_cons, List.length_append, joinArguments_cons, length_argumentsFrom_append,
        firstClosed, argumentsFrom, if_pos ⟨rfl, rfl⟩, List.length_cons, ih moreClosed,
        List.length_cons]
      omega

/-- Joined texts are cut into as many pieces only if each of them stays in one piece. -/
theorem isUncut_of_length_splitArguments {first : List Char} {more : List (List Char)}
    (closed : ∀ piece ∈ first :: more, depthAlong 0 piece = 0)
    (length_eq : (splitArguments (joinArguments first more)).length = more.length + 1) :
    ∀ piece ∈ first :: more, isUncut 0 piece = true := by
  rw [splitArguments, List.length_map, List.length_cons,
    length_argumentsFrom_joinArguments closed] at length_eq
  intro piece listed
  have noCuts : ((first :: more).flatMap fun piece => (argumentsFrom 0 piece).2).length = 0 := by
    omega
  have noCut := List.flatMap_eq_nil_iff.1 (List.length_eq_zero_iff.1 noCuts) piece listed
  exact isUncut_iff_argumentsFrom.2 noCut

/-- Joined texts that each stay in one piece are told apart again. -/
theorem splitArguments_of_isUncut {first : List Char} {more : List (List Char)}
    (closed : ∀ piece ∈ first :: more, depthAlong 0 piece = 0)
    (uncut : ∀ piece ∈ first :: more, isUncut 0 piece = true) :
    splitArguments (joinArguments first more) = (first :: more).map trim := by
  have areArguments : AreArguments 0 first more := by
    induction more generalizing first with
    | nil => exact uncut first List.mem_cons_self
    | cons next more ih =>
        obtain ⟨firstClosed, moreClosed⟩ := List.forall_mem_cons.1 closed
        obtain ⟨firstUncut, moreUncut⟩ := List.forall_mem_cons.1 uncut
        exact ⟨firstUncut, firstClosed, ih moreClosed moreUncut⟩
  rw [splitArguments, argumentsFrom_eq_iff.2 ⟨rfl, areArguments⟩]

end Text
end Companion
