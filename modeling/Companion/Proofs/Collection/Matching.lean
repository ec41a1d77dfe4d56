import Companion.Proofs.Collection.Judgement

/-!
# Arguments that parameters take

The parameters of a method take arguments of a callback one after the other.  What the ones before
have taken is kept in a list, and so no argument is taken twice.
-/

namespace Companion
namespace Collection

variable {world : Universe} {arguments : List String} {taken : List Nat}
  {parameter : SourceType} {parameters : List SourceType} {bound : List BoundParameter}

/-- Whether a parameter takes an argument of a callback that it can receive. -/
structure Takes (world : Universe) (arguments : List String) (parameter : SourceType)
    (bound : BoundParameter) : Prop where
  /-- The type is that of the parameter. -/
  written : CodeType.ofSource world parameter.upperBound = .ok bound.type
  /-- The callback has the argument, and the parameter can receive it. -/
  fits : ∃ argument, arguments[bound.position]? = some argument ∧
    isAssignable world parameter.upperBound argument = true

theorem Takes.position_lt {bound : BoundParameter}
    (takes : Takes world arguments parameter bound) : bound.position < arguments.length := by
  obtain ⟨argument, found, -⟩ := takes.fits
  exact (List.getElem?_eq_some_iff.1 found).1

theorem free_of_freePosition? {type : SourceType} {position : Nat}
    (found : freePosition? world arguments taken type = some position) :
    position ∉ taken ∧ ∃ argument, arguments[position]? = some argument ∧
      isAssignable world type argument = true := by
  have chosen := List.find?_some found
  rw [Bool.and_eq_true, decide_eq_true_iff, Option.any_eq_true] at chosen
  exact chosen

/-- The first parameter finds no argument, or it takes one and the others go on from there. -/
theorem matchFrom_cons
    (matched : matchFrom world arguments taken (parameter :: parameters) = .ok bound) :
    (freePosition? world arguments taken parameter.upperBound = none ∧ bound = []) ∨
      ∃ position type others,
        freePosition? world arguments taken parameter.upperBound = some position ∧
        CodeType.ofSource world parameter.upperBound = .ok type ∧
        matchFrom world arguments (position :: taken) parameters = .ok others ∧
        bound = ⟨position, type⟩ :: others := by
  rw [matchFrom] at matched
  split at matched
  · rename_i stuck
    cases matched
    exact .inl ⟨stuck, rfl⟩
  · rename_i position found
    obtain ⟨type, written, matched⟩ := exists_ok_of_bind matched
    obtain ⟨others, othersMatched, matched⟩ := exists_ok_of_bind matched
    cases matched
    exact .inr ⟨position, type, others, found, written, othersMatched, rfl⟩

theorem takes_of_matchFrom
    (matched : matchFrom world arguments taken parameters = .ok bound)
    (complete : bound.length = parameters.length) :
    List.Forall₂ (Takes world arguments) parameters bound := by
  induction parameters generalizing taken bound with
  | nil =>
      cases matched
      exact .nil
  | cons parameter rest ih =>
      rcases matchFrom_cons matched with
        ⟨-, rfl⟩ | ⟨position, type, others, found, written, othersMatched, rfl⟩
      · cases complete
      · exact .cons ⟨written, (free_of_freePosition? found).2⟩
          (ih othersMatched (Nat.succ.inj complete))

theorem nodup_position_of_matchFrom
    (matched : matchFrom world arguments taken parameters = .ok bound) :
    (bound.map BoundParameter.position).Nodup ∧
      ∀ position ∈ bound.map BoundParameter.position, position ∉ taken := by
  induction parameters generalizing taken bound with
  | nil =>
      cases matched
      exact ⟨List.nodup_nil, by simp⟩
  | cons parameter rest ih =>
      rcases matchFrom_cons matched with
        ⟨-, rfl⟩ | ⟨position, type, others, found, -, othersMatched, rfl⟩
      · exact ⟨List.nodup_nil, by simp⟩
      · -- the rest avoids the position just taken, as well as the earlier ones
        obtain ⟨nodup, apart⟩ := ih othersMatched
        refine ⟨List.nodup_cons.2 ⟨fun again => apart position again List.mem_cons_self, nodup⟩, ?_⟩
        intro other listed
        rcases List.mem_cons.1 listed with rfl | later
        · exact (free_of_freePosition? found).1
        · exact fun old => apart other later (List.mem_cons_of_mem position old)

end Collection
end Companion
