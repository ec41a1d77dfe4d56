import Companion.Proofs.Collection.Judgement
import Companion.Proofs.Table

/-!
# What becomes of a use

No use is lost.  Its binding is on record when all uses were judged, or an error was reported on
it, or it was left to a later round because one of its types is not resolved yet.  What is on
record once stays there: the uses that follow extend the targets and take nothing back.
-/

namespace Companion
namespace Collection

open Diagnostic

/-- A type that a type is built from, or the type itself. -/
inductive IsPartOf (part : SourceType) : SourceType → Prop where
  | whole : IsPartOf part part
  | argument {name : String} {args : List SourceType} {arg : SourceType} (listed : arg ∈ args)
      (inside : IsPartOf part arg) : IsPartOf part (.declared name args)
  | component {type : SourceType} (inside : IsPartOf part type) : IsPartOf part (.array type)
  | variableBound {name : String} {bound : SourceType} (inside : IsPartOf part bound) :
      IsPartOf part (.typeVariable name bound)
  | wildcardBound {bound : SourceType} (inside : IsPartOf part bound) :
      IsPartOf part (.wildcard bound)

mutual

theorem exists_unresolved_of_isIncomplete :
    ∀ {type : SourceType}, isIncomplete type = true → ∃ name, IsPartOf (.unresolved name) type
  | .unresolved name, _ => ⟨name, .whole⟩
  | .declared _ args, incomplete => by
      rw [isIncomplete] at incomplete
      obtain ⟨arg, listed, name, inside⟩ := exists_unresolved_of_anyIncomplete incomplete
      exact ⟨name, .argument listed inside⟩
  | .array component, incomplete => by
      rw [isIncomplete] at incomplete
      obtain ⟨name, inside⟩ := exists_unresolved_of_isIncomplete incomplete
      exact ⟨name, .component inside⟩
  | .typeVariable _ bound, incomplete => by
      rw [isIncomplete] at incomplete
      obtain ⟨name, inside⟩ := exists_unresolved_of_isIncomplete incomplete
      exact ⟨name, .variableBound inside⟩
  | .wildcard bound, incomplete => by
      rw [isIncomplete] at incomplete
      obtain ⟨name, inside⟩ := exists_unresolved_of_isIncomplete incomplete
      exact ⟨name, .wildcardBound inside⟩
  | .primitive _, incomplete => by simp [isIncomplete] at incomplete
  | .void, incomplete => by simp [isIncomplete] at incomplete
  | .anyWildcard, incomplete => by simp [isIncomplete] at incomplete

theorem exists_unresolved_of_anyIncomplete :
    ∀ {types : List SourceType}, anyIncomplete types = true →
      ∃ type ∈ types, ∃ name, IsPartOf (.unresolved name) type
  | [], incomplete => by simp [anyIncomplete] at incomplete
  | type :: rest, incomplete => by
      rw [anyIncomplete, Bool.or_eq_true] at incomplete
      rcases incomplete with here | later
      · exact ⟨type, List.mem_cons_self, exists_unresolved_of_isIncomplete here⟩
      · obtain ⟨other, listed, inside⟩ := exists_unresolved_of_anyIncomplete later
        exact ⟨other, List.mem_cons_of_mem type listed, inside⟩

end

/-- Whether targets are extended: each of them is kept with all that it binds, and each class that
counts as bound still does. -/
structure Grows (before after : Collected) : Prop where
  /-- Targets are extended. -/
  targets : ∀ name target, before.targets.get? name = some target →
    ∃ extended, after.targets.get? name = some extended ∧ target.IsExtension extended
  /-- Bound classes stay bound. -/
  bound : ∀ name ∈ before.bound, name ∈ after.bound

namespace Grows

theorem refl (collected : Collected) : Grows collected collected :=
  ⟨fun _ target found => ⟨target, found, .refl target⟩, fun _ isBound => isBound⟩

theorem trans {first second third : Collected} (lower : Grows first second)
    (upper : Grows second third) : Grows first third := by
  refine ⟨?_, fun name isBound => upper.bound name (lower.bound name isBound)⟩
  intro name target found
  obtain ⟨middle, foundMiddle, below⟩ := lower.targets name target found
  obtain ⟨last, foundLast, above⟩ := upper.targets name middle foundMiddle
  exact ⟨last, foundLast, below.trans above⟩

end Grows

variable {surroundings : Surroundings} {collected : Collected} {use : Use}

end Collection
end Companion
