import Companion.Proofs.Code.Constructors
import Companion.Proofs.Collection.Uses
import Companion.Proofs.Processing.Targets

/-!
# Companions over companions of the same round

A target is linked to its parent as that one was linked itself.  So the two companions, which are
generated apart from each other, agree on what the constructor of the lower one passes on.
-/

namespace Companion

open Linking

namespace Processing

variable {environment : Environment} {kinds : List ListenerKind}

theorem exists_asParent_of_link {world : Universe} {collected : Collected}
    {linked : LinkedTargets} (link_eq : link world kinds collected = .ok linked)
    {name parent : String} {set : LinkedTarget} {companion : ClassName} {needsView : Bool}
    (found : linked.get? name = some set)
    (parent_eq : set.parent = some (.round parent companion needsView)) :
    ∃ parentSet, linked.get? parent = some parentSet ∧
      set.parent = some (parentSet.asParent parent) := by
  have outcome := isOutcome_link world kinds collected
  rw [link_eq] at outcome
  have has := outcome.parents name set found
  rw [parent_eq] at has ⊢
  cases has with
  | round ancestor parentSet _ present _ => exact ⟨parentSet, present, rfl⟩

/-- The parent of a target in the round is a linked target, the link tells what is so of it, and
the two companions that are made of them fit together. -/
theorem exists_extends_of_collect {name parent : String} {set : LinkedTarget}
    {companion : ClassName} {needsView : Bool}
    (found : (collect environment kinds).targets.get? name = some set)
    (parent_eq : set.parent = some (.round parent companion needsView)) :
    ∃ parentSet, (collect environment kinds).targets.get? parent = some parentSet ∧
      companion = parentSet.companion ∧ needsView = parentSet.needsView ∧
      ∀ options code parentCode, CompanionCode.ofTarget options set = .ok code →
        CompanionCode.ofTarget options parentSet = .ok parentCode → code.Extends parentCode := by
  obtain ⟨parentSet, present, linked_eq⟩ :=
    exists_asParent_of_link (link_of_collect found) found parent_eq
  refine ⟨parentSet, present, ?_, ?_, fun options code parentCode made parentMade =>
    Generation.extends_of_ofTarget linked_eq made parentMade⟩
  all_goals
    rw [parent_eq, LinkedTarget.asParent] at linked_eq
    cases linked_eq
    rfl

/-- A class with a text in the sources, and one with a method for long clicks that extends it. -/
def extendedRound : Environment :=
  let base := (TypeDecl.ofName .classType "a.Base").withMember
    ((Member.field "title" (.named "java.lang.String")).annotated
      ⟨"BindString", .ofList [("value", .id (.literal 1))]⟩)
  let host := ((TypeDecl.ofName .classType "a.Host").withMember
    (Collection.longClicked "hold" [2])).extending (.named "a.Base")
  ⟨(Universe.empty.put host).put base, .empty, .empty⟩

theorem exists_linked_extendedRound :
    ∃ host base,
      (Collection.collect extendedRound ListenerKind.standard).collected.targets.get? "a.Host" =
        some host ∧
      (Collection.collect extendedRound ListenerKind.standard).collected.targets.get? "a.Base" =
        some base ∧
      (collect extendedRound ListenerKind.standard).targets.get? "a.Host" =
        some ⟨host, some (LinkedTarget.asParent ⟨base, none⟩ "a.Base")⟩ ∧
      (collect extendedRound ListenerKind.standard).targets.get? "a.Base" = some ⟨base, none⟩ := by
  have acyclic : extendedRound.world.IsAcyclic := by decide +kernel
  obtain ⟨⟨host, hostParent⟩, found⟩ := @exists_linked_of_collect extendedRound
    ListenerKind.standard acyclic "a.Host" (by decide +kernel)
  obtain ⟨⟨base, baseParent⟩, present, parent_eq⟩ :=
    @exists_parent_of_collect _ _ acyclic _ "a.Base" _ found (by decide +kernel)
      (by decide +kernel)
  have areLinked := areLinked_of_isAcyclic acyclic ListenerKind.standard
  have top : baseParent = none := areLinked.top _ _ present (by decide +kernel)
  cases top
  cases parent_eq
  exact ⟨host, base, areLinked.bindings _ _ found, areLinked.bindings _ _ present, found, present⟩

theorem exists_extends_extendedRound :
    ∃ set parentSet code parentCode,
      (collect extendedRound ListenerKind.standard).targets.get? "a.Host" = some set ∧
      (collect extendedRound ListenerKind.standard).targets.get? "a.Base" = some parentSet ∧
      set.parent = some (.round "a.Base" parentSet.companion parentSet.needsView) ∧
      CompanionCode.ofTarget Options.default set = .ok code ∧
      CompanionCode.ofTarget Options.default parentSet = .ok parentCode ∧
      code.Extends parentCode := by
  obtain ⟨host, base, hostCollected, baseCollected, found, present⟩ := exists_linked_extendedRound
  have made : ((Collection.collect extendedRound
      ListenerKind.standard).collected.targets.get? "a.Host").bind (fun host =>
        ((Collection.collect extendedRound
          ListenerKind.standard).collected.targets.get? "a.Base").map fun base =>
            ((CompanionCode.ofTarget .default
                ⟨host, some (LinkedTarget.asParent ⟨base, none⟩ "a.Base")⟩).isOk,
              (CompanionCode.ofTarget .default ⟨base, none⟩).isOk)) = some (true, true) := by
    decide +kernel
  rw [hostCollected, baseCollected] at made
  obtain ⟨hostMade, baseMade⟩ := Prod.mk.inj (Option.some.inj made)
  obtain ⟨code, code_eq⟩ := exists_ok_of_isOk hostMade
  obtain ⟨parentCode, parentCode_eq⟩ := exists_ok_of_isOk baseMade
  obtain ⟨other, otherPresent, -, -, fits⟩ := exists_extends_of_collect found rfl
  rw [present] at otherPresent
  cases otherPresent
  exact ⟨_, _, code, parentCode, found, present, rfl, code_eq, parentCode_eq,
    fits _ _ _ code_eq parentCode_eq⟩

end Processing
end Companion
