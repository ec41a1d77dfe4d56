import Companion.Proofs.Processing.Companions

/-!
# What the companions of a round take back

The companion of each set of a round takes back what its constructor sets up.  A member that is
bound more than once is assigned and cleared for each binding.
-/

namespace Companion
namespace Processing

open Collection

variable {environment : Environment} {name : String} {set : LinkedTarget}

/-- Whatever the options, the companion of a set is made and takes back what it sets up. -/
theorem takesBack_of_collect
    (found : (collect environment ListenerKind.standard).targets.get? name = some set)
    (options : Options) :
    ∃ code, CompanionCode.ofTarget options set = .ok code ∧ code.TakesBack set.toTarget := by
  obtain ⟨code, made⟩ := exists_made_of_collect found options
  exact ⟨code, made, Generation.takesBack_of_ofTarget made (nodup_fieldNames_of_collect found)⟩

theorem takesBack_crowdedRound : ∃ set code,
    (collect crowdedRound ListenerKind.standard).targets.get? "a.Host" = some set ∧
    CompanionCode.ofTarget .default set = .ok code ∧
    set.viewMembers = ["title"] ∧
    (Generation.listenerGroups set.toTarget).map ViewGroup.isOptional = [false, true, false] ∧
    code.TakesBack set.toTarget := by
  obtain ⟨set, found⟩ := exists_set_crowdedRound
  obtain ⟨code, made, takesBack⟩ := takesBack_of_collect found .default
  have members : set.viewMembers = ["title"] :=
    value_of_collect Target.viewMembers found (by decide +kernel)
  have optional : (Generation.listenerGroups set.toTarget).map ViewGroup.isOptional =
      [false, true, false] :=
    value_of_collect (fun target => (Generation.listenerGroups target).map ViewGroup.isOptional)
      found (by decide +kernel)
  exact ⟨set, code, found, made, members, optional, takesBack⟩

/-- A class with a list that is bound to one view and to the views of two others as well. -/
def twiceBoundRound : Environment :=
  let views : SourceType := .declared "java.util.List" [.named "android.view.View"]
  let rows := ((Member.field "rows" views).annotated
    ⟨"BindView", .ofList [("value", .id (.literal 1))]⟩).annotated
    ⟨"BindViews", .ofList [("value", .ids [.literal 2, .literal 3])]⟩
  ⟨(Universe.empty.put (Platform.interface "java.util.List" [])).put
    ((TypeDecl.ofName .classType "a.Host").withMember rows), .empty, .empty⟩

/-- No marker excludes another one on the same member, so that a member may be assigned and cleared
more than once. -/
theorem not_forall_assigned_once :
    ¬∀ (environment : Environment) (name : String) (set : LinkedTarget) (code : CompanionCode),
      (collect environment ListenerKind.standard).targets.get? name = some set →
      CompanionCode.ofTarget .default set = .ok code →
      ∀ member ∈ set.viewMembers, code.bind.assigned.count (.member member) = 1 ∧
        code.cleared.count (.member member) = 1 := by
  intro claim
  obtain ⟨set, found⟩ := @exists_linked_of_collect twiceBoundRound ListenerKind.standard
    (by decide +kernel) "a.Host" (by decide +kernel)
  obtain ⟨code, made⟩ := exists_made_of_collect found .default
  have members : set.viewMembers = ["rows", "rows"] :=
    value_of_collect Target.viewMembers found (by decide +kernel)
  have once := (claim _ _ _ _ found made "rows" (by simp [members])).2
  rw [Place.count_member, (Generation.cleared_of_ofTarget made).2, members] at once
  exact absurd once (by decide)

end Processing
end Companion
