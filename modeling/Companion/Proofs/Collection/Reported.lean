import Companion.Proofs.Collection.Judgement
import Companion.Proofs.Table

/-!
# What a use with an error leaves behind

A use that is reported as an error should change nothing.  It does change something in one case
only: a method for a callback that returns a value is bound to its ids one after the other, and
the ids before the first that refuses it keep it.
-/

namespace Companion
namespace Collection

open Diagnostic

variable {kind : ListenerKind} {callback : Callback} {method : MethodBinding}
  {target extended : Target} {pairs : List (Int32 × ResourceId)} {refusal : Option Int32}

/-- Whether several ids have room for a method that returns a value: none of them has a method for
the callback, and no two of them mean the same resource. -/
def HasRoom (target : Target) (kind : ListenerKind) (callback : Callback)
    (ids : List ResourceId) : Prop :=
  (∀ id ∈ ids, target.hasMethod id kind callback = false) ∧
    ids.Pairwise fun first second => first.same second = false

theorem hasMethod_of_addMethods
    (added : addMethods kind callback method target pairs = (extended, refusal)) {id : ResourceId}
    (taken : target.hasMethod id kind callback = true) :
    extended.hasMethod id kind callback = true := by
  induction pairs generalizing target with
  | nil =>
      cases added
      exact taken
  | cons pair rest ih =>
      rw [addMethods] at added
      split at added
      · rename_i next step
        refine ih added ?_
        rw [Target.hasMethod_addMethod? step, taken, Bool.or_true]
      · cases added
        exact taken

theorem hasMethod_head_of_addMethods {value : Int32} {id : ResourceId}
    (added : addMethods kind callback method target ((value, id) :: pairs) = (extended, refusal))
    (free : target.hasMethod id kind callback = false) :
    extended.hasMethod id kind callback = true := by
  rw [addMethods] at added
  split at added
  · rename_i next step
    refine hasMethod_of_addMethods added ?_
    rw [Target.hasMethod_addMethod? step, ResourceId.same_self, Bool.true_or]
  · rename_i refused
    have taken := (Target.addMethod?_eq_none_iff.1 refused).1
    rw [free] at taken
    cases taken

theorem addMethods_of_taken {value : Int32} {id : ResourceId}
    (returns : callback.returnsValue = true) (taken : target.hasMethod id kind callback = true) :
    addMethods kind callback method target ((value, id) :: pairs) = (target, some value) := by
  rw [addMethods, Target.addMethod?_eq_none_iff.2 ⟨taken, returns⟩]

theorem hasRoom_addMethod?_iff {next : Target} {id : ResourceId} {ids : List ResourceId}
    (step : target.addMethod? id kind callback method = some next) :
    HasRoom next kind callback ids ↔
      HasRoom target kind callback ids ∧ ∀ other ∈ ids, id.same other = false := by
  unfold HasRoom
  simp only [Target.hasMethod_addMethod? step, Bool.or_eq_false_iff]
  constructor
  · rintro ⟨free, different⟩
    exact ⟨⟨fun other listed => (free other listed).2, different⟩,
      fun other listed => (free other listed).1⟩
  · rintro ⟨⟨free, different⟩, apart⟩
    exact ⟨fun other listed => ⟨apart other listed, free other listed⟩, different⟩

/-- A method that returns a value is added for all its ids exactly when these have room for it. -/
theorem addMethods_eq_none_iff (returns : callback.returnsValue = true) :
    (addMethods kind callback method target pairs).2 = none ↔
      HasRoom target kind callback (pairs.map Prod.snd) := by
  induction pairs generalizing target with
  | nil => simp [addMethods, HasRoom]
  | cons pair rest ih =>
      obtain ⟨value, id⟩ := pair
      rw [addMethods]
      split
      · rename_i next step
        have free : target.hasMethod id kind callback = false := by
          cases taken : target.hasMethod id kind callback with
          | false => rfl
          | true => exact absurd ⟨taken, returns⟩ (Target.addMethod?_eq_some_iff.1 step).1
        rw [ih, hasRoom_addMethod?_iff step, HasRoom, HasRoom, List.map_cons,
          List.forall_mem_cons, List.pairwise_cons]
        constructor
        · rintro ⟨⟨others, different⟩, apart⟩
          exact ⟨⟨free, others⟩, apart, different⟩
        · rintro ⟨⟨-, others⟩, apart, different⟩
          exact ⟨⟨others, different⟩, apart⟩
      · rename_i refused
        have taken := (Target.addMethod?_eq_none_iff.1 refused).1
        simp [HasRoom, taken]

theorem returnsValue_of_addMethods {value : Int32}
    (added : addMethods kind callback method target pairs = (extended, some value)) :
    callback.returnsValue = true := by
  induction pairs generalizing target with
  | nil => simp [addMethods] at added
  | cons pair rest ih =>
      rw [addMethods] at added
      split at added
      · exact ih added
      · rename_i refused
        exact (Target.addMethod?_eq_none_iff.1 refused).2

variable {surroundings : Surroundings} {collected : Collected} {use : Use}

/-- Whether a use warrants a method that returns a value for several ids of which the first has
room for it, but not all of them together. -/
def StopsMidway (surroundings : Surroundings) (collected : Collected) (use : Use) : Prop :=
  ∃ kind callback method first rest target,
    Warrants surroundings use.site use.request
      (.methods kind callback method (first :: rest)) ∧
    targetOf surroundings.world collected use.site.decl = .ok target ∧
    callback.returnsValue = true ∧ target.hasMethod first kind callback = false ∧
    ¬HasRoom target kind callback (first :: rest)

theorem get?_of_hasMethod {world : Universe} {decl : TypeDecl} {id : ResourceId}
    (present : targetOf world collected decl = .ok target)
    (taken : target.hasMethod id kind callback = true) :
    collected.targets.get? decl.name = some target := by
  rcases get?_or_newTarget_of_targetOf present with found | made
  · exact found
  · obtain ⟨name, -, rfl⟩ := eq_of_newTarget made
    cases taken

theorem keep_of_hasMethod {world : Universe} {decl : TypeDecl} {id : ResourceId}
    (present : targetOf world collected decl = .ok target)
    (taken : target.hasMethod id kind callback = true) :
    collected.keep decl.name target = collected := by
  rw [Collected.keep, Table.insert_of_get? (get?_of_hasMethod present taken)]

theorem get?_outcome_of_warrants {ids : List ResourceId} (due : use.isDue = true)
    (warranted : Warrants surroundings use.site use.request (.methods kind callback method ids))
    (present : targetOf surroundings.world collected use.site.decl = .ok target) :
    ∃ pairs extended refusal, pairs.map Prod.snd = ids ∧
      addMethods kind callback method target pairs = (extended, refusal) ∧
      (use.outcome surroundings collected).targets.get? use.site.decl.name = some extended := by
  obtain ⟨request, site⟩ := use
  obtain rfl : request = .listener kind := warranted.isAskedBy
  obtain ⟨callback, method, written, problems, same, -, verdict_eq⟩ :=
    judgeListener_of_warrants warranted collected
  injection same with _ callback_eq method_eq ids_eq
  subst callback_eq method_eq ids_eq
  rcases added : addMethods kind callback method target
      (written.map fun id => (id.value, resolve surroundings site id)) with ⟨extended, refusal⟩
  refine ⟨_, extended, refusal, ?_, added, ?_⟩
  · rw [List.map_map]
    rfl
  · rw [Use.outcome, if_pos due, Use.verdict, Request.judge, verdict_eq]
    cases refusal <;>
      simp [bindMethod, present, added, bind, Except.bind, boundVerdict, pure, Except.pure,
        outcomeOf, Collected.accept, Collected.markBound, Collected.keep]

theorem outcome_ne_of_stopsMidway (due : use.isDue = true)
    (stops : StopsMidway surroundings collected use) :
    use.outcome surroundings collected ≠ collected := by
  obtain ⟨kind, callback, method, first, rest, target, warranted, present, -, free, -⟩ := stops
  obtain ⟨pairs, extended, refusal, pairs_eq, added, found⟩ :=
    get?_outcome_of_warrants due warranted present
  intro same
  rw [same] at found
  rw [targetOf_of_get? found] at present
  cases present
  cases pairs with
  | nil => simp at pairs_eq
  | cons pair others =>
      obtain ⟨rfl, -⟩ := List.cons.inj pairs_eq
      rw [hasMethod_head_of_addMethods added free] at free
      cases free

/-- The targets after the first use. -/
def heldTargets : Collected := (walk pressedSurroundings ⟨.empty, []⟩ [holdUse]).collected

private theorem reported_pressUse :
    anyError (pressUse.reports pressedSurroundings heldTargets) = true := by
  decide +kernel

private theorem outcome_pressUse_ne :
    pressUse.outcome pressedSurroundings heldTargets ≠ heldTargets := by
  intro same
  have groups := congrArg (fun collected : Collected =>
    (collected.targets.get? "a.Host").map fun target => target.groups.length) same
  revert groups
  decide +kernel

/-- What a use with an error changes: never which classes count as bound, and the targets exactly
when it stops midway. -/
theorem outcome_of_reported
    (reported : anyError (use.reports surroundings collected) = true) :
    (use.outcome surroundings collected).bound = collected.bound ∧
      (use.outcome surroundings collected = collected ↔
        ¬StopsMidway surroundings collected use) := by
  have due : use.isDue = true := by
    cases due : use.isDue with
    | true => rfl
    | false => simp [Use.reports, due] at reported
  have outcome_ne := @outcome_ne_of_stopsMidway surroundings collected use due
  rw [Use.reports, if_pos due] at reported
  rw [Use.outcome, if_pos due] at outcome_ne ⊢
  cases judged_verdict surroundings collected use with
  | refused _ kept =>
      rw [kept]
      exact ⟨rfl, fun _ stops => outcome_ne stops kept, fun _ => rfl⟩
  | accepted _ _ _ unreported => simp [unreported] at reported
  | @stopped kind callback method pairs value target extended warranted present added _ kept =>
      refine ⟨by rw [kept]; rfl, fun same stops => outcome_ne stops same, ?_⟩
      intro goesThrough
      have returns := returnsValue_of_addMethods added
      have noRoom : ¬HasRoom target kind callback (pairs.map Prod.snd) := by
        rw [← @addMethods_eq_none_iff kind callback method target pairs returns, added]
        simp
      cases pairs with
      | nil => simp [addMethods] at added
      | cons pair rest =>
          have taken : target.hasMethod pair.2 kind callback = true := by
            cases taken : target.hasMethod pair.2 kind callback with
            | true => rfl
            | false =>
                exact absurd ⟨kind, callback, method, _, _, target, warranted, present, returns,
                  taken, noRoom⟩ goesThrough
          rw [addMethods_of_taken returns taken] at added
          obtain ⟨rfl, -⟩ := Prod.mk.inj added
          rw [kept, keep_of_hasMethod present taken]

theorem exists_reported_and_bound :
    ∃ environment kinds before use after,
      uses environment.world kinds = before ++ use :: after ∧
      let surroundings := surroundingsOf environment kinds
      let collected := (walk surroundings ⟨.empty, []⟩ before).collected
      anyError (use.reports surroundings collected) = true ∧
        use.outcome surroundings collected ≠ collected :=
  ⟨pressedRound, ListenerKind.standard, [holdUse], pressUse, [], by decide +kernel,
    reported_pressUse, outcome_pressUse_ne⟩

theorem stopsMidway_pressUse :
    anyError (pressUse.reports pressedSurroundings heldTargets) = true ∧
      (pressUse.outcome pressedSurroundings heldTargets).bound = heldTargets.bound ∧
      StopsMidway pressedSurroundings heldTargets pressUse := by
  obtain ⟨bound_eq, unchanged_iff⟩ := outcome_of_reported reported_pressUse
  refine ⟨reported_pressUse, bound_eq, Classical.byContradiction fun goesThrough => ?_⟩
  exact outcome_pressUse_ne (unchanged_iff.2 goesThrough)

end Collection
end Companion
