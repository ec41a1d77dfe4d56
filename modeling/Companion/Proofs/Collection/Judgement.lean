import Companion.Proofs.Collection.Warrants
import Companion.Proofs.Success
import Companion.Proofs.Target

/-!
# What judging a use does

A judgement ends in one of three ways.  The use is refused with an error and nothing changes; or it
warrants a binding, and the target of its class takes the binding up without an error; or it is
stopped with an error when its method was added to some of its ids and the next one refused it.
-/

namespace Companion
namespace Collection

open Diagnostic

theorem targetOf_of_get? {world : Universe} {collected : Collected} {decl : TypeDecl}
    {target : Target} (found : collected.targets.get? decl.name = some target) :
    targetOf world collected decl = .ok target := by
  rw [targetOf, found]

theorem get?_or_newTarget_of_targetOf {world : Universe} {collected : Collected} {decl : TypeDecl}
    {target : Target} (present : targetOf world collected decl = .ok target) :
    collected.targets.get? decl.name = some target ∨ newTarget world decl = .ok target := by
  rw [targetOf] at present
  split at present
  · cases present
    exact .inl (by assumption)
  · exact .inr present

theorem eq_of_newTarget {world : Universe} {decl : TypeDecl} {target : Target}
    (made : newTarget world decl = .ok target) :
    ∃ name, decl.className = .ok name ∧ target = .empty (.classType name)
      (companionName decl.package decl.simpleNames) (decl.has .final) (categoryOf world decl) := by
  obtain ⟨name, named, target_eq⟩ := exists_ok_of_bind made
  cases target_eq
  exact ⟨name, named, rfl⟩

variable {kind : ListenerKind} {callback : Callback} {method : MethodBinding}
  {target extended : Target}

namespace Addition

end Addition

/-- A target that takes an addition up. -/
inductive Adds (target : Target) : Addition → Target → Prop where
  | view {id : ResourceId} {field : FieldBinding} {extended : Target}
      (added : target.addField id field = .ok extended) : Adds target (.view id field) extended
  | views (collection : CollectionBinding) :
      Adds target (.views collection) (target.addCollection collection)
  | resource (resource : ResourceBinding) :
      Adds target (.resource resource) (target.addResource resource)
  | methods {kind : ListenerKind} {callback : Callback} {method : MethodBinding}
      {pairs : List (Int32 × ResourceId)} {extended : Target}
      (added : addMethods kind callback method target pairs = (extended, none)) :
      Adds target (.methods kind callback method (pairs.map Prod.snd)) extended

variable {addition : Addition}

variable {surroundings : Surroundings} {collected : Collected} {use : Use} {verdict : Verdict}

/-- The three ways in which a use may be judged. -/
inductive Judged (surroundings : Surroundings) (collected : Collected) (use : Use)
    (verdict : Verdict) : Prop where
  /-- Nothing changes. -/
  | refused (reported : anyError (reportsOf use.site use.request.failure verdict) = true)
      (kept : outcomeOf collected verdict = collected)
  /-- The target takes up what the use warrants. -/
  | accepted {addition : Addition} {target extended : Target}
      (warranted : Warrants surroundings use.site use.request addition)
      (present : targetOf surroundings.world collected use.site.decl = .ok target)
      (adds : Adds target addition extended)
      (unreported : anyError (reportsOf use.site use.request.failure verdict) = false)
      (kept : outcomeOf collected verdict = collected.accept use.site.decl.name extended)
  /-- The target takes a method up for the ids before the first that refuses it. -/
  | stopped {kind : ListenerKind} {callback : Callback} {method : MethodBinding}
      {pairs : List (Int32 × ResourceId)} {value : Int32} {target extended : Target}
      (warranted : Warrants surroundings use.site use.request
        (.methods kind callback method (pairs.map Prod.snd)))
      (present : targetOf surroundings.world collected use.site.decl = .ok target)
      (added : addMethods kind callback method target pairs = (extended, some value))
      (reported : anyError (reportsOf use.site use.request.failure verdict) = true)
      (kept : outcomeOf collected verdict = collected.keep use.site.decl.name extended)

private theorem judged_of_error {error : UseError} (result_eq : verdict.result = .error error) :
    Judged surroundings collected use verdict := by
  refine .refused ?_ ?_
  · simp [reportsOf, result_eq]
  · rw [outcomeOf, result_eq]

private theorem judged_of_reported (reported : anyError verdict.diagnostics = true)
    (result_eq : verdict.result = .ok collected) : Judged surroundings collected use verdict := by
  refine .refused ?_ ?_
  · rwa [reportsOf, result_eq]
  · rw [outcomeOf, result_eq]

/-- A verdict without an error is refused when no targets come of it, and else it is accepted
because of what these are. -/
private theorem judged_of_lift {problems : List Diagnostic}
    {computed : Except BindingError Collected} (unreported : anyError problems = false)
    (accepts : ∀ changed, computed = .ok changed → ∃ addition target extended,
      Warrants surroundings use.site use.request addition ∧
      targetOf surroundings.world collected use.site.decl = .ok target ∧
      Adds target addition extended ∧
      changed = collected.accept use.site.decl.name extended) :
    Judged surroundings collected use ⟨problems, UseError.lift computed⟩ := by
  cases computed with
  | error error => exact judged_of_error rfl
  | ok changed =>
      obtain ⟨addition, target, extended, warranted, present, adds, rfl⟩ := accepts changed rfl
      exact .accepted warranted present adds unreported rfl

theorem judged_view (site : Site) :
    Judged surroundings collected ⟨.field .bindView, site⟩
      (judgeView surroundings collected site) := by
  rw [judgeView, fieldType]
  cases isField : site.member.kind with
  | method returnType parameters => exact judged_of_error rfl
  | field type =>
      dsimp only
      split
      · rename_i reported
        exact judged_of_reported reported rfl
      · rename_i notReported
        have unreported := Bool.eq_false_iff.2 notReported
        obtain ⟨isOpen, viewable⟩ := anyError_append_eq_false_iff.1 unreported
        rw [commonProblems_iff] at isOpen
        rw [viewProblems_iff] at viewable
        split
        · exact judged_of_error rfl
        · rename_i id found
          obtain ⟨use, carried, given⟩ := Option.bind_eq_some_iff.1 found
          split
          · exact judged_of_reported (by simp) rfl
          · refine judged_of_lift unreported fun changed made => ?_
            obtain ⟨code, written, made⟩ := exists_ok_of_bind made
            obtain ⟨target, present, made⟩ := exists_ok_of_bind made
            obtain ⟨extended, added, accepted⟩ := exists_ok_of_bind made
            cases accepted
            exact ⟨_, target, extended, .view isField isOpen viewable carried given written,
              present, .view added, rfl⟩

theorem judged_views (site : Site) :
    Judged surroundings collected ⟨.field .bindViews, site⟩
      (judgeViews surroundings collected site) := by
  rw [judgeViews, fieldType]
  cases isField : site.member.kind with
  | method returnType parameters => exact judged_of_error rfl
  | field type =>
      dsimp only
      split
      · rename_i reported
        exact judged_of_reported reported rfl
      · rename_i notReported
        have unreported := Bool.eq_false_iff.2 notReported
        obtain ⟨others, ids⟩ := anyError_append_eq_false_iff.1 unreported
        obtain ⟨outer, viewable⟩ := anyError_append_eq_false_iff.1 others
        obtain ⟨isOpen, shaped⟩ := anyError_append_eq_false_iff.1 outer
        rw [commonProblems_iff] at isOpen
        rw [collectionIdProblems_iff] at ids
        obtain ⟨kind, component, holds, shape_eq⟩ := isCollectionOf_of_shape shaped
        rw [shape_eq] at viewable unreported ⊢
        rw [Option.map_some, Option.getD_some, elementProblems_iff] at viewable
        dsimp only
        cases carried : site.member.use? "BindViews" with
        | none => simp [carried] at ids
        | some use =>
            rw [carried] at ids unreported
            refine judged_of_lift unreported fun changed made => ?_
            obtain ⟨code, written, made⟩ := exists_ok_of_bind made
            obtain ⟨target, present, accepted⟩ := exists_ok_of_bind made
            cases accepted
            exact ⟨_, target, _, .views isField isOpen holds viewable carried ids.1 ids.2 written,
              present, .views _, rfl⟩

theorem judged_resource {marker : FieldMarker} (isResource : marker.bindsViews = false)
    (site : Site) :
    Judged surroundings collected ⟨.field marker, site⟩
      (judgeResource marker surroundings collected site) := by
  rw [judgeResource]
  cases isField : site.member.kind with
  | method returnType parameters => exact judged_of_error rfl
  | field type =>
      cases carried : site.member.use? marker.name with
      | none => exact judged_of_error rfl
      | some use =>
          dsimp only
          cases loadable : classify marker type with
          | error expectation => exact judged_of_reported (by simp [formProblems]) rfl
          | ok form =>
              dsimp only
              split
              · rename_i reported
                exact judged_of_reported reported rfl
              · rename_i notReported
                have unreported := Bool.eq_false_iff.2 notReported
                obtain ⟨outer, styled⟩ := anyError_append_eq_false_iff.1 unreported
                have isOpen := (anyError_append_eq_false_iff.1 outer).2
                rw [commonProblems_iff] at isOpen
                rw [styleProblems_iff] at styled
                cases given : use.id? "value" with
                | none => exact judged_of_error rfl
                | some id =>
                    refine judged_of_lift unreported fun changed made => ?_
                    obtain ⟨target, present, accepted⟩ := exists_ok_of_bind made
                    cases accepted
                    exact ⟨_, target, _,
                      .resource isResource isField isOpen loadable carried given styled, present,
                      .resource _, rfl⟩

theorem judged_field (marker : FieldMarker) (site : Site) :
    Judged surroundings collected ⟨.field marker, site⟩
      (judgeField marker surroundings collected site) := by
  unfold judgeField
  split
  · exact judged_view site
  · exact judged_views site
  · rename_i notView notViews
    refine judged_resource ?_ site
    cases marker <;> first | rfl | exact absurd rfl notView | exact absurd rfl notViews

theorem length_le_of_matchFrom {world : Universe} {arguments : List String} {taken : List Nat}
    {parameters : List SourceType} {bound : List BoundParameter}
    (matched : matchFrom world arguments taken parameters = .ok bound) :
    bound.length ≤ parameters.length := by
  induction parameters generalizing taken bound with
  | nil =>
      cases matched
      simp
  | cons parameter rest ih =>
      rw [matchFrom] at matched
      split at matched
      · cases matched
        simp
      · obtain ⟨type, -, matched⟩ := exists_ok_of_bind matched
        obtain ⟨found, later, bound_eq⟩ := exists_ok_of_bind matched
        cases bound_eq
        exact Nat.succ_le_succ (ih later)

/-- All reports on a method for whose listener a callback is selected. -/
def methodProblems (kind : ListenerKind) (site : Site) (use : AnnotationUse)
    (returnType : SourceType) (parameters : List SourceType) (callback : Callback) :
    List Diagnostic :=
  commonProblems kind.marker "methods" site ++
    listenerIdProblems kind.marker site ((listenerIds use).map IdValue.value) ++
    arityProblems kind.marker site parameters callback ++
    returnProblems kind.marker site returnType callback

theorem methodProblems_iff (kind : ListenerKind) (site : Site) (use : AnnotationUse)
    (returnType : SourceType) (parameters : List SourceType) (callback : Callback) :
    anyError (methodProblems kind site use returnType parameters callback) = false ↔
      IsOpen site ∧ (((listenerIds use).map IdValue.value).Nodup ∧
        MayHaveRoot site.member ((listenerIds use).map IdValue.value)) ∧
        parameters.length ≤ callback.parameters.length ∧
        (returnsValue returnType = true →
          returnType.upperBound.display = callback.returnType) := by
  rw [methodProblems, anyError_append_eq_false_iff, anyError_append_eq_false_iff,
    anyError_append_eq_false_iff, commonProblems_iff, listenerIdProblems_iff, arityProblems_iff,
    returnProblems_iff, and_assoc, and_assoc]

/-- The verdict on a method, from the reports on it and what comes of binding it. -/
def boundVerdict (problems : List Diagnostic) :
    Except BindingError (Collected × List Diagnostic) → Verdict
  | .error error => ⟨problems, .error (.binding error)⟩
  | .ok (changed, reports) => ⟨problems ++ reports, .ok changed⟩

/-- A method for whose listener a callback is selected is bound unless it is reported on. -/
theorem judgeListener_of_selected {site : Site} {returnType : SourceType}
    {parameters : List SourceType} {use : AnnotationUse}
    (isMethod : site.member.kind = .method returnType parameters)
    (carried : site.member.use? kind.marker = some use)
    (selected : selectCallback kind (use.text? "callback") = .ok callback) :
    judgeListener kind surroundings collected site =
      let problems := methodProblems kind site use returnType parameters callback
      if anyError problems then ⟨problems, .ok collected⟩
      else boundVerdict problems (judgeMatched surroundings collected kind site returnType
        parameters callback (listenerIds use)) := by
  unfold judgeListener
  dsimp only
  rw [isMethod, carried]
  dsimp only
  rw [selected]
  dsimp only
  split
  · rw [methodProblems, if_pos (by assumption)]
  · rw [methodProblems, if_neg (by assumption)]
    cases judgeMatched surroundings collected kind site returnType parameters callback
      (listenerIds use) <;> rfl

theorem judgeMatched_of_complete {site : Site} {returnType : SourceType}
    {parameters : List SourceType} {bound : List BoundParameter} {ids : List IdValue}
    (matched : matchFrom surroundings.world callback.parameters [] parameters = .ok bound)
    (complete : bound.length = parameters.length) :
    judgeMatched surroundings collected kind site returnType parameters callback ids =
      bindMethod surroundings collected kind site callback ⟨site.member.name, bound,
        isListenerRequired site.member, returnsValue returnType⟩ ids := by
  have notShort : ¬bound.length < parameters.length := by omega
  simp [judgeMatched, matchParameters, matched, notShort, bind, Except.bind, pure, Except.pure]

/-- A method that warrants its binding is bound. -/
theorem judgeListener_of_warrants {site : Site}
    (warranted : Warrants surroundings site (.listener kind) addition) (collected : Collected) :
    ∃ callback method ids problems,
      addition = .methods kind callback method (ids.map (resolve surroundings site)) ∧
      anyError problems = false ∧
      judgeListener kind surroundings collected site = boundVerdict problems
        (bindMethod surroundings collected kind site callback method ids) := by
  cases warranted with
  | @methods _ returnType parameters use callback bound isMethod isOpen carried selected different
      mayHaveRoot arity returns matched complete =>
      have unreported := (methodProblems_iff kind site use returnType parameters callback).2
        ⟨isOpen, ⟨different, mayHaveRoot⟩, arity, returns⟩
      refine ⟨callback, _, listenerIds use, _, rfl, unreported, ?_⟩
      rw [judgeListener_of_selected isMethod carried (selectCallback_eq_ok_iff.2 selected)]
      dsimp only
      rw [if_neg (by simp [unreported]), judgeMatched_of_complete matched complete]

theorem warrants_or_refused_of_listener (kind : ListenerKind) (site : Site) :
    (∃ addition, Warrants surroundings site (.listener kind) addition) ∨
      Judged surroundings collected ⟨.listener kind, site⟩
        (judgeListener kind surroundings collected site) := by
  cases isMethod : site.member.kind with
  | field type =>
      refine .inr (@judged_of_error _ _ _ _ (.wrongElement kind.marker "method") ?_)
      simp [judgeListener, isMethod]
  | method returnType parameters =>
      cases carried : site.member.use? kind.marker with
      | none =>
          refine .inr (@judged_of_error _ _ _ _ (.missingValue kind.marker "value") ?_)
          simp [judgeListener, isMethod, carried]
      | some use =>
          cases selected : selectCallback kind (use.text? "callback") with
          | error error =>
              refine .inr (@judged_of_error _ _ _ _ error ?_)
              simp [judgeListener, isMethod, carried, selected]
          | ok callback =>
              rw [judgeListener_of_selected isMethod carried selected]
              dsimp only
              split
              · rename_i reported
                exact .inr (judged_of_reported reported rfl)
              · rename_i unreported
                rw [Bool.not_eq_true, methodProblems_iff] at unreported
                obtain ⟨isOpen, ⟨different, mayHaveRoot⟩, arity, returns⟩ := unreported
                cases matched : matchFrom surroundings.world callback.parameters []
                    parameters with
                | error error =>
                    refine .inr (@judged_of_error _ _ _ _ (.binding error) ?_)
                    simp [judgeMatched, matchParameters, matched, bind, Except.bind, boundVerdict]
                | ok bound =>
                    by_cases short : bound.length < parameters.length
                    · refine .inr (judged_of_reported ?_ ?_) <;>
                        simp [judgeMatched, matchParameters, matched, short, bind, Except.bind,
                          boundVerdict, pure, Except.pure]
                    · have := length_le_of_matchFrom matched
                      have complete : bound.length = parameters.length := by omega
                      exact .inl ⟨_, .methods isMethod isOpen carried
                        (selectCallback_eq_ok_iff.1 selected) different mayHaveRoot arity returns
                        matched complete⟩

theorem judged_listener (kind : ListenerKind) (site : Site) :
    Judged surroundings collected ⟨.listener kind, site⟩
      (judgeListener kind surroundings collected site) := by
  obtain ⟨addition, warranted⟩ | refused :=
    @warrants_or_refused_of_listener surroundings collected kind site
  · obtain ⟨callback, method, ids, problems, rfl, unreported, verdict_eq⟩ :=
      judgeListener_of_warrants warranted collected
    rw [verdict_eq]
    cases present : targetOf surroundings.world collected site.decl with
    | error error =>
        refine @judged_of_error _ _ _ _ (.binding error) ?_
        simp [bindMethod, present, bind, Except.bind, boundVerdict]
    | ok target =>
        have resolved_eq : ids.map (resolve surroundings site) =
            (ids.map fun id => (id.value, resolve surroundings site id)).map Prod.snd := by
          rw [List.map_map]
          rfl
        rw [resolved_eq] at warranted
        rcases added : addMethods kind callback method target
            (ids.map fun id => (id.value, resolve surroundings site id)) with ⟨extended, refusal⟩
        cases refusal with
        | none =>
            refine .accepted warranted present (.methods added) ?_ ?_ <;>
              simp [bindMethod, present, added, bind, Except.bind, boundVerdict, pure,
                Except.pure, outcomeOf, reportsOf, unreported]
        | some value =>
            refine .stopped warranted present added ?_ ?_ <;>
              simp [bindMethod, present, added, bind, Except.bind, boundVerdict, pure,
                Except.pure, outcomeOf, reportsOf]
  · exact refused

/-- Every use that is judged is refused, accepted or stopped. -/
theorem judged_verdict (surroundings : Surroundings) (collected : Collected) (use : Use) :
    Judged surroundings collected use (use.verdict surroundings collected) := by
  obtain ⟨request, site⟩ := use
  cases request with
  | field marker => exact judged_field marker site
  | listener kind => exact judged_listener kind site

end Collection
end Companion
