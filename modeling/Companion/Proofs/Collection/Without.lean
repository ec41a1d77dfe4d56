import Companion.Proofs.Collection.Judgement
import Companion.Proofs.Collection.Reports
import Companion.Proofs.Linking.Separation
import Companion.Proofs.Symbols.Packages

/-!
# Collecting without a class

The uses on the members of one class touch the target of that class alone, and a use on another
class is judged by the types that its member mentions and the ids of its own package.  So a class
that stands alone in its package and that no other class mentions can be left out: the targets of
the other classes and the reports on their members stay the same.
-/

namespace Companion

namespace Collected

variable {collected : Collected} {hidden name : String}

theorem without_empty : Collected.empty.without [hidden] = .empty := rfl

theorem get?_targets_without (other : name ≠ hidden) :
    (collected.without [hidden]).targets.get? name = collected.targets.get? name := by
  rw [without, Table.get?_without, if_neg (by simpa using other)]

theorem without_keep (other : name ≠ hidden) (target : Target) :
    (collected.keep name target).without [hidden] =
      (collected.without [hidden]).keep name target := by
  have kept : name ∉ [hidden] := by simpa using other
  simp only [without, keep, Table.without_insert_of_not_mem kept]

theorem without_markBound (other : name ≠ hidden) :
    (collected.markBound name).without [hidden] = (collected.without [hidden]).markBound name := by
  simp only [without, markBound, Listing.addNew]
  by_cases present : name ∈ collected.bound
  · simp [present, other]
  · simp [present, other, List.filter_append]

theorem without_accept (other : name ≠ hidden) (target : Target) :
    (collected.accept name target).without [hidden] =
      (collected.without [hidden]).accept name target := by
  rw [accept, without_markBound other, without_keep other, accept]

theorem without_keep_self (target : Target) :
    (collected.keep hidden target).without [hidden] = collected.without [hidden] := by
  simp only [without, keep, Table.without_insert_of_mem (List.mem_singleton_self hidden)]

theorem without_markBound_self :
    (collected.markBound hidden).without [hidden] = collected.without [hidden] := by
  simp only [without, markBound, Listing.addNew]
  split
  · rfl
  · simp [List.filter_append]

theorem without_accept_self (target : Target) :
    (collected.accept hidden target).without [hidden] = collected.without [hidden] := by
  rw [accept, without_markBound_self, without_keep_self]

end Collected

/-- The verdict with the targets of some classes left out. -/
def Verdict.without (verdict : Verdict) (names : List String) : Verdict :=
  ⟨verdict.diagnostics, verdict.result.map fun collected => collected.without names⟩

/-- Whether some surroundings are those of a round without a class that stands alone. -/
structure Surroundings.IsWithout (part whole : Surroundings) (hidden package : String) : Prop where
  /-- The class stands alone. -/
  alone : whole.world.IsAlone hidden package
  /-- All other types are known. -/
  world : part.world = whole.world.without hidden
  /-- Numbers used in other packages stand for the same ids. -/
  symbols : ∀ key : SymbolKey, key.package ≠ package →
    part.symbols.idOf key = whole.symbols.idOf key

/-- Whether a member has nothing to do with a class in some package. -/
structure Site.IsApart (site : Site) (hidden package : String) : Prop where
  /-- It is a member of another class. -/
  name : site.decl.name ≠ hidden
  /-- That class is in another package. -/
  package : site.decl.package ≠ package
  /-- The types of the member do not mention the class. -/
  types : ∀ type ∈ site.member.types, hidden ∉ type.classNames

namespace Collection

variable {part whole : Surroundings} {hidden package : String} {collected : Collected}

theorem isWithout_surroundingsOf {environment : Environment}
    (alone : environment.world.IsAlone hidden package) (kinds : List ListenerKind) :
    (surroundingsOf (environment.without hidden) kinds).IsWithout
      (surroundingsOf environment kinds) hidden package where
  alone := alone
  world := rfl
  symbols := fun _ differs => SymbolTable.idOf_without alone (Marker.names kinds) differs

/-- A target that takes something up is kept in the same way without another class. -/
theorem lift_accept_without {name : String} (other : name ≠ hidden)
    (computed : Except BindingError Target) :
    UseError.lift (computed >>= fun target =>
        return (collected.without [hidden]).accept name target) =
      (UseError.lift (computed >>= fun target => return collected.accept name target)).map
        fun collected => collected.without [hidden] := by
  cases computed with
  | error error => rfl
  | ok target => exact congrArg Except.ok (Collected.without_accept other target).symm

theorem not_mem_classNames_of_collectionShape {site : Site} {type component : SourceType}
    (absent : hidden ∉ type.classNames)
    (shaped : (collectionShape site type).2.1 = some component) :
    hidden ∉ component.classNames := by
  cases type with
  | array inner =>
      cases shaped
      rwa [SourceType.classNames_upperBound]
  | declared name args =>
      by_cases isList : name = listSpelling
      · match args with
        | [inner] =>
            simp only [collectionShape, isList, if_true, Option.some.injEq] at shaped
            simp only [SourceType.classNames, SourceType.classNamesAll, List.mem_cons,
              List.append_nil, not_or] at absent
            rw [← shaped, SourceType.classNames_upperBound]
            exact absent.2
        | [] | _ :: _ :: _ => simp [collectionShape, isList] at shaped
      · simp [collectionShape, isList] at shaped
  | _ => cases shaped

section

variable (rest : part.IsWithout whole hidden package)
include rest

theorem isViewLike_without {type : SourceType} (absent : hidden ∉ type.classNames) :
    isViewLike part.world type = isViewLike whole.world type := by
  rw [rest.world, isViewLike, isViewLike,
    Universe.isSubtype_without rest.alone.unmentioned absent, Universe.isInterface_without absent]

theorem ofSource_without {type : SourceType} (absent : hidden ∉ type.classNames) :
    CodeType.ofSource part.world type = CodeType.ofSource whole.world type := by
  rw [rest.world, Universe.ofSource_without absent]

theorem isAssignable_without {type : SourceType} (absent : hidden ∉ type.classNames) :
    isAssignable part.world type = isAssignable whole.world type := by
  funext argument
  rw [rest.world, isAssignable, isAssignable,
    Universe.isSubtype_without rest.alone.unmentioned absent,
    Universe.isSubtype_without rest.alone.unmentioned absent, Universe.isInterface_without absent]

theorem matchFrom_without {arguments : List String} {taken : List Nat}
    {parameters : List SourceType} (absent : ∀ type ∈ parameters, hidden ∉ type.classNames) :
    matchFrom part.world arguments taken parameters =
      matchFrom whole.world arguments taken parameters := by
  induction parameters generalizing taken with
  | nil => rfl
  | cons parameter later ih =>
      have absentHere : hidden ∉ parameter.upperBound.classNames := by
        rw [SourceType.classNames_upperBound]
        exact absent parameter List.mem_cons_self
      have free_eq : freePosition? part.world arguments taken parameter.upperBound =
          freePosition? whole.world arguments taken parameter.upperBound := by
        rw [freePosition?, freePosition?, isAssignable_without rest absentHere]
      rw [matchFrom, matchFrom, free_eq]
      cases freePosition? whole.world arguments taken parameter.upperBound with
      | none => rfl
      | some position =>
          have later_eq := @ih (position :: taken)
            fun type listed => absent type (List.mem_cons_of_mem parameter listed)
          simp only [ofSource_without rest absentHere, later_eq]

variable {site : Site} (apart : site.IsApart hidden package)
include apart

theorem resolve_without : resolve part site = resolve whole site := by
  funext id
  exact rest.symbols _ apart.package

theorem targetOf_without (collected : Collected) :
    targetOf part.world (collected.without [hidden]) site.decl =
      targetOf whole.world collected site.decl := by
  have absent : hidden ∉ site.decl.asType.classNames := by
    simpa [TypeDecl.asType, SourceType.named, SourceType.classNames, SourceType.classNamesAll]
      using Ne.symm apart.name
  have category_eq : categoryOf part.world site.decl = categoryOf whole.world site.decl := by
    simp only [rest.world, categoryOf, Universe.isSubtype_without rest.alone.unmentioned absent]
  rw [targetOf, targetOf, Collected.get?_targets_without apart.name, newTarget, newTarget,
    category_eq]

theorem judgeView_without :
    judgeView part (collected.without [hidden]) site =
      (judgeView whole collected site).without [hidden] := by
  rw [judgeView, judgeView, fieldType]
  cases isField : site.member.kind with
  | method returnType parameters => rfl
  | field type =>
      have absent : hidden ∉ type.upperBound.classNames := by
        rw [SourceType.classNames_upperBound]
        exact apart.types type (by simp [Member.types, isField])
      have problems_eq : viewProblems part.world site type.upperBound =
          viewProblems whole.world site type.upperBound := by
        rw [viewProblems, viewProblems, isViewLike_without rest absent]
      simp only [problems_eq, ofSource_without rest absent, resolve_without rest apart,
        Collected.get?_targets_without apart.name, targetOf_without rest apart]
      split
      · rfl
      · split
        · rfl
        · split
          · rfl
          · cases CodeType.ofSource whole.world type.upperBound with
            | error error => rfl
            | ok code =>
                cases targetOf whole.world collected site.decl with
                | error error => rfl
                | ok target => exact congrArg (Verdict.mk _) (lift_accept_without apart.name _)

theorem judgeViews_without :
    judgeViews part (collected.without [hidden]) site =
      (judgeViews whole collected site).without [hidden] := by
  rw [judgeViews, judgeViews, fieldType]
  cases isField : site.member.kind with
  | method returnType parameters => rfl
  | field type =>
      have absent : hidden ∉ type.classNames := apart.types type (by simp [Member.types, isField])
      rcases shape_eq : collectionShape site type with ⟨kind, _ | component, shapeProblems⟩
      · simp only [shape_eq, Option.map_none, Option.getD_none]
        split <;> rfl
      · have absentBelow := not_mem_classNames_of_collectionShape absent (congrArg (·.2.1) shape_eq)
        have problems_eq : elementProblems part.world site component =
            elementProblems whole.world site component := by
          rw [elementProblems, elementProblems, isViewLike_without rest absentBelow]
        simp only [shape_eq, Option.map_some, Option.getD_some, problems_eq,
          resolve_without rest apart, targetOf_without rest apart]
        split
        · rfl
        · cases kind with
          | none => rfl
          | some kind =>
              dsimp only
              rw [ofSource_without rest absentBelow]
              cases CodeType.ofSource whole.world component with
              | error error => rfl
              | ok code =>
                  cases targetOf whole.world collected site.decl with
                  | error error => rfl
                  | ok target =>
                      exact congrArg (Verdict.mk _)
                        (lift_accept_without apart.name (.ok (target.addCollection _)))

theorem judgeResource_without (marker : FieldMarker) :
    judgeResource marker part (collected.without [hidden]) site =
      (judgeResource marker whole collected site).without [hidden] := by
  have kind_eq : kindOf part site = kindOf whole site := by
    funext use form
    cases form <;> simp only [kindOf, resolve_without rest apart]
  rw [judgeResource, judgeResource]
  cases site.member.kind with
  | method returnType parameters => rfl
  | field type =>
      cases site.member.use? marker.name with
      | none => rfl
      | some use =>
          simp only [kind_eq, resolve_without rest apart, targetOf_without rest apart]
          cases classify marker type with
          | error expectation => rfl
          | ok form =>
              dsimp only
              split
              · rfl
              · split
                · rfl
                · cases targetOf whole.world collected site.decl with
                  | error error => rfl
                  | ok target =>
                      exact congrArg (Verdict.mk _)
                        (lift_accept_without apart.name (.ok (target.addResource _)))

theorem bindMethod_without {kind : ListenerKind} {callback : Callback} {method : MethodBinding}
    (ids : List IdValue) :
    bindMethod part (collected.without [hidden]) kind site callback method ids =
      (bindMethod whole collected kind site callback method ids).map fun (changed, reports) =>
        (changed.without [hidden], reports) := by
  simp only [bindMethod, targetOf_without rest apart, resolve_without rest apart]
  cases targetOf whole.world collected site.decl with
  | error error => rfl
  | ok target =>
      rcases added : addMethods kind callback method target
        (ids.map fun id => (id.value, resolve whole site id)) with ⟨extended, _ | value⟩
      · simp [added, bind, Except.bind, pure, Except.pure, Except.map,
          Collected.without_accept apart.name]
      · simp [added, bind, Except.bind, pure, Except.pure, Except.map,
          Collected.without_keep apart.name]

theorem judgeMatched_without {kind : ListenerKind} {returnType : SourceType}
    {parameters : List SourceType} (absent : ∀ type ∈ parameters, hidden ∉ type.classNames)
    (callback : Callback) (ids : List IdValue) :
    judgeMatched part (collected.without [hidden]) kind site returnType parameters callback ids =
      (judgeMatched whole collected kind site returnType parameters callback ids).map
        fun (changed, reports) => (changed.without [hidden], reports) := by
  rw [judgeMatched, judgeMatched, matchParameters, matchParameters, matchFrom_without rest absent]
  cases matchFrom whole.world callback.parameters [] parameters with
  | error error => rfl
  | ok found =>
      by_cases short : found.length < parameters.length
      · simp [short, bind, Except.bind, pure, Except.pure, Except.map]
      · simp [short, bind, Except.bind, pure, Except.pure, bindMethod_without rest apart]

theorem judgeListener_without (kind : ListenerKind) :
    judgeListener kind part (collected.without [hidden]) site =
      (judgeListener kind whole collected site).without [hidden] := by
  rw [judgeListener, judgeListener]
  cases isMethod : site.member.kind with
  | field type => rfl
  | method returnType parameters =>
      have absent : ∀ type ∈ parameters, hidden ∉ type.classNames := fun type listed =>
        apart.types type (by simp [Member.types, isMethod, listed])
      cases site.member.use? kind.marker with
      | none => rfl
      | some use =>
          simp only [judgeMatched_without rest apart absent]
          cases selectCallback kind (use.text? "callback") with
          | error error => rfl
          | ok callback =>
              dsimp only
              split
              · rfl
              · cases judgeMatched whole collected kind site returnType parameters callback
                  (listenerIds use) <;> rfl

/-- The verdict on a use on another class is the same without the class. -/
theorem judge_without (request : Request) :
    request.judge part (collected.without [hidden]) site =
      (request.judge whole collected site).without [hidden] := by
  cases request with
  | listener kind => exact judgeListener_without rest apart kind
  | field marker =>
      rw [Request.judge, Request.judge]
      unfold judgeField
      split
      · exact judgeView_without rest apart
      · exact judgeViews_without rest apart
      · exact judgeResource_without rest apart marker

end

theorem isApart_of_mem_uses {world : Universe} {kinds : List ListenerKind} {use : Use}
    (alone : world.IsAlone hidden package) (listed : use ∈ uses world kinds)
    (other : use.site.decl.name ≠ hidden) : use.site.IsApart hidden package := by
  obtain ⟨source, member, -⟩ := mem_annotated_iff.1 (mem_uses_iff.1 listed).2
  refine ⟨other, mt (alone.package _ source).1 other, fun type declared mentioned => ?_⟩
  refine alone.unmentioned _ (List.mem_filter.1 source).1 other ?_
  refine List.mem_flatMap.2 ⟨type, List.mem_append_right _ ?_, mentioned⟩
  exact List.mem_flatMap.2 ⟨use.site.member, member, declared⟩

theorem outcomeOf_without (collected : Collected) (verdict : Verdict) :
    outcomeOf (collected.without [hidden]) (verdict.without [hidden]) =
      (outcomeOf collected verdict).without [hidden] := by
  obtain ⟨diagnostics, _ | changed⟩ := verdict <;> rfl

theorem reportsOf_without (site : Site) (failure : String) (verdict : Verdict) :
    reportsOf site failure (verdict.without [hidden]) = reportsOf site failure verdict := by
  obtain ⟨diagnostics, _ | changed⟩ := verdict <;> rfl

namespace Use

variable {use : Use}

/-- A use on another class does the same without the class. -/
theorem outcome_without (rest : part.IsWithout whole hidden package)
    (apart : use.site.IsApart hidden package) (collected : Collected) :
    use.outcome part (collected.without [hidden]) =
      (use.outcome whole collected).without [hidden] := by
  rw [outcome, outcome, verdict, verdict, judge_without rest apart, outcomeOf_without]
  split <;> rfl

/-- What is reported on it is the same as well. -/
theorem reports_without (rest : part.IsWithout whole hidden package)
    (apart : use.site.IsApart hidden package) (collected : Collected) :
    use.reports part (collected.without [hidden]) = use.reports whole collected := by
  rw [reports, reports, verdict, verdict, judge_without rest apart, reportsOf_without]

/-- A use changes no target but that of its own class. -/
theorem without_outcome_self (surroundings : Surroundings) (collected : Collected) :
    (use.outcome surroundings collected).without [use.site.decl.name] =
      collected.without [use.site.decl.name] := by
  rw [outcome]
  split
  · cases judged_verdict surroundings collected use with
    | refused _ kept => rw [kept]
    | accepted _ _ _ _ kept => rw [kept, Collected.without_accept_self]
    | stopped _ _ _ _ kept => rw [kept, Collected.without_keep_self]
  · rfl

end Use

theorem uses_without (world : Universe) (hidden : String) (kinds : List ListenerKind) :
    uses (world.without hidden) kinds =
      (uses world kinds).filter fun use => use.site.decl.name ≠ hidden := by
  simp only [uses, Universe.annotated_without, List.filter_flatMap, List.filter_map]
  rfl

section

variable (rest : part.IsWithout whole hidden package)
include rest

/-- The walk along the uses on the other classes ends with the targets of these classes. -/
theorem collected_walk_without {progress other : Progress}
    (same : other.collected = progress.collected.without [hidden]) {uses : List Use}
    (apart : ∀ use ∈ uses, use.site.decl.name ≠ hidden → use.site.IsApart hidden package) :
    (walk part other (uses.filter fun use => use.site.decl.name ≠ hidden)).collected =
      (walk whole progress uses).collected.without [hidden] := by
  induction uses generalizing progress other with
  | nil => exact same
  | cons use later ih =>
      -- a use on the hidden class is skipped on the left and leaves no trace on the right
      have apartLater := fun next listed => apart next (List.mem_cons_of_mem use listed)
      by_cases here : use.site.decl.name = hidden
      · subst here
        rw [List.filter_cons_of_neg (by simp)]
        refine @ih (use.step whole progress) other ?_ apartLater
        exact same.trans (Use.without_outcome_self whole progress.collected).symm
      · rw [List.filter_cons_of_pos (by simpa using here)]
        refine @ih (use.step whole progress) (use.step part other) ?_ apartLater
        rw [Use.step, Use.step, same]
        exact Use.outcome_without rest (apart use List.mem_cons_self here) progress.collected

/-- The reports along it are those on these classes, in the same order. -/
theorem reportsAlong_without {collected : Collected} {uses : List Use}
    (apart : ∀ use ∈ uses, use.site.decl.name ≠ hidden → use.site.IsApart hidden package) :
    reportsAlong part (collected.without [hidden])
        (uses.filter fun use => use.site.decl.name ≠ hidden) =
      (reportsAlong whole collected uses).filter fun report =>
        report.use.site.decl.name ≠ hidden := by
  induction uses generalizing collected with
  | nil => rfl
  | cons use later ih =>
      have later_eq := @ih (use.outcome whole collected)
        fun next listed => apart next (List.mem_cons_of_mem use listed)
      rw [reportsAlong, List.filter_append, ← later_eq]
      by_cases here : use.site.decl.name = hidden
      · have dropped : ((use.reports whole collected).map (Report.mk use)).filter
            (fun report => report.use.site.decl.name ≠ hidden) = [] := by simp [here]
        subst here
        rw [dropped, List.filter_cons_of_neg (by simp), Use.without_outcome_self, List.nil_append]
      · have kept : ((use.reports whole collected).map (Report.mk use)).filter
            (fun report => report.use.site.decl.name ≠ hidden) =
              (use.reports whole collected).map (Report.mk use) := by
          simp [List.filter_eq_self, here]
        have apartHere := apart use List.mem_cons_self here
        rw [kept, List.filter_cons_of_pos (by simpa using here), reportsAlong,
          Use.reports_without rest apartHere, Use.outcome_without rest apartHere]

end

section

variable {environment : Environment} (alone : environment.world.IsAlone hidden package)
  (kinds : List ListenerKind)
include alone

/-- The round without the class has the same targets otherwise. -/
theorem collected_collect_without :
    (collect (environment.without hidden) kinds).collected =
      (collect environment kinds).collected.without [hidden] := by
  rw [collect_eq_walk, collect_eq_walk, Environment.without, uses_without]
  refine collected_walk_without (isWithout_surroundingsOf alone kinds) ?_ ?_
  · exact Collected.without_empty.symm
  · exact fun _ listed => isApart_of_mem_uses alone listed

/-- It has the same reports on the members of the other classes. -/
theorem reportsIn_without :
    reportsIn (environment.without hidden) kinds =
      (reportsIn environment kinds).filter fun report =>
        report.use.site.decl.name ≠ hidden := by
  rw [reportsIn, reportsIn, Environment.without, uses_without, ← @Collected.without_empty hidden]
  exact reportsAlong_without (isWithout_surroundingsOf alone kinds)
    fun _ listed => isApart_of_mem_uses alone listed

end

end Collection
end Companion
