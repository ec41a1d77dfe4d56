import Companion.Proofs.Collection.Uses
import Companion.Proofs.Success

/-!
# Reports and the uses that they are on

What is reported while a round is collected comes from its uses, one after the other.  Each report
is about the member of the use that it comes from, or about the class that declares this member.
-/

namespace Companion
namespace Collection

/-- Whether a diagnostic is about a member or about its class. -/
def Concerns (site : Site) (diagnostic : Diagnostic) : Prop :=
  diagnostic.element = some site.path ∨ diagnostic.element = some site.decl.name

/-- Whether all diagnostics of a list are about a member or about its class. -/
def AllConcern (site : Site) (diagnostics : List Diagnostic) : Prop :=
  ∀ diagnostic ∈ diagnostics, Concerns site diagnostic

variable {site : Site} {message : String}

@[simp]
theorem concerns_error_path : Concerns site (.error site.path message) := .inl rfl

@[simp]
theorem concerns_error_name : Concerns site (.error site.decl.name message) := .inr rfl

@[simp]
theorem concerns_note_path : Concerns site (.note site.path message) := .inl rfl

@[simp]
theorem allConcern_nil : AllConcern site [] := by simp [AllConcern]

@[simp]
theorem allConcern_cons {diagnostic : Diagnostic} {rest : List Diagnostic} :
    AllConcern site (diagnostic :: rest) ↔ Concerns site diagnostic ∧ AllConcern site rest := by
  simp [AllConcern]

@[simp]
theorem allConcern_append {left right : List Diagnostic} :
    AllConcern site (left ++ right) ↔ AllConcern site left ∧ AllConcern site right := by
  simp [AllConcern, or_imp, forall_and]

theorem allConcern_ite {condition : Prop} [Decidable condition] {yes no : List Diagnostic}
    (positive : AllConcern site yes) (negative : AllConcern site no) :
    AllConcern site (if condition then yes else no) := by
  split
  · exact positive
  · exact negative

@[simp]
theorem allConcern_commonProblems (marker thing : String) (site : Site) :
    AllConcern site (commonProblems marker thing site) := by
  rw [commonProblems, accessProblems, packageProblems]
  simp only [allConcern_append]
  refine ⟨⟨⟨?_, ?_⟩, ?_⟩, ?_⟩
  all_goals split <;> simp

@[simp]
theorem allConcern_viewProblems (world : Universe) (site : Site) (type : SourceType) :
    AllConcern site (viewProblems world site type) := by
  simp [viewProblems, allConcern_ite]

@[simp]
theorem allConcern_elementProblems (world : Universe) (site : Site) (type : SourceType) :
    AllConcern site (elementProblems world site type) := by
  simp [elementProblems, allConcern_ite]

@[simp]
theorem allConcern_collectionShape (site : Site) (type : SourceType) :
    AllConcern site (collectionShape site type).2.2 := by
  unfold collectionShape
  split
  · simp
  · split
    · split <;> simp
    · simp
  · simp

@[simp]
theorem allConcern_collectionIdProblems (site : Site) (ids : List IdValue) :
    AllConcern site (collectionIdProblems site ids) := by
  rw [collectionIdProblems, allConcern_append]
  constructor <;> split <;> simp

@[simp]
theorem allConcern_listenerIdProblems (marker : String) (site : Site) (values : List Int32) :
    AllConcern site (listenerIdProblems marker site values) := by
  rw [listenerIdProblems, allConcern_append]
  constructor
  · split <;> simp
  · intro diagnostic listed
    obtain ⟨value, -, reported⟩ := List.mem_flatMap.1 listed
    refine allConcern_ite (allConcern_ite ?_ ?_) ?_ diagnostic reported <;> simp

@[simp]
theorem allConcern_formProblems (marker : FieldMarker) (site : Site)
    (form : Except String LoadForm) : AllConcern site (formProblems marker site form) := by
  cases form <;> simp [formProblems]

@[simp]
theorem allConcern_styleProblems (marker : FieldMarker) (site : Site) (use : AnnotationUse) :
    AllConcern site (styleProblems marker site use) := by
  simp [styleProblems, allConcern_ite]

@[simp]
theorem allConcern_arityProblems (marker : String) (site : Site) (parameters : List SourceType)
    (callback : Callback) : AllConcern site (arityProblems marker site parameters callback) := by
  simp [arityProblems, allConcern_ite]

@[simp]
theorem allConcern_returnProblems (marker : String) (site : Site) (returnType : SourceType)
    (callback : Callback) : AllConcern site (returnProblems marker site returnType callback) := by
  simp [returnProblems, allConcern_ite]

variable {surroundings : Surroundings} {collected : Collected}

theorem allConcern_judgeView (site : Site) :
    AllConcern site (judgeView surroundings collected site).diagnostics := by
  rw [judgeView, fieldType]
  cases site.member.kind with
  | method returnType parameters => simp
  | field type =>
      dsimp only
      split
      · simp
      · split
        · simp
        · split <;> simp

theorem allConcern_judgeViews (site : Site) :
    AllConcern site (judgeViews surroundings collected site).diagnostics := by
  rw [judgeViews, fieldType]
  cases site.member.kind with
  | method returnType parameters => simp
  | field type =>
      have shaped := allConcern_collectionShape site type
      have viewable : AllConcern site (((collectionShape site type).2.1.map
          (elementProblems surroundings.world site)).getD []) := by
        cases (collectionShape site type).2.1 <;> simp
      dsimp only
      split
      · simp [shaped, viewable]
      · split <;> simp [shaped, viewable]

theorem allConcern_judgeResource (marker : FieldMarker) (site : Site) :
    AllConcern site (judgeResource marker surroundings collected site).diagnostics := by
  rw [judgeResource]
  split
  · simp
  · simp
  · dsimp only
    split
    · simp
    · split
      · simp
      · split <;> simp

theorem allConcern_judgeMatched {kind : ListenerKind} {site : Site} {returnType : SourceType}
    {parameters : List SourceType} {callback : Callback} {ids : List IdValue}
    {changed : Collected} {reports : List Diagnostic}
    (judged : judgeMatched surroundings collected kind site returnType parameters callback ids =
      .ok (changed, reports)) : AllConcern site reports := by
  obtain ⟨found, -, judged⟩ := exists_ok_of_bind judged
  split at judged
  · cases judged
    simp
  · obtain ⟨target, -, judged⟩ := exists_ok_of_bind judged
    dsimp only at judged
    split at judged <;> cases judged <;> simp

theorem allConcern_judgeListener (kind : ListenerKind) (site : Site) :
    AllConcern site (judgeListener kind surroundings collected site).diagnostics := by
  unfold judgeListener
  dsimp only
  split
  · simp
  · simp
  · split
    · simp
    · split
      · simp
      · split
        · simp
        · rename_i judged
          simp [allConcern_judgeMatched judged]

/-- What is reported on a use is about its member or the class of that. -/
theorem allConcern_reports (use : Use) :
    AllConcern use.site (use.reports surroundings collected) := by
  have judged : AllConcern use.site (use.verdict surroundings collected).diagnostics := by
    obtain ⟨marker | kind, site⟩ := use
    · rw [Use.verdict, Request.judge]
      unfold judgeField
      split
      · exact allConcern_judgeView site
      · exact allConcern_judgeViews site
      · exact allConcern_judgeResource marker site
    · exact allConcern_judgeListener kind site
  unfold Use.reports reportsOf
  split
  · split <;> simp [judged]
  · simp

/-- A diagnostic with the use that it comes from. -/
structure Report where
  /-- The use. -/
  use : Use
  /-- What is reported on it. -/
  diagnostic : Diagnostic

/-- Everything that is reported along a walk. -/
def reportsAlong (surroundings : Surroundings) (collected : Collected) : List Use → List Report
  | [] => []
  | use :: rest => (use.reports surroundings collected).map (Report.mk use) ++
      reportsAlong surroundings (use.outcome surroundings collected) rest

/-- Everything that is reported in a round. -/
def reportsIn (environment : Environment) (kinds : List ListenerKind) : List Report :=
  reportsAlong (surroundingsOf environment kinds) .empty (uses environment.world kinds)

theorem diagnostics_walk (surroundings : Surroundings) (progress : Progress) (uses : List Use) :
    (walk surroundings progress uses).diagnostics = progress.diagnostics ++
      (reportsAlong surroundings progress.collected uses).map Report.diagnostic := by
  induction uses generalizing progress with
  | nil => exact (List.append_nil _).symm
  | cons use rest ih =>
      refine (ih (use.step surroundings progress)).trans ?_
      rw [Use.step, reportsAlong, List.map_append, List.map_map, List.append_assoc]
      congr 2
      exact (List.map_id _).symm

theorem diagnostics_collect (environment : Environment) (kinds : List ListenerKind) :
    (collect environment kinds).diagnostics =
      (reportsIn environment kinds).map Report.diagnostic := by
  rw [collect_eq_walk, diagnostics_walk]
  rfl

theorem concerns_of_mem_reportsAlong {uses : List Use} {report : Report}
    (listed : report ∈ reportsAlong surroundings collected uses) :
    report.use ∈ uses ∧ Concerns report.use.site report.diagnostic := by
  induction uses generalizing collected with
  | nil => simp [reportsAlong] at listed
  | cons use rest ih =>
      rcases List.mem_append.1 listed with here | later
      · obtain ⟨diagnostic, reported, rfl⟩ := List.mem_map.1 here
        exact ⟨List.mem_cons_self, allConcern_reports use diagnostic reported⟩
      · exact (ih later).imp_left (List.mem_cons_of_mem use)

/-- Every report of a round comes from one of its uses and is about the member of that use or the
class of the member. -/
theorem concerns_of_mem_reportsIn {environment : Environment} {kinds : List ListenerKind}
    {report : Report} (listed : report ∈ reportsIn environment kinds) :
    report.use ∈ uses environment.world kinds ∧ Concerns report.use.site report.diagnostic :=
  concerns_of_mem_reportsAlong listed

end Collection
end Companion
