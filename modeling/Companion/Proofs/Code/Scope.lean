import Companion.Proofs.Code.Blocks
import Companion.Proofs.Code.Constructors
import Companion.Proofs.Code.Lookups
import Mathlib.Data.List.Nodup

/-!
# Variables of the constructor that binds

Beside the target, the constructor has its second parameter and up to three variables of its own.
Which of them it declares is read off the target as a whole, while the statements that use them are
made group by group and resource by resource.  The two fit together: whatever a statement uses was
declared before it, and the variables for views and for resources are declared only for some use.
-/

namespace Companion

/-- The variables that a search uses: every view is searched below the view that is given. -/
def Lookup.uses : Lookup → List String
  | .plain _ _ | .described _ _ _ _ => ["source"]

/-- The variables that the value of a field is formed from. -/
def ViewValue.uses : ViewValue → List String
  | .search lookup => lookup.uses
  | .place here | .checked here _ _ | .cast here _ => [here.write]

/-- The variables that a step uses; the view that a search finds is kept in a variable. -/
def GroupStep.uses : GroupStep → List String
  | .find lookup => "view" :: lookup.uses
  | .assign _ value => value.uses
  | .attach block => [block.place.write]

/-- The variables that a resource is loaded through. -/
def ResourceValue.uses : ResourceValue → List String
  | .ofResources _ _ | .bitmap _ => ["res"]
  | .ofContext _ _ | .byHelper _ _ _ | .tinted _ _ => ["context"]
  | .styled font _ => font.uses

/-- The variables that the parent is constructed with. -/
def SuperArgument.uses : SuperArgument → List String
  | .source | .contextOfSource => ["source"]
  | .context => ["context"]

namespace BindStatement

/-- The variables that a statement uses beside the target. -/
def uses : BindStatement → List String
  | .callSuper argument => argument.uses
  | .keepTarget | .declareView => []
  | .group _ step => step.uses
  | .assignCollection _ _ items => items.flatMap Lookup.uses
  | .declareContext => ["source"]
  | .declareResources => ["context"]
  | .assignResource _ value => value.uses

/-- The variable that a statement declares. -/
def declares? : BindStatement → Option String
  | .declareView => some "view"
  | .declareContext => some "context"
  | .declareResources => some "res"
  | .callSuper _ | .keepTarget | .group _ _ | .assignCollection _ _ _ | .assignResource _ _ => none

end BindStatement

namespace BindConstructor

/-- The variables that a constructor has after some statements: its two parameters, and what the
statements declare. -/
def variablesAfter (bind : BindConstructor) (statements : List BindStatement) : List String :=
  "target" :: bind.parameter.name :: statements.filterMap BindStatement.declares?

/-- Whether the variables of a constructor are in scope where they are used. -/
structure IsScoped (bind : BindConstructor) : Prop where
  /-- No two variables have the same name. -/
  distinct : (bind.variablesAfter bind.body.flatten).Nodup
  /-- What a statement uses was declared before it, exactly once. -/
  declared : ∀ before statement after, bind.body.flatten = before ++ statement :: after →
    ∀ name ∈ statement.uses, (bind.variablesAfter before).count name = 1
  /-- The variables for views and for resources are used when they are declared. -/
  used : ∀ name ∈ ["view", "res"], name ∈ bind.variablesAfter bind.body.flatten →
    ∃ statement ∈ bind.body.flatten, name ∈ statement.uses

end BindConstructor

/-! ## Statements in a scope -/

/-- Whether statements use only variables that are in scope, and declare only such as are not. -/
inductive AreScoped : List String → List BindStatement → Prop where
  | nil (scope : List String) : AreScoped scope []
  | cons {scope : List String} {statement : BindStatement} {rest : List BindStatement}
      (inScope : ∀ name ∈ statement.uses, name ∈ scope)
      (fresh : ∀ name, statement.declares? = some name → name ∉ scope)
      (later : AreScoped (scope ++ statement.declares?.toList) rest) :
      AreScoped scope (statement :: rest)

namespace AreScoped

variable {scope : List String} {first second : List BindStatement} {statement : BindStatement}

theorem append (front : AreScoped scope first)
    (back : AreScoped (scope ++ first.filterMap BindStatement.declares?) second) :
    AreScoped scope (first ++ second) := by
  induction front with
  | nil scope => simpa using back
  | @cons scope statement rest inScope fresh _ ih =>
      refine .cons inScope fresh (ih ?_)
      rw [List.append_assoc]
      cases declares : statement.declares? with
      | none => simpa [List.filterMap_cons, declares] using back
      | some name => simpa [List.filterMap_cons, declares] using back

/-- Statements that declare nothing are in the scope that they start with. -/
theorem of_forall (quiet : ∀ statement ∈ first, statement.declares? = none)
    (inScope : ∀ statement ∈ first, ∀ name ∈ statement.uses, name ∈ scope) :
    AreScoped scope first := by
  induction first with
  | nil => exact .nil scope
  | cons statement rest ih =>
      obtain ⟨quietHere, quietLater⟩ := List.forall_mem_cons.1 quiet
      obtain ⟨here, later⟩ := List.forall_mem_cons.1 inScope
      refine .cons here (by simp [quietHere]) ?_
      simpa [quietHere] using ih quietLater later

/-- A single declaration that comes in front of other statements, or does not. -/
theorem declare {needed : Bool} (inScope : ∀ name ∈ statement.uses, name ∈ scope)
    (fresh : ∀ name, statement.declares? = some name → name ∉ scope) :
    AreScoped scope (if needed then [statement] else []) := by
  cases needed with
  | false => exact .nil scope
  | true => exact .cons inScope fresh (.nil _)

/-- Statements that declare nothing leave the scope of those after them as it is. -/
theorem append_quiet (quiet : ∀ statement ∈ first, statement.declares? = none)
    (front : AreScoped scope first) (back : AreScoped scope second) :
    AreScoped scope (first ++ second) := by
  refine front.append ?_
  rwa [List.filterMap_eq_nil_iff.2 quiet, List.append_nil]

/-- Variables stay distinct when statements declare only fresh ones. -/
theorem nodup (areScoped : AreScoped scope first) (distinct : scope.Nodup) :
    (scope ++ first.filterMap BindStatement.declares?).Nodup := by
  induction areScoped with
  | nil scope => simpa using distinct
  | @cons scope statement rest _ fresh _ ih =>
      cases declares : statement.declares? with
      | none => simpa [List.filterMap_cons, declares] using ih (by simpa [declares] using distinct)
      | some name =>
          have extended : (scope ++ [name]).Nodup :=
            List.nodup_append'.2 ⟨distinct, List.nodup_singleton name,
              List.disjoint_singleton.2 (fresh name declares)⟩
          simpa [List.filterMap_cons, declares] using ih (by simpa [declares] using extended)

/-- What a statement uses is in scope after the statements before it. -/
theorem mem_of_mem_uses (areScoped : AreScoped scope (first ++ statement :: second)) {name : String}
    (used : name ∈ statement.uses) :
    name ∈ scope ++ first.filterMap BindStatement.declares? := by
  induction first generalizing scope with
  | nil =>
      cases areScoped with
      | cons inScope _ _ => simpa using inScope name used
  | cons earlier rest ih =>
      cases areScoped with
      | cons _ _ later =>
          have inScope := ih later
          cases declares : earlier.declares? with
          | none => simpa [List.filterMap_cons, declares] using inScope
          | some other => simpa [List.filterMap_cons, declares] using inScope

end AreScoped

namespace BindConstructor

variable {bind : BindConstructor}

/-- A constructor is in scope when its statements are, from its parameters on. -/
theorem IsScoped.of_areScoped
    (areScoped : AreScoped ["target", bind.parameter.name] bind.body.flatten)
    (used : ∀ name ∈ ["view", "res"], name ∈ bind.variablesAfter bind.body.flatten →
      ∃ statement ∈ bind.body.flatten, name ∈ statement.uses) : bind.IsScoped := by
  have parameters : ["target", bind.parameter.name].Nodup := by
    rw [parameter, Parameter.ofView]
    cases bind.takesView <;> decide
  have distinct := areScoped.nodup parameters
  refine ⟨distinct, ?_, used⟩
  intro before statement after body_eq name isUsed
  rw [body_eq] at areScoped distinct
  rw [List.filterMap_append, ← List.append_assoc] at distinct
  exact List.nodup_iff_count_eq_one.1 (List.nodup_append.1 distinct).1 name
    (areScoped.mem_of_mem_uses isUsed)

end BindConstructor

namespace Generation

variable {debuggable : Bool} {group : ViewGroup} {options : Options} {target : LinkedTarget}

theorem mem_uses_lookup_iff {lookup : Lookup} {name : String} :
    name ∈ lookup.uses ↔ name = "source" := by
  cases lookup <;> exact List.mem_singleton

/-- The parent is constructed with the second parameter alone. -/
theorem uses_superArgument {takesView : Bool} {parent : ParentLink}
    (propagated : parent.needsView = true → takesView = true) :
    (superArgument takesView parent).uses = [(Parameter.ofView takesView).name] := by
  unfold superArgument
  cases needsView : parent.needsView with
  | true => simp [propagated needsView, SuperArgument.uses, Parameter.ofView]
  | false => cases takesView <;> rfl

theorem uses_valueAt (debuggable : Bool) (place : ViewPlace) (field : FieldBinding) :
    (valueAt debuggable place field).uses = [place.write] := by
  unfold valueAt
  repeat' split
  all_goals rfl

/-- A resource is loaded through the resources of the context or through the context itself, as the
target tells. -/
theorem uses_resourceValue (minSdk : Nat) (id : ResourceId) (kind : ResourceKind) :
    (resourceValue minSdk id kind).uses =
      [if kind.needsResources minSdk then "res" else "context"] := by
  have ofContext (level : Nat) (method : String) :
      (contextValue minSdk level method id).uses = ["context"] := by
    unfold contextValue
    split <;> rfl
  cases kind with
  | typeface style =>
      simp only [resourceValue, ResourceKind.needsResources, decide_eq_true_eq]
      by_cases given : ResourceKind.resourcesFontLevel ≤ minSdk
      · rw [if_pos given, if_pos given]
        split <;> rfl
      · rw [if_neg given, if_neg given]
        split <;> rfl
  | drawable tint =>
      cases tint with
      | none => exact ofContext ..
      | some tint => rfl
  | color => exact ofContext ..
  | colorStateList => exact ofContext ..
  | _ => rfl

/-- The members of a group use the place that the view of the group is at. -/
theorem uses_of_mem_memberSteps {attached : Option AttachBlock}
    (attaches : Attached debuggable group attached) {step : GroupStep}
    (listed : step ∈ memberSteps debuggable group attached) :
    step.uses = [(placeOf group).write] := by
  rcases List.mem_append.1 listed with assigned | attached
  · obtain ⟨field, -, rfl⟩ := List.mem_map.1 assigned
    exact uses_valueAt ..
  · cases attaches with
    | none => cases attached
    | some _ made =>
        obtain rfl := List.mem_singleton.1 attached
        rw [GroupStep.uses, place_of_attachBlock made]

/-- The steps for a group use the view that is given, and the one that was found only if the group
needs a variable for it. -/
theorem uses_of_mem_groupSteps {steps : List GroupStep}
    (made : groupSteps debuggable group = .ok steps) {step : GroupStep} (listed : step ∈ steps)
    {name : String} (used : name ∈ step.uses) :
    name = "source" ∨ name = "view" ∧ group.needsLocal = true := by
  cases groupSteps_of_made made with
  | alone =>
      obtain rfl := List.mem_singleton.1 listed
      exact .inl (mem_uses_lookup_iff.1 used)
  | given _ root attaches =>
      rw [uses_of_mem_memberSteps attaches listed] at used
      exact .inl (by simpa [placeOf, root, ViewPlace.write] using used)
  | found several notRoot attaches =>
      have needsLocal : group.needsLocal = true := by simp [ViewGroup.needsLocal, several, notRoot]
      rcases List.mem_cons.1 listed with rfl | ofMember
      · rcases List.mem_cons.1 used with rfl | searched
        · exact .inr ⟨rfl, needsLocal⟩
        · exact .inl (mem_uses_lookup_iff.1 searched)
      · rw [uses_of_mem_memberSteps attaches ofMember] at used
        exact .inr ⟨by simpa [placeOf, notRoot, ViewPlace.write] using used, needsLocal⟩

/-- A group that needs a variable for its view keeps what it finds in it. -/
theorem exists_uses_view {steps : List GroupStep} (made : groupSteps debuggable group = .ok steps)
    (needsLocal : group.needsLocal = true) : ∃ step ∈ steps, "view" ∈ step.uses := by
  obtain ⟨notRoot, several⟩ : group.isRoot = false ∧ group.isSingleField = false := by
    simpa [ViewGroup.needsLocal] using needsLocal
  cases groupSteps_of_made made with
  | alone bound silent => simp [ViewGroup.isSingleField, bound, silent] at several
  | given _ root => exact absurd root (by simp [notRoot])
  | found => exact ⟨_, List.mem_cons_self, List.mem_cons_self⟩

/-- Groups and collections declare nothing. -/
theorem declares?_of_mem_views {groups : List (List BindStatement)}
    (made : AreOfGroups debuggable target.groups groups) {statement : BindStatement}
    (listed : statement ∈ groups.flatten ++
      target.collections.map (collectionStatement debuggable)) : statement.declares? = none := by
  rcases List.mem_append.1 listed with grouped | collected
  · obtain ⟨group, -, steps, step, -, -, rfl⟩ := exists_step_of_mem_groups made grouped
    rfl
  · obtain ⟨collection, -, rfl⟩ := List.mem_map.1 collected
    rfl

/-- Groups and collections use the view that is given, and the variable for views only if some group
needs it. -/
theorem areScoped_views {scope : List String} {groups : List (List BindStatement)}
    (made : AreOfGroups options.debuggable target.groups groups)
    (given : target.bindsViews = true → "source" ∈ scope)
    (found : target.needsViewLocal = true → "view" ∈ scope) :
    AreScoped scope (groups.flatten ++
      target.collections.map (collectionStatement options.debuggable)) := by
  refine .of_forall (fun statement listed => declares?_of_mem_views made listed) ?_
  intro statement listed name used
  rcases List.mem_append.1 listed with grouped | collected
  · obtain ⟨group, origin, steps, step, stepsMade, stepListed, rfl⟩ :=
      exists_step_of_mem_groups made grouped
    rcases uses_of_mem_groupSteps stepsMade stepListed used with rfl | ⟨rfl, needsLocal⟩
    · exact given (by simp [Target.bindsViews, List.ne_nil_of_mem origin])
    · exact found (List.any_eq_true.2 ⟨group, origin, needsLocal⟩)
  · obtain ⟨collection, origin, rfl⟩ := List.mem_map.1 collected
    obtain ⟨lookup, -, used⟩ := List.mem_flatMap.1 used
    obtain rfl := mem_uses_lookup_iff.1 used
    exact given (by simp [Target.bindsViews, List.ne_nil_of_mem origin])

/-- Resources are loaded through the context, which is taken from the view unless it is given, and
through its resources, which are kept in a variable if some resource needs them. -/
theorem areScoped_resourceParagraph {scope : List String}
    (parameter : (Parameter.ofView target.needsView).name ∈ scope)
    (freshContext : target.needsView = true → "context" ∉ scope) (freshResources : "res" ∉ scope) :
    AreScoped scope (resourceParagraph options target) := by
  have context : "context" ∈ scope ++ (if target.needsView then [BindStatement.declareContext]
      else []).filterMap BindStatement.declares? := by
    cases needsView : target.needsView with
    | true => simp [BindStatement.declares?]
    | false => simpa [needsView, Parameter.ofView] using parameter
  have notYet : "res" ∉ scope ++ (if target.needsView then [BindStatement.declareContext]
      else []).filterMap BindStatement.declares? := by
    cases target.needsView <;> simp [BindStatement.declares?, freshResources]
  unfold resourceParagraph
  rw [List.append_assoc]
  refine .append ?_ (.append ?_ (.of_forall ?_ ?_))
  · cases needsView : target.needsView with
    | false => exact .nil scope
    | true =>
        refine .cons ?_ ?_ (.nil _)
        · simpa [BindStatement.uses, needsView, Parameter.ofView] using parameter
        · simpa [BindStatement.declares?] using freshContext needsView
  · exact .declare (by simpa [BindStatement.uses] using context)
      (by simpa [BindStatement.declares?] using notYet)
  · intro statement listed
    obtain ⟨resource, -, rfl⟩ := List.mem_map.1 listed
    rfl
  · intro statement listed name used
    obtain ⟨resource, origin, rfl⟩ := List.mem_map.1 listed
    rw [resourceStatement, BindStatement.uses, uses_resourceValue, List.mem_singleton] at used
    subst used
    by_cases needs : resource.kind.needsResources options.minSdk = true
    · have needsResources : target.needsResources options.minSdk = true :=
        List.any_eq_true.2 ⟨resource, origin, needs⟩
      simp [needs, needsResources, BindStatement.declares?]
    · rw [if_neg needs]
      exact List.mem_append_left _ context

/-- The variables of a constructor that is made for a target are in scope. -/
theorem areScoped_of_bindConstructor {bind : BindConstructor}
    (made : bindConstructor options target = .ok bind) :
    AreScoped ["target", bind.parameter.name] bind.body.flatten := by
  obtain ⟨groups, groupsMade, body_eq⟩ := flatten_of_bindConstructor made
  have needsView_of_bindsViews (bindsViews : target.bindsViews = true) :
      target.needsView = true := by
    simp [LinkedTarget.needsView, bindsViews]
  rw [parameter_of_bindConstructor made, body_eq]
  simp only [List.append_assoc]
  refine .append_quiet ?_ ?_ (.append_quiet ?_ ?_ (.append ?_ ?_))
  · simp [BindStatement.declares?]
  · refine .of_forall (by simp [BindStatement.declares?]) ?_
    intro statement listed name used
    obtain ⟨parent, linked, rfl⟩ := List.mem_map.1 listed
    have propagated (needsView : parent.needsView = true) : target.needsView = true := by
      simp [LinkedTarget.needsView, Option.mem_toList.1 linked, needsView]
    rw [BindStatement.uses, uses_superArgument propagated, List.mem_singleton] at used
    simp [used]
  · split <;> simp [BindStatement.declares?]
  · exact .declare (by simp [BindStatement.uses]) (by simp [BindStatement.declares?])
  · refine .declare (by simp [BindStatement.uses]) ?_
    cases target.needsView <;> simp [BindStatement.declares?, Parameter.ofView]
  · rw [← List.append_assoc]
    refine .append_quiet (fun statement listed => declares?_of_mem_views groupsMade listed)
      (areScoped_views groupsMade ?_ ?_) ?_
    · intro bindsViews
      simp [Parameter.ofView, needsView_of_bindsViews bindsViews]
    · intro needsViewLocal
      simp [needsViewLocal, BindStatement.declares?]
    · by_cases none : target.resources = []
      · rw [if_pos none]
        exact .nil _
      · rw [if_neg none]
        refine areScoped_resourceParagraph (by simp) ?_ ?_
        · intro needsView
          cases target.needsViewLocal <;>
            simp [needsView, Parameter.ofView, BindStatement.declares?]
        · cases target.needsView <;> cases target.needsViewLocal <;>
            simp [Parameter.ofView, BindStatement.declares?]

/-- The variable for views is declared only if some group needs it, and that for resources only if
some resource does. -/
theorem needs_of_declares {bind : BindConstructor}
    (made : bindConstructor options target = .ok bind) :
    (.declareView ∈ bind.body.flatten → target.needsViewLocal = true) ∧
      (.declareResources ∈ bind.body.flatten → target.needsResources options.minSdk = true) := by
  obtain ⟨groups, groupsMade, body_eq⟩ := flatten_of_bindConstructor made
  have quiet {statement : BindStatement} (listed : statement ∈ groups.flatten ++
      target.collections.map (collectionStatement options.debuggable)) :=
    declares?_of_mem_views groupsMade listed
  rw [body_eq]
  simp only [List.append_assoc, List.mem_append, List.mem_map, List.mem_ite_nil_right] at quiet ⊢
  constructor
  · rintro (⟨parent, -, supers⟩ | ⟨-, kept⟩ | ⟨needsViewLocal, -⟩ | grouped | collected | resources)
    · cases supers
    · simp at kept
    · exact needsViewLocal
    · cases quiet (.inl grouped)
    · cases quiet (.inr collected)
    · split at resources
      · cases resources
      · simp [resourceParagraph, resourceStatement] at resources
  · rintro (⟨parent, -, supers⟩ | ⟨-, kept⟩ | ⟨-, found⟩ | grouped | collected | resources)
    · cases supers
    · simp at kept
    · simp at found
    · cases quiet (.inl grouped)
    · cases quiet (.inr collected)
    · split at resources
      · cases resources
      · simpa [resourceParagraph, resourceStatement] using resources

/-- What the variables for views and for resources are needed for is in the constructor. -/
theorem exists_uses_of_needs {bind : BindConstructor}
    (made : bindConstructor options target = .ok bind) :
    (target.needsViewLocal = true → ∃ statement ∈ bind.body.flatten, "view" ∈ statement.uses) ∧
      (target.needsResources options.minSdk = true →
        ∃ statement ∈ bind.body.flatten, "res" ∈ statement.uses) := by
  obtain ⟨groups, groupsMade, body_eq⟩ := flatten_of_bindConstructor made
  rw [body_eq]
  constructor
  · intro needsViewLocal
    obtain ⟨group, origin, needsLocal⟩ := List.any_eq_true.1 needsViewLocal
    obtain ⟨steps, stepsMade, listed⟩ := exists_mem_groups_of_step groupsMade origin
    obtain ⟨step, stepListed, used⟩ := exists_uses_view stepsMade needsLocal
    refine ⟨.group group.id step, ?_, used⟩
    have grouped := listed step stepListed
    simp only [List.mem_append, grouped, or_true, true_or]
  · intro needsResources
    obtain ⟨resource, origin, needs⟩ := List.any_eq_true.1 needsResources
    refine ⟨resourceStatement options.minSdk resource, ?_, ?_⟩
    · rw [if_neg (List.ne_nil_of_mem origin), resourceParagraph]
      exact List.mem_append_right _ (List.mem_append_right _ (List.mem_map_of_mem origin))
    · simp [resourceStatement, BindStatement.uses, uses_resourceValue, needs]

/-- The variables of every constructor that is made are in scope where they are used, and those for
views and for resources are used when they are declared. -/
theorem isScoped_of_ofTarget {code : CompanionCode}
    (made : CompanionCode.ofTarget options target = .ok code) : code.bind.IsScoped := by
  obtain ⟨-, -, bindMade⟩ := bindConstructor_of_ofTarget made
  obtain ⟨viewDeclared, resourcesDeclared⟩ := needs_of_declares bindMade
  obtain ⟨viewNeeded, resourcesNeeded⟩ := exists_uses_of_needs bindMade
  have notParameter : ∀ name ∈ ["view", "res"],
      name ≠ "target" ∧ name ≠ code.bind.parameter.name := by
    rw [BindConstructor.parameter, Parameter.ofView]
    cases code.bind.takesView <;> decide
  refine .of_areScoped (areScoped_of_bindConstructor bindMade) fun name listed declared => ?_
  simp only [BindConstructor.variablesAfter, List.mem_cons, notParameter name listed, false_or,
    List.mem_filterMap] at declared
  obtain ⟨statement, present, declares⟩ := declared
  simp only [List.mem_cons, List.not_mem_nil, or_false] at listed
  rcases listed with rfl | rfl
  · cases statement <;> simp [BindStatement.declares?] at declares
    exact viewNeeded (viewDeclared present)
  · cases statement <;> simp [BindStatement.declares?] at declares
    exact resourcesNeeded (resourcesDeclared present)

/-- Calls that bind two shared views, one of them the bound object itself, a collection, and
resources of both sorts. -/
def pageCalls : List Target.Call :=
  titleCalls ++ [
    .method (.constant ResourceId.rootValue) .onClick (.method "doClick" ["android.view.View"])
      ⟨"tap", [], true, false⟩,
    .resource ⟨.constant 4, "name", .string⟩,
    .resource ⟨.constant 5, "accent", .color⟩]

/-- A target over a companion whose constructor takes a context. -/
def pageTarget : LinkedTarget :=
  ⟨(Target.empty (.classType (.ofOuter "a" "Page")) (companionName "a" ["Page"]) false
    .generic).run pageCalls, some (.classpath (companionName "a" ["Base"]) false)⟩

theorem exists_isScoped_pageTarget :
    ∃ code, CompanionCode.ofTarget .default pageTarget = .ok code ∧ code.bind.IsScoped ∧
      code.bind.superArguments = [.contextOfSource] ∧
      code.bind.variablesAfter code.bind.body.flatten =
        ["target", "source", "view", "context", "res"] := by
  have facts : (CompanionCode.ofTarget .default pageTarget).toOption.map (fun code =>
      (code.bind.superArguments, code.bind.variablesAfter code.bind.body.flatten)) =
        some ([.contextOfSource], ["target", "source", "view", "context", "res"]) := by
    decide +kernel
  obtain ⟨code, made, read⟩ := exists_ok_of_map_toOption facts
  obtain ⟨supers, variables_eq⟩ := Prod.mk.inj read
  exact ⟨code, made, isScoped_of_ofTarget made, supers, variables_eq⟩

end Generation
end Companion
