import Companion.Proofs.Code.Blocks
import Companion.Proofs.Code.Constructors
import Companion.Proofs.Target.History

/-!
# Searches of the constructor that binds

All bindings of one id share one view.  Whether a field stands alone or the view has to be kept for
several bindings, the constructor searches it once, and the search fails for a missing view exactly
when some binding needs it.  A collection searches one view for each of its ids.
-/

namespace Companion

namespace ViewGroup

/-- What a group binds to its view: a field or a method. -/
structure Member where
  /-- The member in words. -/
  description : String
  /-- Whether the view must be found. -/
  required : Bool

/-- The members of a group: the field, and the methods of each callback of each listener. -/
def members (group : ViewGroup) : List Member :=
  (group.field.toList.map fun field => ⟨field.description, field.required⟩) ++
    group.listeners.flatMap fun listener => listener.callbacks.flatMap fun bound =>
      bound.methods.map fun method => ⟨method.description, method.required⟩

/-- The required members of a group in words. -/
def requirements (group : ViewGroup) : List String :=
  (group.members.filter Member.required).map Member.description

theorem requiredDescriptions_eq (group : ViewGroup) :
    group.requiredDescriptions = group.requirements := by
  unfold requiredDescriptions requirements members methods
  cases group.field with
  | none => simp [List.filter_flatMap, List.map_flatMap, List.filter_map, Function.comp_def]
  | some field =>
      cases required : field.required <;>
        simp [required, Option.filter, List.filter_flatMap, List.map_flatMap, List.filter_map,
          Function.comp_def]

end ViewGroup

namespace Lookup

/-- The id whose view is searched. -/
def id : Lookup → ResourceId
  | .plain _ id => id
  | .described _ id _ _ => id

end Lookup

/-- Where a value takes a view at hand from. -/
def ViewValue.place? : ViewValue → Option ViewPlace
  | .search _ => none
  | .place here => some here
  | .checked here _ _ => some here
  | .cast here _ => some here

namespace GroupStep

/-- The searches that a step does. -/
def lookups : GroupStep → List Lookup
  | .find lookup => [lookup]
  | .assign _ (.search lookup) => [lookup]
  | .assign _ _ | .attach _ => []

/-- Where a step takes a view at hand from. -/
def place? : GroupStep → Option ViewPlace
  | .find _ => none
  | .assign _ value => value.place?
  | .attach block => some block.place

end GroupStep

namespace BindStatement

/-- The step of a statement that binds the view of an id. -/
def stepFor? (id : ResourceId) : BindStatement → Option GroupStep
  | .group other step => if other.same id then some step else none
  | _ => none

end BindStatement

namespace Generation

variable {debuggable : Bool} {group : ViewGroup}

section

variable (debuggable required : Bool) (type : CodeType) (description : String) (id : ResourceId)

theorem id_searchFor : (searchFor debuggable required type description id).id = id := by
  simp only [searchFor]
  split <;> rfl

end

theorem place?_valueAt (debuggable : Bool) (place : ViewPlace) (field : FieldBinding) :
    (valueAt debuggable place field).place? = some place := by
  unfold valueAt
  repeat' split
  all_goals rfl

theorem lookups_assign_valueAt (debuggable : Bool) (place : ViewPlace) (field : FieldBinding) :
    (GroupStep.assign field.name (valueAt debuggable place field)).lookups = [] := by
  unfold valueAt
  repeat' split
  all_goals rfl

theorem place_of_attachBlock {block : AttachBlock}
    (made : attachBlock debuggable group = .ok block) : block.place = placeOf group := by
  obtain ⟨attachments, -, made⟩ := exists_ok_of_bind made
  cases made
  rfl

/-- The members of a group search nothing, and take the view from the place of their group. -/
theorem takes_of_mem_memberSteps {attached : Option AttachBlock}
    (attaches : Attached debuggable group attached) :
    ∀ step ∈ memberSteps debuggable group attached,
      step.lookups = [] ∧ step.place? = some (placeOf group) := by
  intro step listed
  rcases List.mem_append.1 listed with assigned | attached
  · obtain ⟨field, -, rfl⟩ := List.mem_map.1 assigned
    exact ⟨lookups_assign_valueAt .., place?_valueAt ..⟩
  · cases attaches with
    | none => cases attached
    | some _ made =>
        obtain rfl := List.mem_singleton.1 attached
        exact ⟨rfl, congrArg some (place_of_attachBlock made)⟩

/-- The statements of groups with other ids do nothing for the view of an id. -/
theorem stepFor?_of_mem_groups {origins : List ViewGroup} {groups : List (List BindStatement)}
    (made : AreOfGroups debuggable origins groups) {id : ResourceId}
    (apart : ∀ group ∈ origins, group.id.same id = false) :
    ∀ statement ∈ groups.flatten, statement.stepFor? id = none := by
  intro statement listed
  obtain ⟨group, origin, -, step, -, -, rfl⟩ := exists_step_of_mem_groups made listed
  simp [BindStatement.stepFor?, apart group origin]

/-- Among groups with distinct ids, the steps of one stand together, and no others are for its
id. -/
theorem exists_split_of_groups {origins : List ViewGroup} {groups : List (List BindStatement)}
    (made : AreOfGroups debuggable origins groups)
    (distinct : (origins.map ViewGroup.id).Pairwise fun id other => id.same other = false)
    (origin : group ∈ origins) :
    ∃ before steps after, groupSteps debuggable group = .ok steps ∧
      groups.flatten = before ++ steps.map (.group group.id) ++ after ∧
      ∀ statement ∈ before ++ after, statement.stepFor? group.id = none := by
  induction made with
  | nil => cases origin
  | @cons first statements rest later firstMade laterMade ih =>
      rw [List.map_cons, List.pairwise_cons] at distinct
      obtain ⟨apart, distinct⟩ := distinct
      rcases List.mem_cons.1 origin with rfl | listed
      · have laterAside := stepFor?_of_mem_groups laterMade fun other listed =>
          (other.id.same_comm group.id).trans (apart other.id (List.mem_map_of_mem listed))
        obtain ⟨steps, stepsMade, firstMade⟩ := exists_ok_of_bind firstMade
        cases firstMade
        exact ⟨[], steps, later.flatten, stepsMade, rfl, laterAside⟩
      · have firstAside := stepFor?_of_mem_groups (.cons firstMade .nil)
          (by simpa using apart group.id (List.mem_map_of_mem listed))
        obtain ⟨before, steps, after, stepsMade, later_eq, aside⟩ := ih distinct listed
        refine ⟨statements ++ before, steps, after, stepsMade, by simp [later_eq], ?_⟩
        rw [List.append_assoc]
        exact List.forall_mem_append.2 ⟨by simpa using firstAside, aside⟩

/-- The statements of groups stand together, and no statement around them is one of a group. -/
theorem exists_flatten_eq_of_bindConstructor {options : Options} {target : LinkedTarget}
    {bind : BindConstructor} (made : bindConstructor options target = .ok bind) :
    ∃ before groups after, AreOfGroups options.debuggable target.groups groups ∧
      bind.body.flatten = before ++ groups.flatten ++ after ∧
      (∀ statement ∈ before, ∀ id, statement.stepFor? id = none) ∧
      ∀ statement ∈ after, ∀ id, statement.stepFor? id = none := by
  obtain ⟨groups, groupsMade, body_eq⟩ := flatten_of_bindConstructor made
  refine ⟨_, groups, _, groupsMade, body_eq.trans (List.append_assoc ..), ?_, ?_⟩
  · intro statement listed id
    simp only [List.mem_append, List.mem_map, List.mem_ite_nil_right, List.mem_singleton] at listed
    rcases listed with (⟨parent, -, rfl⟩ | ⟨-, rfl⟩) | ⟨-, rfl⟩ <;> rfl
  · intro statement listed id
    simp only [resourceParagraph, List.mem_append, List.mem_map, List.mem_ite_nil_right,
      List.mem_ite_nil_left, List.mem_singleton] at listed
    rcases listed with ⟨collection, -, rfl⟩ | ⟨-, (⟨-, rfl⟩ | ⟨-, rfl⟩) | ⟨resource, -, rfl⟩⟩
    all_goals rfl

/-- In a constructor, too, the steps of a group stand together, and no others are for its id. -/
theorem exists_split_of_bindConstructor {options : Options} {target : LinkedTarget}
    {bind : BindConstructor} (made : bindConstructor options target = .ok bind)
    (distinct : (target.groups.map ViewGroup.id).Pairwise fun id other => id.same other = false)
    (origin : group ∈ target.groups) :
    ∃ before steps after, groupSteps options.debuggable group = .ok steps ∧
      bind.body.flatten = before ++ steps.map (.group group.id) ++ after ∧
      ∀ statement ∈ before ++ after, statement.stepFor? group.id = none := by
  obtain ⟨front, groups, back, groupsMade, body_eq, frontAside, backAside⟩ :=
    exists_flatten_eq_of_bindConstructor made
  obtain ⟨before, steps, after, stepsMade, groups_eq, aside⟩ :=
    exists_split_of_groups groupsMade distinct origin
  refine ⟨front ++ before, steps, after ++ back, stepsMade, by simp [body_eq, groups_eq], ?_⟩
  intro statement listed
  simp only [List.mem_append] at aside listed
  rcases listed with (inFront | listed) | listed | inBack
  · exact frontAside statement inFront group.id
  · exact aside statement (.inl listed)
  · exact aside statement (.inr listed)
  · exact backAside statement inBack group.id

/-- Calls that bind a view to a required field and a method, and two more to a collection. -/
def titleCalls : List Target.Call :=
  [.field (.constant 1) ⟨"title", .classType (.ofOuter "android.widget" "TextView"), true⟩,
    .method (.constant 1) .onClick (.method "doClick" ["android.view.View"])
      ⟨"press", [], false, false⟩,
    .collection ⟨"rows", .classType Known.view, .list, false, [.constant 2, .constant 3]⟩]

end Generation
end Companion
