import Companion.Proofs.Code.Making

/-!
# Blocks of the constructor that binds

The statements of the constructor in one list: what stands before the groups, the statements of the
groups one after the other, and what stands after them.  What is read off a constructor is read off
these parts one by one.

A group has three kinds of steps.  A field that is alone in it is searched.  Otherwise its members
share one view, which is at hand for the bound object itself, and is searched first for any other
id.  The listeners are attached in one block, and none is when there are no listeners.
-/

namespace Companion

/-- The block of listeners that a statement attaches. -/
def BindStatement.attach? : BindStatement → Option AttachBlock
  | .group _ (.attach block) => some block
  | _ => none

/-- The blocks of listeners that a constructor attaches, in order. -/
def BindConstructor.attachBlocks (bind : BindConstructor) : List AttachBlock :=
  bind.body.flatten.filterMap BindStatement.attach?

namespace Generation

variable {debuggable : Bool} {group : ViewGroup}

/-- The steps that bind the members of a group to a view at hand: its field is assigned, and a block
of listeners is attached. -/
def memberSteps (debuggable : Bool) (group : ViewGroup) (attached : Option AttachBlock) :
    List GroupStep :=
  (group.field.toList.map fun field =>
    .assign field.name (valueAt debuggable (placeOf group) field)) ++ attached.toList.map .attach

/-- The block that the listeners of a group are attached in.  Without listeners there is none. -/
inductive Attached (debuggable : Bool) (group : ViewGroup) : Option AttachBlock → Prop where
  | none (silent : group.listeners = []) : Attached debuggable group none
  | some {block : AttachBlock} (listening : group.listeners ≠ [])
      (made : attachBlock debuggable group = .ok block) : Attached debuggable group (some block)

/-- The steps that a group is bound by. -/
inductive GroupSteps (debuggable : Bool) (group : ViewGroup) : List GroupStep → Prop where
  /-- A field that is alone in its group is searched, whatever its id. -/
  | alone {field : FieldBinding} (bound : group.field = some field)
      (silent : group.listeners = []) :
      GroupSteps debuggable group [.assign field.name (.search
        (searchFor debuggable field.required field.type field.description group.id))]
  /-- The bound object itself is at hand. -/
  | given {attached : Option AttachBlock} (several : group.isSingleField = false)
      (root : group.isRoot = true) (attaches : Attached debuggable group attached) :
      GroupSteps debuggable group (memberSteps debuggable group attached)
  /-- Any other view is searched before the members are bound to it. -/
  | found {attached : Option AttachBlock} (several : group.isSingleField = false)
      (notRoot : group.isRoot = false) (attaches : Attached debuggable group attached) :
      GroupSteps debuggable group
        (.find (groupLookup debuggable group) :: memberSteps debuggable group attached)

/-- Members that are not a single field are bound to the view of their group, which is searched
unless it is the bound object itself. -/
theorem GroupSteps.shared {attached : Option AttachBlock} (several : group.isSingleField = false)
    (attaches : Attached debuggable group attached) :
    GroupSteps debuggable group ((if group.isRoot then [] else
      [.find (groupLookup debuggable group)]) ++ memberSteps debuggable group attached) := by
  cases root : group.isRoot with
  | true => exact .given several root attaches
  | false => exact .found several root attaches

theorem groupSteps_of_made {steps : List GroupStep}
    (made : groupSteps debuggable group = .ok steps) : GroupSteps debuggable group steps := by
  unfold groupSteps at made
  split at made
  · rename_i field bound silent
    cases made
    exact .alone bound silent
  · rename_i notAlone
    have several : group.isSingleField = false := by
      cases bound : group.field with
      | none => simp [ViewGroup.isSingleField, bound]
      | some field =>
          have listening : group.listeners ≠ [] := notAlone field bound
          simp [ViewGroup.isSingleField, listening]
    dsimp only at made
    split at made
    · rename_i silent
      cases made
      rw [List.append_assoc]
      exact .shared several (.none silent)
    · rename_i listening
      obtain ⟨block, blockMade, made⟩ := exists_ok_of_bind made
      cases made
      rw [List.append_assoc]
      exact .shared several (.some listening blockMade)

theorem Attached.forall₂ {attached : Option AttachBlock}
    (attaches : Attached debuggable group attached) :
    List.Forall₂ (fun group block => attachBlock debuggable group = .ok block)
      ([group].filter fun group => group.listeners ≠ []) attached.toList := by
  cases attaches with
  | none silent => simp [silent]
  | some listening made => simpa [listening] using made

/-- The steps for a group: it is searched unless it is bound to the object itself, its field is
assigned, and its listeners are attached. -/
theorem steps_of_groupSteps {steps : List GroupStep}
    (made : groupSteps debuggable group = .ok steps) :
    ∃ (find : List Lookup) (assign : List (String × ViewValue)) (attach : List AttachBlock),
      steps = find.map .find ++ assign.map (fun step => .assign step.1 step.2) ++
        attach.map .attach ∧
      assign.map Prod.fst = group.field.toList.map FieldBinding.name ∧
      List.Forall₂ (fun group block => attachBlock debuggable group = .ok block)
        ([group].filter fun group => group.listeners ≠ []) attach := by
  have members (attached : Option AttachBlock) : memberSteps debuggable group attached =
      (group.field.toList.map fun field =>
        (field.name, valueAt debuggable (placeOf group) field)).map
          (fun step => .assign step.1 step.2) ++ attached.toList.map .attach := by
    rw [List.map_map]
    rfl
  cases groupSteps_of_made made with
  | @alone field bound silent =>
      exact ⟨[], [(field.name, _)], [], rfl, by simp [bound], (Attached.none silent).forall₂⟩
  | given _ _ attaches =>
      exact ⟨[], _, _, members _, by simp [Function.comp_def], attaches.forall₂⟩
  | found _ _ attaches =>
      exact ⟨[groupLookup debuggable group], _, _, congrArg _ (members _),
        by simp [Function.comp_def], attaches.forall₂⟩

/-- All statements of a constructor. -/
theorem flatten_of_bindConstructor {options : Options} {target : LinkedTarget}
    {bind : BindConstructor} (made : bindConstructor options target = .ok bind) :
    ∃ groups, List.Forall₂ (fun group statements =>
        groupStatements options.debuggable group = .ok statements) target.groups groups ∧
      bind.body.flatten =
        (target.parent.toList.map fun parent =>
          BindStatement.callSuper (superArgument target.needsView parent)) ++
        (if target.keepsTarget then [.keepTarget] else []) ++
        (if target.needsViewLocal then [.declareView] else []) ++ groups.flatten ++
        target.collections.map (collectionStatement options.debuggable) ++
        (if target.resources = [] then [] else resourceParagraph options target) := by
  obtain ⟨body, bodyMade, made⟩ := exists_ok_of_bind made
  cases made
  obtain ⟨views, viewsMade, bodyMade⟩ := exists_ok_of_bind bodyMade
  cases bodyMade
  obtain ⟨groups, groupsMade, viewsMade⟩ := exists_ok_of_bind viewsMade
  cases viewsMade
  refine ⟨groups, forall₂_of_mapM groupsMade, ?_⟩
  have supers : ((target.parent.toList.map fun parent =>
      [BindStatement.callSuper (superArgument target.needsView parent)]).flatten) =
      target.parent.toList.map fun parent =>
        BindStatement.callSuper (superArgument target.needsView parent) := by
    cases target.parent <;> rfl
  cases bindsViews : target.bindsViews with
  | true =>
      simp only [List.flatten_append, supers, if_true, List.append_assoc, List.flatten_cons,
        List.flatten_nil, List.nil_append]
      cases target.keepsTarget <;> by_cases none : target.resources = [] <;> simp [none]
  | false =>
      -- without views there are no groups, and what would stand for them is empty as well
      obtain ⟨noGroups, noCollections⟩ : target.groups = [] ∧ target.collections = [] := by
        simpa [Target.bindsViews] using bindsViews
      rw [noGroups] at groupsMade
      cases groupsMade
      simp only [List.flatten_append, supers, Bool.false_eq_true, if_false, noCollections,
        Target.needsViewLocal, noGroups]
      cases target.keepsTarget <;> by_cases none : target.resources = [] <;> simp [none]

/-- Whether statements are those of some groups, one after the other. -/
abbrev AreOfGroups (debuggable : Bool) (origins : List ViewGroup)
    (groups : List (List BindStatement)) : Prop :=
  List.Forall₂ (fun group statements => groupStatements debuggable group = .ok statements) origins
    groups

section

variable {origins : List ViewGroup} {groups : List (List BindStatement)}

/-- A statement of some groups does a step for one of them. -/
theorem exists_step_of_mem_groups (made : AreOfGroups debuggable origins groups)
    {statement : BindStatement} (listed : statement ∈ groups.flatten) :
    ∃ group ∈ origins, ∃ steps step, groupSteps debuggable group = .ok steps ∧ step ∈ steps ∧
      statement = .group group.id step := by
  obtain ⟨statements, block, listed⟩ := List.mem_flatten.1 listed
  obtain ⟨group, origin, groupMade⟩ := exists_mem_left_of_forall₂ made block
  obtain ⟨steps, stepsMade, groupMade⟩ := exists_ok_of_bind groupMade
  cases groupMade
  obtain ⟨step, stepListed, rfl⟩ := List.mem_map.1 listed
  exact ⟨group, origin, steps, step, stepsMade, stepListed, rfl⟩

theorem exists_mem_groups_of_step (made : AreOfGroups debuggable origins groups)
    {group : ViewGroup} (origin : group ∈ origins) :
    ∃ steps, groupSteps debuggable group = .ok steps ∧
      ∀ step ∈ steps, .group group.id step ∈ groups.flatten := by
  obtain ⟨statements, block, groupMade⟩ := exists_mem_right_of_forall₂ made origin
  obtain ⟨steps, stepsMade, groupMade⟩ := exists_ok_of_bind groupMade
  cases groupMade
  exact ⟨steps, stepsMade, fun step listed =>
    List.mem_flatten.2 ⟨_, block, List.mem_map.2 ⟨step, listed, rfl⟩⟩⟩

/-- Nothing is read off groups when nothing is read off a step. -/
theorem filterMap_groups_eq_nil {α : Type} (made : AreOfGroups debuggable origins groups)
    {read : BindStatement → Option α} (quiet : ∀ id step, read (.group id step) = none) :
    groups.flatten.filterMap read = [] := by
  refine List.filterMap_eq_nil_iff.2 fun statement listed => ?_
  obtain ⟨group, -, -, step, -, -, rfl⟩ := exists_step_of_mem_groups made listed
  exact quiet group.id step

end

section

variable {α : Type} {options : Options} {target : LinkedTarget} {bind : BindConstructor}

/-- What is read off a constructor, part by part, when declarations of variables do not matter. -/
theorem exists_flatMap_eq_of_bindConstructor (made : bindConstructor options target = .ok bind)
    (read : BindStatement → List α)
    (aside : ∀ statement ∈ [.declareView, .declareContext, .declareResources],
      read statement = []) :
    ∃ groups, AreOfGroups options.debuggable target.groups groups ∧
      bind.body.flatten.flatMap read =
        (target.parent.toList.flatMap fun parent =>
          read (.callSuper (superArgument target.needsView parent))) ++
        (if target.keepsTarget then read .keepTarget else []) ++
        groups.flatten.flatMap read ++
        (target.collections.flatMap fun collection =>
          read (collectionStatement options.debuggable collection)) ++
        target.resources.flatMap fun resource =>
          read (resourceStatement options.minSdk resource) := by
  obtain ⟨groups, groupsMade, body_eq⟩ := flatten_of_bindConstructor made
  refine ⟨groups, groupsMade, ?_⟩
  have needed (condition : Bool) (statement : BindStatement) :
      (if condition then [statement] else []).flatMap read =
        if condition then read statement else [] := by
    cases condition <;> simp
  have resources : (if target.resources = [] then [] else
      resourceParagraph options target).flatMap read =
        target.resources.flatMap fun resource =>
          read (resourceStatement options.minSdk resource) := by
    split
    · rename_i none
      simp [none]
    · rw [resourceParagraph, List.flatMap_append, List.flatMap_append, List.flatMap_map, needed,
        needed, aside .declareContext (by simp), aside .declareResources (by simp), ite_self,
        ite_self]
      rfl
  rw [body_eq]
  simp only [List.flatMap_append, List.flatMap_map, resources, needed, ite_self, List.append_nil,
    aside .declareView (by simp)]

/-- What is read off a constructor, part by part, when nothing is read off the variables and the
kept target, and at most one result off any other statement. -/
theorem exists_filterMap_eq_of_bindConstructor (made : bindConstructor options target = .ok bind)
    (read : BindStatement → Option α)
    (aside : ∀ statement ∈ [.keepTarget, .declareView, .declareContext, .declareResources],
      read statement = none) :
    ∃ groups, AreOfGroups options.debuggable target.groups groups ∧
      bind.body.flatten.filterMap read =
        (target.parent.toList.filterMap fun parent =>
          read (.callSuper (superArgument target.needsView parent))) ++
        groups.flatten.filterMap read ++
        (target.collections.filterMap fun collection =>
          read (collectionStatement options.debuggable collection)) ++
        target.resources.filterMap fun resource =>
          read (resourceStatement options.minSdk resource) := by
  simpa only [List.filterMap_eq_flatMap_toList, aside .keepTarget List.mem_cons_self,
    Option.toList_none, ite_self, List.append_nil] using
    exists_flatMap_eq_of_bindConstructor made (fun statement => (read statement).toList)
      fun statement listed => by rw [aside statement (List.mem_cons_of_mem _ listed),
        Option.toList_none]

end

theorem attachBlocks_of_groupStatements {statements : List BindStatement}
    (made : groupStatements debuggable group = .ok statements) :
    List.Forall₂ (fun group block => attachBlock debuggable group = .ok block)
      ([group].filter fun group => group.listeners ≠ [])
      (statements.filterMap BindStatement.attach?) := by
  obtain ⟨steps, stepsMade, made⟩ := exists_ok_of_bind made
  cases made
  obtain ⟨find, assign, attach, rfl, -, attached⟩ := steps_of_groupSteps stepsMade
  simpa [List.filterMap_map, Function.comp_def, BindStatement.attach?] using attached

theorem attachBlocks_of_groups {groups : List ViewGroup} {statements : List (List BindStatement)}
    (made : List.Forall₂ (fun group statements => groupStatements debuggable group = .ok statements)
      groups statements) :
    List.Forall₂ (fun group block => attachBlock debuggable group = .ok block)
      (groups.filter fun group => group.listeners ≠ [])
      (statements.flatten.filterMap BindStatement.attach?) := by
  induction made with
  | nil => exact .nil
  | cons groupMade _ ih =>
      rw [List.flatten_cons, List.filterMap_append, ← List.singleton_append, List.filter_append]
      exact List.rel_append (attachBlocks_of_groupStatements groupMade) ih

/-- The groups with listeners, and only these, attach them, each in a block of its own. -/
theorem attachBlocks_of_bindConstructor {options : Options} {target : LinkedTarget}
    {bind : BindConstructor} (made : bindConstructor options target = .ok bind) :
    List.Forall₂ (fun group block => attachBlock options.debuggable group = .ok block)
      (listenerGroups target.toTarget) bind.attachBlocks := by
  obtain ⟨groups, groupsMade, blocks_eq⟩ :=
    exists_filterMap_eq_of_bindConstructor made BindStatement.attach? (by
      simp [BindStatement.attach?])
  have blocks : bind.attachBlocks = groups.flatten.filterMap BindStatement.attach? := by
    rw [BindConstructor.attachBlocks, blocks_eq]
    simp [BindStatement.attach?, collectionStatement, resourceStatement]
  rw [blocks]
  exact attachBlocks_of_groups groupsMade

end Generation
end Companion
