import Companion.Proofs.Code.Blocks
import Companion.Proofs.Code.Lookups

/-!
# Bindings of the bound object itself

One id stands for the bound object itself, whose view is the one that the constructor is given.  So
a group of that id with listeners takes its view from there, whether it has a field or not.  A field
that is alone in its group is told apart before the id is looked at, and is searched for that id
like for any other.
-/

namespace Companion

/-- The steps of a constructor that bind the view of an id. -/
def BindConstructor.stepsFor (bind : BindConstructor) (id : ResourceId) : List GroupStep :=
  bind.body.flatten.filterMap (BindStatement.stepFor? id)

/-- Whether steps bind the members of a group to the view that the constructor is given, and search
none. -/
structure TakesGiven (group : ViewGroup) (steps : List GroupStep) : Prop where
  /-- The field is assigned. -/
  field : ∀ field, group.field = some field → ∃ value, .assign field.name value ∈ steps
  /-- The listeners are attached. -/
  listeners : group.listeners ≠ [] → ∃ block, .attach block ∈ steps
  /-- Every step uses the view that is given. -/
  given : ∀ step ∈ steps, step.lookups = [] ∧ step.place? = some .source

namespace Generation

variable {debuggable : Bool} {group : ViewGroup}

/-- A field that is alone in its group is searched, whatever its id. -/
theorem exists_search_of_alone {steps : List GroupStep}
    (made : groupSteps debuggable group = .ok steps) {field : FieldBinding}
    (bound : group.field = some field) (alone : group.listeners = []) :
    ∃ lookup, steps = [.assign field.name (.search lookup)] ∧ lookup.id = group.id := by
  have single : group.isSingleField = true := by simp [ViewGroup.isSingleField, bound, alone]
  cases groupSteps_of_made made with
  | alone otherBound =>
      obtain rfl := Option.some.inj (bound.symm.trans otherBound)
      exact ⟨_, rfl, id_searchFor ..⟩
  | given several => exact absurd single (by simp [several])
  | found several => exact absurd single (by simp [several])

/-- The bound object itself is not searched for a group with more than a field. -/
theorem takesGiven_of_groupSteps {steps : List GroupStep}
    (made : groupSteps debuggable group = .ok steps) (root : group.isRoot = true)
    (several : group.isSingleField = false) : TakesGiven group steps := by
  cases groupSteps_of_made made with
  | alone bound silent => simp [ViewGroup.isSingleField, bound, silent] at several
  | found _ notRoot => exact absurd root (by simp [notRoot])
  | given _ _ attaches =>
      have place_eq : placeOf group = .source := if_pos root
      refine ⟨fun field bound => ?_, fun listening => ?_,
        place_eq ▸ takes_of_mem_memberSteps attaches⟩
      · simp [memberSteps, bound]
      · cases attaches with
        | none silent => exact absurd silent listening
        | @some block => exact ⟨block, by simp [memberSteps]⟩

theorem stepFor?_map_group (id other : ResourceId) (steps : List GroupStep) :
    (steps.map (.group other)).filterMap (BindStatement.stepFor? id) =
      if other.same id then steps else [] := by
  rw [List.filterMap_map]
  cases same : other.same id <;>
    simp [Function.comp_def, BindStatement.stepFor?, same]

/-- A constructor binds each view by the steps of its group. -/
theorem groupSteps_of_bindConstructor {options : Options} {target : LinkedTarget}
    {bind : BindConstructor} (made : bindConstructor options target = .ok bind)
    (distinct : (target.groups.map ViewGroup.id).Pairwise fun id other => id.same other = false)
    (origin : group ∈ target.groups) :
    groupSteps options.debuggable group = .ok (bind.stepsFor group.id) := by
  obtain ⟨before, steps, after, stepsMade, body_eq, aside⟩ :=
    exists_split_of_bindConstructor made distinct origin
  obtain ⟨beforeAside, afterAside⟩ := List.forall_mem_append.1 aside
  rw [stepsMade, BindConstructor.stepsFor, body_eq, List.filterMap_append, List.filterMap_append,
    List.filterMap_eq_nil_iff.2 beforeAside, List.filterMap_eq_nil_iff.2 afterAside,
    stepFor?_map_group, if_pos group.id.same_self, List.nil_append, List.append_nil]

/-- In a made target, the bindings of the bound object itself take their view from what the
constructor is given exactly if they are more than a field; a field alone is searched. -/
theorem takesGiven_iff_of_ofTarget (type : CodeType) (companion : ClassName) (isFinal : Bool)
    (category : HostCategory) (calls : List Target.Call) (parent : Option ParentLink)
    (options : Options) {code : CompanionCode}
    (made : CompanionCode.ofTarget options
      ⟨(Target.empty type companion isFinal category).run calls, parent⟩ = .ok code) :
    ∀ group ∈ ((Target.empty type companion isFinal category).run calls).groups,
      group.isRoot = true →
        (TakesGiven group (code.bind.stepsFor group.id) ↔ group.isSingleField = false) ∧
        ∀ field, group.field = some field → group.listeners = [] →
          ∃ lookup, code.bind.stepsFor group.id = [.assign field.name (.search lookup)] ∧
            lookup.id = group.id := by
  intro group origin root
  have records := Target.Records.run calls (.empty type companion isFinal category)
  obtain ⟨-, -, bindMade⟩ := bindConstructor_of_ofTarget made
  have stepsMade := groupSteps_of_bindConstructor bindMade records.distinct origin
  refine ⟨⟨fun takes => ?_, takesGiven_of_groupSteps stepsMade root⟩, fun field bound alone =>
    exists_search_of_alone stepsMade bound alone⟩
  rw [Bool.eq_false_iff]
  intro single
  obtain ⟨isBound, alone⟩ : group.field.isSome = true ∧ group.listeners = [] := by
    simpa [ViewGroup.isSingleField] using single
  obtain ⟨field, bound⟩ := Option.isSome_iff_exists.1 isBound
  obtain ⟨lookup, steps_eq, -⟩ := exists_search_of_alone stepsMade bound alone
  -- the one step is a search, and the given view is taken without any
  have searches := (takes.given (.assign field.name (.search lookup)) (by simp [steps_eq])).1
  cases searches

/-- Calls that bind the bound object itself to a field, and, by a constant of an index, to another
field and a method. -/
def selfCalls : List Target.Call :=
  let constant : ResourceId := .reference ⟨"a", "R", ["id"]⟩ "self" ResourceId.rootValue
  [.field (.constant ResourceId.rootValue) ⟨"self", .classType Known.view, true⟩,
    .field constant ⟨"button", .classType (.ofOuter "android.widget" "Button"), false⟩,
    .method constant .onClick (.method "doClick" ["android.view.View"])
      ⟨"press", [], false, false⟩]

/-- The target that these calls make. -/
def selfTarget : Target :=
  (Target.empty (.classType (.ofOuter "a" "Host")) (companionName "a" ["Host"]) false
    .view).run selfCalls

theorem exists_takesGiven_selfTarget :
    ∃ code, CompanionCode.ofTarget .default ⟨selfTarget, none⟩ = .ok code ∧
      (∃ group ∈ selfTarget.groups, group.isRoot = true ∧ group.isSingleField = false ∧
        TakesGiven group (code.bind.stepsFor group.id)) ∧
      ∃ group ∈ selfTarget.groups, group.isRoot = true ∧ group.isSingleField = true ∧
        ¬ TakesGiven group (code.bind.stepsFor group.id) := by
  obtain ⟨code, made⟩ : ∃ code, CompanionCode.ofTarget .default ⟨selfTarget, none⟩ = .ok code :=
    exists_ok_of_isOk (by decide +kernel)
  have facts := takesGiven_iff_of_ofTarget _ _ _ _ selfCalls none .default made
  obtain ⟨shared, sharedListed, sharedRoot, several⟩ : ∃ group ∈ selfTarget.groups,
      group.isRoot = true ∧ group.isSingleField = false := by
    decide +kernel
  obtain ⟨alone, aloneListed, aloneRoot, single⟩ : ∃ group ∈ selfTarget.groups,
      group.isRoot = true ∧ group.isSingleField = true := by
    decide +kernel
  refine ⟨code, made, ⟨shared, sharedListed, sharedRoot, several, ?_⟩,
    ⟨alone, aloneListed, aloneRoot, single, ?_⟩⟩
  · exact (facts shared sharedListed sharedRoot).1.2 several
  · intro takes
    have several := (facts alone aloneListed aloneRoot).1.1 takes
    rw [single] at several
    cases several

/-- A field that is alone in the group of the bound object is searched. -/
theorem exists_searched_selfTarget :
    ∃ code, CompanionCode.ofTarget .default ⟨selfTarget, none⟩ = .ok code ∧
      ∃ group ∈ selfTarget.groups, group.isRoot = true ∧
        ¬ TakesGiven group (code.bind.stepsFor group.id) := by
  have facts : (CompanionCode.ofTarget .default ⟨selfTarget, none⟩).toOption.map (fun code =>
      (code.bind.stepsFor (.constant ResourceId.rootValue)).flatMap GroupStep.lookups) =
        some [.described true (.constant ResourceId.rootValue) "field 'self'" none] := by
    decide +kernel
  obtain ⟨code, made, searches⟩ := exists_ok_of_map_toOption facts
  obtain ⟨group, listed, id_eq⟩ : ∃ group ∈ selfTarget.groups,
      group.id = .constant ResourceId.rootValue := by
    decide +kernel
  refine ⟨code, made, group, listed, by rw [ViewGroup.isRoot, id_eq]; decide, fun takes => ?_⟩
  rw [id_eq] at takes
  have none :
      (code.bind.stepsFor (.constant ResourceId.rootValue)).flatMap GroupStep.lookups = [] :=
    List.flatMap_eq_nil_iff.2 fun step inSteps => (takes.given step inSteps).1
  rw [none] at searches
  cases searches

end Generation
end Companion
