import Companion.Proofs.Code.Blocks
import Companion.Proofs.Code.Constructors

/-!
# Plain numbers that stand for resources

An id that no index resolves is written as a plain number, and the constructor is marked so that no
warning is given for it.  The mark is decided by the ids of the resources.  A tinted drawable is
loaded with a second one, and a plain number there goes unmarked if it is the only one.
-/

namespace Companion

/-- The ids that a resource is loaded with, argument by argument. -/
def ResourceValue.ids : ResourceValue → List ResourceId
  | .ofResources _ id | .ofContext _ id | .byHelper _ _ id | .bitmap id => [id]
  | .tinted id tint => [id, tint]
  | .styled font _ => font.ids

/-- The resource that a statement assigns. -/
def BindStatement.resource? : BindStatement → Option ResourceValue
  | .assignResource _ value => some value
  | _ => none

namespace BindConstructor

/-- The resources that a constructor assigns, in order. -/
def resources (bind : BindConstructor) : List ResourceValue :=
  bind.body.flatten.filterMap BindStatement.resource?

/-- Whether a plain number stands for some resource. -/
def WritesNumber (bind : BindConstructor) : Prop :=
  ∃ value ∈ bind.resources, ∃ id ∈ value.ids, id.isReference = false

end BindConstructor

/-- Whether plain numbers stand for tints, and for no other resources. -/
structure Target.HasPlainTintsOnly (target : Target) : Prop where
  /-- The resources themselves are written as constants of an index. -/
  resources : ∀ resource ∈ target.resources, resource.id.isReference = true
  /-- The tint of some drawable is not. -/
  tint : ∃ resource ∈ target.resources, ∃ tint, resource.kind = .drawable (some tint) ∧
    tint.isReference = false

namespace CompanionCode

/-- The mark of a constructor in which plain numbers stand for resources. -/
def plainMark : String := "@SuppressWarnings(\"ResourceType\")"

/-- The marks of the constructor that binds, each on a line of its own. -/
def bindMarks (spell : Spelling) (companion : CompanionCode) : List String :=
  s!"@{spell Known.uiThread}" :: (if companion.bind.plainResources then [plainMark] else []) ++
    if companion.bind.touches then
      [s!"@{spell Known.suppressLint}(\"ClickableViewAccessibility\")"]
    else []

/-- The text of the constructor begins with its marks. -/
theorem exists_printBind_eq_marks (spell : Spelling) (companion : CompanionCode)
    (source : SourceText) :
    ∃ header, companion.printBind spell source =
      (((companion.bindMarks spell).foldl SourceText.line source).begin header).body
        (BindStatement.print spell) companion.bind.body := by
  simp only [printBind, bindMarks]
  refine ⟨_, congrArg (SourceText.body (BindStatement.print spell) companion.bind.body)
    (congrArg (SourceText.begin · _) ?_)⟩
  cases companion.bind.plainResources <;> cases companion.bind.touches <;> rfl

/-- Whether the constructor of a companion has the mark for plain numbers. -/
def IsMarked (companion : CompanionCode) : Prop :=
  plainMark ∈ companion.bindMarks companion.imports.spell

theorem isMarked_iff {companion : CompanionCode} :
    companion.IsMarked ↔ companion.bind.plainResources = true := by
  have spelled (name : ClassName) : companion.imports.spell name = Text.dotted name.names ∨
      companion.imports.spell name = name.canonical := by
    unfold Imports.spell
    split
    · exact .inl rfl
    · exact .inr rfl
  have thread : plainMark ≠ s!"@{companion.imports.spell Known.uiThread}" := by
    rcases spelled Known.uiThread with written | written <;> rw [written] <;> decide
  have lint : plainMark ≠
      s!"@{companion.imports.spell Known.suppressLint}(\"ClickableViewAccessibility\")" := by
    rcases spelled Known.suppressLint with written | written <;> rw [written] <;> decide
  rw [IsMarked, bindMarks]
  cases companion.bind.plainResources <;> cases companion.bind.touches <;> simp [thread, lint]

end CompanionCode

namespace Generation

variable {options : Options} {target : LinkedTarget}

/-- A resource is loaded with its own id, and a drawable with that of its tint as well. -/
theorem mem_ids_resourceValue_iff {minSdk : Nat} {id other : ResourceId} {kind : ResourceKind} :
    other ∈ (resourceValue minSdk id kind).ids ↔ other = id ∨ kind = .drawable (some other) := by
  have ofContext (level : Nat) (method : String) :
      (contextValue minSdk level method id).ids = [id] := by
    unfold contextValue
    split <;> rfl
  cases kind with
  | typeface style =>
      have ids_eq : (resourceValue minSdk id (.typeface style)).ids = [id] := by
        simp only [resourceValue]
        repeat' split
        all_goals rfl
      simp [ids_eq]
  | drawable tint =>
      cases tint with
      | none => simp [resourceValue, ofContext]
      | some tint => simp [resourceValue, ResourceValue.ids, eq_comm]
  | color => simp [resourceValue, ofContext]
  | colorStateList => simp [resourceValue, ofContext]
  | _ => simp [resourceValue, ResourceValue.ids]

/-- A constructor loads the resources of its target. -/
theorem resources_of_bindConstructor {bind : BindConstructor}
    (made : bindConstructor options target = .ok bind) :
    bind.resources = target.resources.map fun resource =>
      resourceValue options.minSdk resource.id resource.kind := by
  obtain ⟨groups, groupsMade, resources_eq⟩ :=
    exists_filterMap_eq_of_bindConstructor made BindStatement.resource? (by
      simp [BindStatement.resource?])
  rw [BindConstructor.resources, resources_eq, filterMap_groups_eq_nil groupsMade fun _ _ => rfl]
  simp [BindStatement.resource?, collectionStatement, resourceStatement]

/-- The constructor is marked exactly if plain numbers stand for resources in it, unless they stand
for tints only. -/
theorem isMarked_iff_of_ofTarget {code : CompanionCode}
    (made : CompanionCode.ofTarget options target = .ok code) :
    (code.IsMarked ↔ code.bind.WritesNumber ∧ ¬ target.HasPlainTintsOnly) ∧
      (target.HasPlainTintsOnly → code.bind.WritesNumber) := by
  obtain ⟨-, -, bindMade⟩ := bindConstructor_of_ofTarget made
  have marked_iff : code.IsMarked ↔
      ∃ resource ∈ target.resources, resource.id.isReference = false := by
    obtain ⟨body, -, bindMade⟩ := exists_ok_of_bind bindMade
    rw [CompanionCode.isMarked_iff, ← Except.ok.inj bindMade]
    simp [Target.hasPlainResources]
  have writes_iff : code.bind.WritesNumber ↔ ∃ resource ∈ target.resources,
      resource.id.isReference = false ∨
        ∃ tint, resource.kind = .drawable (some tint) ∧ tint.isReference = false := by
    rw [BindConstructor.WritesNumber, resources_of_bindConstructor bindMade]
    simp only [List.mem_map, exists_exists_and_eq_and, mem_ids_resourceValue_iff, or_and_right,
      exists_or, exists_eq_left]
  rw [marked_iff, writes_iff]
  refine ⟨⟨?_, ?_⟩, ?_⟩
  · rintro ⟨resource, listed, plain⟩
    refine ⟨⟨resource, listed, .inl plain⟩, fun tintsOnly => ?_⟩
    rw [tintsOnly.resources resource listed] at plain
    cases plain
  · rintro ⟨⟨resource, listed, plain | tinted⟩, notTintsOnly⟩
    · exact ⟨resource, listed, plain⟩
    · by_contra noneIsPlain
      refine notTintsOnly ⟨fun other otherListed => ?_, resource, listed, tinted⟩
      by_contra plain
      exact noneIsPlain ⟨other, otherListed, Bool.eq_false_iff.2 plain⟩
  · rintro ⟨-, resource, listed, tinted⟩
    exact ⟨resource, listed, .inr tinted⟩

/-- A target with a drawable that is a constant of an index, and a plain number for its tint. -/
def iconTarget : LinkedTarget :=
  ⟨(Target.empty (.classType (.ofOuter "a" "Host")) (companionName "a" ["Host"]) false
    .generic).addResource
      ⟨.reference ⟨"a", "R", ["drawable"]⟩ "icon" 1, "icon", .drawable (some (.constant 2))⟩, none⟩

theorem exists_isMarked_iff_iconTarget :
    ∃ code, CompanionCode.ofTarget .default iconTarget = .ok code ∧
      iconTarget.HasPlainTintsOnly ∧ code.bind.WritesNumber ∧ ¬ code.IsMarked := by
  obtain ⟨code, made⟩ : ∃ code, CompanionCode.ofTarget .default iconTarget = .ok code :=
    exists_ok_of_isOk (by decide +kernel)
  obtain ⟨marked_iff, writes⟩ := isMarked_iff_of_ofTarget made
  have tintsOnly : iconTarget.HasPlainTintsOnly :=
    ⟨by decide, _, List.mem_cons_self, _, rfl, rfl⟩
  exact ⟨code, made, tintsOnly, writes tintsOnly, fun marked => (marked_iff.1 marked).2 tintsOnly⟩

/-- A plain number can stand for a tint without a mark. -/
theorem exists_unmarked_number :
    ∃ code, CompanionCode.ofTarget .default iconTarget = .ok code ∧ code.bind.WritesNumber ∧
      ¬ code.IsMarked := by
  have facts : (CompanionCode.ofTarget .default iconTarget).toOption.map (fun code =>
      (code.bind.resources.flatMap ResourceValue.ids, code.bind.plainResources)) =
        some ([.reference ⟨"a", "R", ["drawable"]⟩ "icon" 1, .constant 2], false) := by
    decide +kernel
  obtain ⟨code, made, read⟩ := exists_ok_of_map_toOption facts
  obtain ⟨ids_eq, unmarked⟩ := Prod.mk.inj read
  have written : .constant 2 ∈ code.bind.resources.flatMap ResourceValue.ids := by
    rw [ids_eq]
    decide
  obtain ⟨value, listed, given⟩ := List.mem_flatMap.1 written
  refine ⟨code, made, ⟨value, listed, _, given, rfl⟩, fun marked => ?_⟩
  rw [CompanionCode.isMarked_iff, unmarked] at marked
  cases marked

end Generation
end Companion
