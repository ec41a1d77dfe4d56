import Companion.Proofs.Linking.Order
import Companion.Proofs.Universe.Recompiled
import Mathlib.Data.List.Find
import Mathlib.Tactic.MkIffOfInductiveProp

/-!
# Separate compilation

A round may be cut in two: the classes of an upper part are compiled first, and the others see them
as compiled classes.  When the upper part holds every bound class above its own, and its targets
bind what its classes are annotated with, the others extend the same companions as before, with
constructors that take the same.  The upper part has to be of source classes, as the walk above a
compiled class stops at a bound one, and their companions have to be named after them, as that is
where a compiled companion is looked for.
-/

namespace Companion

/-- The collected targets without those of some classes. -/
def Collected.without (collected : Collected) (names : List String) : Collected :=
  ⟨collected.targets.without names, collected.bound.filter fun name => name ∉ names⟩

namespace Linking

variable {world : Universe} {kinds : List ListenerKind} {collected : Collected}
  {bound upper : List String}

/-- Whether a target binds views or resources as its class is annotated. -/
@[mk_iff]
structure Matches (kinds : List ListenerKind) (decl : TypeDecl) (target : Target) : Prop where
  /-- The target binds views exactly when some member is annotated for that. -/
  views : target.bindsViews = usesViews kinds decl
  /-- Otherwise some member is annotated for a resource. -/
  resources : target.bindsViews = false → (markersOf decl).any Marker.isResource = true

instance (kinds : List ListenerKind) (decl : TypeDecl) (target : Target) :
    Decidable (Matches kinds decl target) :=
  decidable_of_iff _ (matches_iff kinds decl target).symm

/-- Whether some classes of a round are bound, hold the bound classes above them, and have targets
that match them. -/
@[mk_iff]
structure IsUpperPart (world : Universe) (kinds : List ListenerKind) (collected : Collected)
    (upper : List String) : Prop where
  /-- The classes are bound. -/
  bound : ∀ name ∈ upper, name ∈ collected.bound
  /-- Bound classes above them are among them. -/
  above : ∀ name ∈ upper, ∀ ancestor ∈ world.superclassesOf name,
    ancestor.name ∈ collected.bound → ancestor.name ∈ upper
  /-- Their targets match them. -/
  fits : ∀ name ∈ upper, ∀ decl ∈ world.get? name, ∀ target ∈ collected.targets.get? name,
    Matches kinds decl target

instance (world : Universe) (kinds : List ListenerKind) (collected : Collected)
    (upper : List String) : Decidable (IsUpperPart world kinds collected upper) :=
  decidable_of_iff _ (isUpperPart_iff world kinds collected upper).symm

/-- Whether such classes can be compiled before the others of the round. -/
structure IsSourcePart (world : Universe) (kinds : List ListenerKind) (collected : Collected)
    (upper : List String) : Prop extends IsUpperPart world kinds collected upper where
  /-- The classes are in the sources. -/
  source : ∀ name ∈ upper, ∀ decl ∈ world.get? name, decl.origin = .source
  /-- Their companions are named after them. -/
  companion : ∀ name ∈ upper, ∀ decl ∈ world.get? name, ∀ target ∈ collected.targets.get? name,
    target.companion = companionName decl.package decl.simpleNames

/-- Whether superclasses of compiled classes are compiled classes. -/
def IsCompiledUpward (world : Universe) : Prop :=
  ∀ decl superclass, world.get? decl.name = some decl → decl.origin = .classpath →
    world.superclassOf? decl = some superclass → superclass.origin = .classpath

theorem isCompiledUpward_iff :
    IsCompiledUpward world ↔ ∀ decl ∈ world.types, decl.origin = .classpath →
      (world.superclassOf? decl).all fun superclass => superclass.origin = .classpath := by
  constructor
  · intro upward decl member compiled
    rw [Option.all_eq_true]
    intro superclass found
    exact decide_eq_true
      (upward decl superclass (Universe.get?_name_of_mem_types member) compiled found)
  · intro upward decl superclass known compiled found
    have member : decl ∈ world.types := Table.mem_values_iff.2 ⟨decl.name, known⟩
    have superclassCompiled := (Option.all_eq_true _ _).1 (upward decl member compiled)
    exact of_decide_eq_true (superclassCompiled superclass found)

instance (world : Universe) : Decidable (IsCompiledUpward world) :=
  decidable_of_iff _ isCompiledUpward_iff.symm

theorem IsCompiledUpward.superclasses (upward : IsCompiledUpward world)
    (acyclic : world.IsAcyclic) {decl : TypeDecl} (known : world.get? decl.name = some decl)
    (compiled : decl.origin = .classpath) :
    ∀ ancestor ∈ world.superclasses decl, ancestor.origin = .classpath := by
  generalize chain_eq : world.superclasses decl = chain
  induction chain generalizing decl with
  | nil => simp
  | cons first chain ih =>
      have above := Universe.superclasses_of_cons acyclic known chain_eq
      have firstCompiled : first.origin = .classpath := by
        cases found : world.superclassOf? decl with
        | none => simp [Universe.superclasses_of_top found] at chain_eq
        | some superclass =>
            rw [Universe.superclasses_of_superclassOf? acyclic known found] at chain_eq
            obtain ⟨rfl, -⟩ := List.cons.inj chain_eq
            exact upward decl superclass known compiled found
      have member : first ∈ world.superclasses decl := by simp [chain_eq]
      rintro ancestor (_ | ⟨_, later⟩)
      · exact firstCompiled
      · exact ih (Universe.get?_name_of_mem_superclasses member) firstCompiled above ancestor later

theorem isCompiled_onClasspath {decl : TypeDecl} {target : Target}
    (fits : Matches kinds decl target) : isCompiled kinds decl.onClasspath = true := by
  have annotated : ∃ marker ∈ markersOf decl, marker ∈ Marker.names kinds := by
    cases views : usesViews kinds decl with
    | true =>
        rw [← any_needsView_markersOf] at views
        obtain ⟨marker, listed, view⟩ := List.any_eq_true.1 views
        exact ⟨marker, listed, mem_names_iff.2 (.inl view)⟩
    | false =>
        obtain ⟨marker, listed, resource⟩ :=
          List.any_eq_true.1 (fits.resources (fits.views.trans views))
        exact ⟨marker, listed, mem_names_iff.2 (.inr resource)⟩
  obtain ⟨marker, listed, supported⟩ := annotated
  obtain ⟨member, declared, carried⟩ := mem_markersOf_iff.1 listed
  have compiled : ∃ member ∈ decl.members, ∃ marker ∈ Marker.names kinds,
      member.carries marker = true :=
    ⟨member, declared, marker, supported, carried⟩
  simpa [isCompiled, TypeDecl.onClasspath] using compiled

theorem usesViews_compiledAmong (decl : TypeDecl) :
    usesViews kinds (decl.compiledAmong upper) = usesViews kinds decl := by
  rw [usesViews, usesViews, TypeDecl.members_compiledAmong]

theorem mem_bound_without {name : String} :
    name ∈ (collected.without upper).bound ↔ name ∈ collected.bound ∧ name ∉ upper := by
  simp [Collected.without]

/-- A round that is linked as a whole, and its lower part linked after the upper one was
compiled. -/
structure IsCut (world : Universe) (kinds : List ListenerKind) (collected : Collected)
    (upper : List String) (whole lower : LinkedTargets) : Prop where
  /-- No class is above itself. -/
  acyclic : world.IsAcyclic
  /-- Compiled classes stand below compiled classes only. -/
  upward : IsCompiledUpward world
  /-- Bound classes have targets. -/
  boundAreTargets : ∀ name ∈ collected.bound, name ∈ collected.targets.keys
  /-- The upper part can be compiled first. -/
  part : IsSourcePart world kinds collected upper
  /-- All targets of the round are linked. -/
  whole : AreLinked world kinds collected whole
  /-- The targets of the lower part are linked. -/
  lower : AreLinked (world.withCompiled upper) kinds (collected.without upper) lower

namespace IsCut

variable {whole lower : LinkedTargets}

theorem fits (cut : IsCut world kinds collected upper whole lower) {decl : TypeDecl}
    (known : world.get? decl.name = some decl) (inside : decl.name ∈ upper) :
    ∃ target, Matches kinds decl target := by
  have isBound := cut.part.bound _ inside
  obtain ⟨target, found⟩ := Table.mem_keys_iff.1 (cut.boundAreTargets _ isBound)
  exact ⟨target, cut.part.fits _ inside decl known target found⟩

/-- Whether a class has a companion does not depend on when the upper part is compiled. -/
theorem hasCompanion_compiledAmong (cut : IsCut world kinds collected upper whole lower)
    {decl : TypeDecl} (known : world.get? decl.name = some decl) :
    hasCompanion kinds (collected.without upper).bound (decl.compiledAmong upper) =
      hasCompanion kinds collected.bound decl := by
  by_cases inside : decl.name ∈ upper
  · obtain ⟨target, fits⟩ := cut.fits known inside
    have compiled := isCompiled_onClasspath fits
    have isBound := cut.part.bound _ inside
    simp [hasCompanion, TypeDecl.compiledAmong_of_mem inside, compiled, isBound]
  · simp [hasCompanion, TypeDecl.compiledAmong_of_not_mem inside, mem_bound_without, inside]

theorem nearest?_withCompiled (cut : IsCut world kinds collected upper whole lower)
    (name : String) :
    nearest? (world.withCompiled upper) kinds (collected.without upper).bound name =
      (nearest? world kinds collected.bound name).map (TypeDecl.compiledAmong upper) := by
  rw [nearest?_eq, nearest?_eq, Universe.superclassesOf_withCompiled, List.find?_map]
  congr 1
  refine List.find?_congr fun ancestor member => ?_
  exact cut.hasCompanion_compiledAmong (Universe.get?_name_of_mem_superclassesOf member)

theorem not_mem_upper_of_classpath (cut : IsCut world kinds collected upper whole lower)
    {decl : TypeDecl} (known : world.get? decl.name = some decl)
    (compiled : decl.origin = .classpath) :
    ∀ ancestor ∈ world.superclassesOf decl.name, ancestor.name ∉ upper := by
  intro ancestor member inside
  have source :=
    cut.part.source _ inside ancestor (Universe.get?_name_of_mem_superclassesOf member)
  rw [Universe.superclassesOf_of_get? known] at member
  have ancestorCompiled :=
    cut.upward.superclasses cut.acyclic known compiled ancestor member
  rw [source] at ancestorCompiled
  cases ancestorCompiled

/-- Above a class that was compiled before the round, the cut is not seen. -/
theorem seesViews_of_classpath (cut : IsCut world kinds collected upper whole lower)
    {decl : TypeDecl} (known : world.get? decl.name = some decl)
    (compiled : decl.origin = .classpath) :
    seesViews kinds (collected.without upper).bound
        ((world.withCompiled upper).superclassesOf decl.name) =
      seesViews kinds collected.bound (world.superclassesOf decl.name) := by
  have apart := cut.not_mem_upper_of_classpath known compiled
  have chain_eq : (world.superclassesOf decl.name).map (TypeDecl.compiledAmong upper) =
      world.superclassesOf decl.name := by
    rw [List.map_congr_left fun ancestor member =>
      TypeDecl.compiledAmong_of_not_mem (apart ancestor member), List.map_id']
  rw [Universe.superclassesOf_withCompiled, chain_eq]
  refine seesViews_congr fun ancestor member => ?_
  simp [mem_bound_without, apart ancestor member]

/-- The companion of a class of the upper part takes a view exactly when the lower part, which sees
only annotations, takes it to do so. -/
theorem needsView_of_inside (cut : IsCut world kinds collected upper whole lower)
    {name : String} {decl : TypeDecl} {set : LinkedTarget} (inside : name ∈ upper)
    (known : world.get? name = some decl) (found : whole.get? name = some set) :
    set.needsView = (usesViews kinds decl || seesViews kinds (collected.without upper).bound
      ((world.withCompiled upper).superclassesOf name)) := by
  induction name using cut.acyclic.induction generalizing decl set with
  | step name ih =>
      have fits := cut.part.fits name inside decl known _ (cut.whole.bindings name set found)
      have nearest_eq := cut.nearest?_withCompiled name
      rw [LinkedTarget.needsView, fits.views]
      congr 1
      cases nearest : nearest? world kinds collected.bound name with
      | none =>
          rw [nearest] at nearest_eq
          rw [cut.whole.top name set found nearest, seesViews_of_top nearest_eq]
          rfl
      | some parent =>
          rw [nearest] at nearest_eq
          have member := mem_superclassesOf_of_nearest? nearest
          have parentKnown := get?_name_of_nearest? nearest
          have insideOfBound := cut.part.above name inside parent member
          have unbound : (parent.compiledAmong upper).name ∉ (collected.without upper).bound := by
            rw [TypeDecl.name_compiledAmong, mem_bound_without]
            exact fun ⟨isBound, outside⟩ => outside (insideOfBound isBound)
          rw [seesViews_of_compiled cut.acyclic.withCompiled nearest_eq unbound,
            usesViews_compiledAmong, TypeDecl.name_compiledAmong]
          by_cases isBound : parent.name ∈ collected.bound
          · obtain ⟨parentSet, present, parent_eq⟩ :=
              cut.whole.round name set parent found nearest isBound
            rw [parent_eq, ← ih parent member (insideOfBound isBound) parentKnown present]
            rfl
          · have compiled := classpath_of_isCompiled (isCompiled_of_nearest? nearest isBound)
            rw [cut.whole.compiled name set parent found nearest isBound,
              cut.seesViews_of_classpath parentKnown compiled]
            rfl

section Parents

variable {name : String} {parent : TypeDecl} {set lowerSet : LinkedTarget}

theorem toTarget_eq (cut : IsCut world kinds collected upper whole lower)
    (found : whole.get? name = some set) (lowerFound : lower.get? name = some lowerSet) :
    lowerSet.toTarget = set.toTarget := by
  have collectedAs := cut.whole.bindings name set found
  have lowerCollectedAs := cut.lower.bindings name lowerSet lowerFound
  rw [Collected.without, Table.get?_without] at lowerCollectedAs
  split at lowerCollectedAs
  · cases lowerCollectedAs
  · rw [collectedAs] at lowerCollectedAs
    exact (Option.some.inj lowerCollectedAs).symm

/-- A parent in the upper part is seen from below as it was linked. -/
theorem parent_of_inside (cut : IsCut world kinds collected upper whole lower)
    (found : whole.get? name = some set) (lowerFound : lower.get? name = some lowerSet)
    (nearest : nearest? world kinds collected.bound name = some parent)
    (inside : parent.name ∈ upper) :
    ∃ parentSet : LinkedTarget, set.parent = some (parentSet.asParent parent.name) ∧
      lowerSet.parent = some (.classpath parentSet.companion parentSet.needsView) := by
  obtain ⟨parentSet, present, parent_eq⟩ :=
    cut.whole.round name set parent found nearest (cut.part.bound _ inside)
  refine ⟨parentSet, parent_eq, ?_⟩
  have parentKnown := get?_name_of_nearest? nearest
  have companion_eq :=
    cut.part.companion _ inside parent parentKnown _ (cut.whole.bindings _ _ present)
  have nearest_eq := cut.nearest?_withCompiled name
  rw [nearest, Option.map_some, TypeDecl.compiledAmong_of_mem inside] at nearest_eq
  have unbound : parent.onClasspath.name ∉ (collected.without upper).bound :=
    fun isBound => (mem_bound_without.1 isBound).2 inside
  rw [cut.lower.compiled name lowerSet _ lowerFound nearest_eq unbound, companion_eq,
    cut.needsView_of_inside inside parentKnown present]
  rfl

/-- A bound parent in the lower part is linked on both sides. -/
theorem parent_of_outside (cut : IsCut world kinds collected upper whole lower)
    (found : whole.get? name = some set) (lowerFound : lower.get? name = some lowerSet)
    (nearest : nearest? world kinds collected.bound name = some parent)
    (isBound : parent.name ∈ collected.bound) (outside : parent.name ∉ upper) :
    ∃ parentSet lowerParentSet, whole.get? parent.name = some parentSet ∧
      lower.get? parent.name = some lowerParentSet ∧
      set.parent = some (parentSet.asParent parent.name) ∧
      lowerSet.parent = some (lowerParentSet.asParent parent.name) := by
  obtain ⟨parentSet, present, parent_eq⟩ :=
    cut.whole.round name set parent found nearest isBound
  have nearest_eq := cut.nearest?_withCompiled name
  rw [nearest, Option.map_some, TypeDecl.compiledAmong_of_not_mem outside] at nearest_eq
  obtain ⟨lowerParentSet, lowerPresent, lowerParent_eq⟩ := cut.lower.round name lowerSet parent
    lowerFound nearest_eq (mem_bound_without.2 ⟨isBound, outside⟩)
  exact ⟨parentSet, lowerParentSet, present, lowerPresent, parent_eq, lowerParent_eq⟩

theorem parent_of_unbound (cut : IsCut world kinds collected upper whole lower)
    (found : whole.get? name = some set) (lowerFound : lower.get? name = some lowerSet)
    (nearest : nearest? world kinds collected.bound name = some parent)
    (unbound : parent.name ∉ collected.bound) : lowerSet.parent = set.parent := by
  have outside : parent.name ∉ upper := mt (cut.part.bound _) unbound
  have compiled := classpath_of_isCompiled (isCompiled_of_nearest? nearest unbound)
  have nearest_eq := cut.nearest?_withCompiled name
  rw [nearest, Option.map_some, TypeDecl.compiledAmong_of_not_mem outside] at nearest_eq
  rw [cut.whole.compiled name set parent found nearest unbound,
    cut.lower.compiled name lowerSet parent lowerFound nearest_eq
      (fun isBound => unbound (mem_bound_without.1 isBound).1),
    cut.seesViews_of_classpath (get?_name_of_nearest? nearest) compiled]

end Parents

/-- Whether two linked targets bind the same and extend the same companion, with a constructor that
takes the same. -/
structure Agree (set other : LinkedTarget) : Prop where
  /-- The bindings are the same. -/
  bindings : set.toTarget = other.toTarget
  /-- The companions that are extended are the same. -/
  companion : set.parent.map ParentLink.companion = other.parent.map ParentLink.companion
  /-- Their constructors take the same. -/
  needsView : set.parent.map ParentLink.needsView = other.parent.map ParentLink.needsView

theorem Agree.needsView_eq {set other : LinkedTarget} (agree : Agree set other) :
    set.needsView = other.needsView := by
  have any_eq : ∀ parent : Option ParentLink, parent.any ParentLink.needsView =
      (parent.map ParentLink.needsView).getD false := by
    rintro (_ | parent) <;> rfl
  rw [LinkedTarget.needsView, LinkedTarget.needsView, agree.bindings, any_eq, any_eq,
    agree.needsView]

theorem agree (cut : IsCut world kinds collected upper whole lower) {name : String}
    {set lowerSet : LinkedTarget} (found : whole.get? name = some set)
    (lowerFound : lower.get? name = some lowerSet) : Agree lowerSet set := by
  induction name using cut.acyclic.induction generalizing set lowerSet with
  | step name ih =>
      have bindings_eq := cut.toTarget_eq found lowerFound
      cases nearest : nearest? world kinds collected.bound name with
      | none =>
          have lowerTop := cut.nearest?_withCompiled name
          rw [nearest] at lowerTop
          have parent_eq : lowerSet.parent = set.parent := by
            rw [cut.whole.top name set found nearest,
              cut.lower.top name lowerSet lowerFound lowerTop]
          exact ⟨bindings_eq, by rw [parent_eq], by rw [parent_eq]⟩
      | some parent =>
          by_cases isBound : parent.name ∈ collected.bound
          · by_cases inside : parent.name ∈ upper
            · obtain ⟨parentSet, parent_eq, lowerParent_eq⟩ :=
                cut.parent_of_inside found lowerFound nearest inside
              exact ⟨bindings_eq, by rw [parent_eq, lowerParent_eq]; rfl,
                by rw [parent_eq, lowerParent_eq]; rfl⟩
            · obtain ⟨parentSet, lowerParentSet, present, lowerPresent, parent_eq,
                lowerParent_eq⟩ := cut.parent_of_outside found lowerFound nearest isBound inside
              have parentsAgree :=
                ih parent (mem_superclassesOf_of_nearest? nearest) present lowerPresent
              have companion_eq : lowerParentSet.companion = parentSet.companion := by
                rw [parentsAgree.bindings]
              refine ⟨bindings_eq, ?_, ?_⟩
              · rw [parent_eq, lowerParent_eq]
                exact congrArg some companion_eq
              · rw [parent_eq, lowerParent_eq]
                exact congrArg some parentsAgree.needsView_eq
          · have parent_eq := cut.parent_of_unbound found lowerFound nearest isBound
            exact ⟨bindings_eq, by rw [parent_eq], by rw [parent_eq]⟩

end IsCut

/-- Compiling the upper part of a round first leaves each other target with a parent of the same
companion and constructor, or without one as before. -/
theorem exists_link_without (acyclic : world.IsAcyclic) (upward : IsCompiledUpward world)
    (sameNames : ∀ name, name ∈ collected.bound ↔ name ∈ collected.targets.keys)
    (part : IsSourcePart world kinds collected upper) :
    ∃ whole lower, link world kinds collected = .ok whole ∧
      link (world.withCompiled upper) kinds (collected.without upper) = .ok lower ∧
      (∀ name, name ∈ lower.keys ↔ name ∈ collected.targets.keys ∧ name ∉ upper) ∧
      ∀ name lowerSet, lower.get? name = some lowerSet → ∃ set, whole.get? name = some set ∧
        lowerSet.toTarget = set.toTarget ∧
        lowerSet.parent.map ParentLink.companion = set.parent.map ParentLink.companion ∧
        lowerSet.parent.map ParentLink.needsView = set.parent.map ParentLink.needsView ∧
        lowerSet.needsView = set.needsView := by
  have boundAreTargets : ∀ name ∈ collected.bound, name ∈ collected.targets.keys :=
    fun name => (sameNames name).1
  have lowerSameNames : ∀ name, name ∈ (collected.without upper).bound ↔
      name ∈ (collected.without upper).targets.keys := by
    intro name
    rw [mem_bound_without, sameNames]
    exact Table.mem_keys_without.symm
  obtain ⟨whole, whole_eq⟩ := exists_linked_of_isAcyclic acyclic kinds boundAreTargets
  have lowerAcyclic : (world.withCompiled upper).IsAcyclic := acyclic.withCompiled
  obtain ⟨lower, lower_eq⟩ :=
    exists_linked_of_isAcyclic lowerAcyclic kinds fun name => (lowerSameNames name).1
  have cut : IsCut world kinds collected upper whole lower := {
    acyclic, upward, boundAreTargets, part
    whole := areLinked_of_link acyclic
      (compilesOnce_of_bound fun name => (sameNames name).2) whole_eq
    lower := areLinked_of_link lowerAcyclic
      (compilesOnce_of_bound fun name => (lowerSameNames name).2) lower_eq }
  have lowerKeys : ∀ name, name ∈ lower.keys ↔ name ∈ collected.targets.keys ∧ name ∉ upper :=
    fun name => cut.lower.keys.mem_iff.trans Table.mem_keys_without
  refine ⟨whole, lower, whole_eq, lower_eq, lowerKeys, ?_⟩
  intro name lowerSet lowerFound
  have target := ((lowerKeys name).1 (Table.mem_keys_of_get? lowerFound)).1
  obtain ⟨set, found⟩ := Table.mem_keys_iff.1 (cut.whole.keys.mem_iff.2 target)
  have agree := cut.agree found lowerFound
  exact ⟨set, found, agree.bindings, agree.companion, agree.needsView, agree.needsView_eq⟩

/-- A class of the family whose companion has another name, and the class below it. -/
def renamedTargets : Collected :=
  ⟨.ofList [("a.Inner", { bareTarget "a" "Inner" with companion := companionName "a" ["Other"] }),
    ("a.Last", bareTarget "a" "Last")], ["a.Inner", "a.Last"]⟩

/-- A compiled class of the family that is bound again, and a class below another compiled one. -/
def reboundTargets : Collected :=
  ⟨.ofList [("lib.Root", { bareTarget "lib" "Root" with groups := [.empty (.constant 1)] }),
    ("a.Left", bareTarget "a" "Left")], ["lib.Root", "a.Left"]⟩

theorem link_renamedTargets :
    link family ListenerKind.standard renamedTargets =
      .ok (.ofList [
        ("a.Inner", ⟨{ bareTarget "a" "Inner" with companion := companionName "a" ["Other"] },
          some (.classpath (companionName "lib" ["Middle"]) true)⟩),
        ("a.Last", ⟨bareTarget "a" "Last",
          some (.round "a.Inner" (companionName "a" ["Other"]) true)⟩)]) :=
  link_of_areReady (by decide +kernel) (by decide +kernel)

theorem link_renamedTargets_without :
    link (family.withCompiled ["a.Inner"]) ListenerKind.standard
        (renamedTargets.without ["a.Inner"]) =
      .ok (.ofList [("a.Last", ⟨bareTarget "a" "Last",
        some (.classpath (companionName "a" ["Inner"]) true)⟩)]) :=
  link_of_areReady (by decide +kernel) (by decide +kernel)

theorem link_reboundTargets :
    link family ListenerKind.standard reboundTargets =
      .ok (.ofList [
        ("lib.Root", ⟨{ bareTarget "lib" "Root" with groups := [.empty (.constant 1)] }, none⟩),
        ("a.Left", ⟨bareTarget "a" "Left",
          some (.classpath (companionName "lib" ["Middle"]) false)⟩)]) :=
  link_of_areReady (by decide +kernel) (by decide +kernel)

theorem link_reboundTargets_without :
    link (family.withCompiled ["lib.Root"]) ListenerKind.standard
        (reboundTargets.without ["lib.Root"]) =
      .ok (.ofList [("a.Left", ⟨bareTarget "a" "Left",
        some (.classpath (companionName "lib" ["Middle"]) true)⟩)]) :=
  link_of_areReady (by decide +kernel) (by decide +kernel)

theorem isCompiledUpward_family : IsCompiledUpward family := by decide +kernel

/-- Neither condition on such classes can be left out.  A companion of another name is not found
once its class is compiled, and what a compiled class asks for is heard below other compiled classes
only when it is not bound. -/
theorem exists_parents_differ_of_isUpperPart :
    family.IsAcyclic ∧ IsCompiledUpward family ∧
      ((∀ name, name ∈ renamedTargets.bound ↔ name ∈ renamedTargets.targets.keys) ∧
        IsUpperPart family ListenerKind.standard renamedTargets ["a.Inner"] ∧
        (∀ decl ∈ family.get? "a.Inner", decl.origin = .source) ∧
        ∃ whole lower set lowerSet,
          link family ListenerKind.standard renamedTargets = .ok whole ∧
          link (family.withCompiled ["a.Inner"]) ListenerKind.standard
            (renamedTargets.without ["a.Inner"]) = .ok lower ∧
          whole.get? "a.Last" = some set ∧ lower.get? "a.Last" = some lowerSet ∧
          lowerSet.parent.map ParentLink.companion ≠ set.parent.map ParentLink.companion) ∧
      (∀ name, name ∈ reboundTargets.bound ↔ name ∈ reboundTargets.targets.keys) ∧
      IsUpperPart family ListenerKind.standard reboundTargets ["lib.Root"] ∧
      (∀ target ∈ reboundTargets.targets.get? "lib.Root",
        target.companion = companionName "lib" ["Root"]) ∧
      ∃ whole lower set lowerSet,
        link family ListenerKind.standard reboundTargets = .ok whole ∧
        link (family.withCompiled ["lib.Root"]) ListenerKind.standard
          (reboundTargets.without ["lib.Root"]) = .ok lower ∧
        whole.get? "a.Left" = some set ∧ lower.get? "a.Left" = some lowerSet ∧
        lowerSet.parent.map ParentLink.needsView ≠ set.parent.map ParentLink.needsView := by
  have renamedNames : renamedTargets.targets.keys = renamedTargets.bound := by decide +kernel
  have reboundNames : reboundTargets.targets.keys = reboundTargets.bound := by decide +kernel
  exact ⟨isAcyclic_family, isCompiledUpward_family,
    ⟨fun name => by rw [renamedNames], by decide +kernel, by decide +kernel, _, _, _, _,
      link_renamedTargets, link_renamedTargets_without, rfl, rfl, by decide⟩,
    fun name => by rw [reboundNames], by decide +kernel, by decide +kernel, _, _, _, _,
    link_reboundTargets, link_reboundTargets_without, rfl, rfl, by decide⟩

/-- The upper part of the family. -/
def familyUpper : List String := ["a.Left", "a.Inner"]

theorem isSourcePart_family :
    IsSourcePart family ListenerKind.standard familyTargets familyUpper where
  toIsUpperPart := by decide +kernel
  source := by decide +kernel
  companion := by decide +kernel

theorem exists_link_without_family :
    family.IsAcyclic ∧ IsCompiledUpward family ∧
      (∀ name, name ∈ familyTargets.bound ↔ name ∈ familyTargets.targets.keys) ∧
      IsSourcePart family ListenerKind.standard familyTargets familyUpper ∧
      ∃ whole lower, link family ListenerKind.standard familyTargets = .ok whole ∧
        link (family.withCompiled familyUpper) ListenerKind.standard
          (familyTargets.without familyUpper) = .ok lower ∧
        ∃ set lowerSet, whole.get? "a.Last" = some set ∧ lower.get? "a.Last" = some lowerSet ∧
          lowerSet.parent.map ParentLink.companion = set.parent.map ParentLink.companion ∧
          lowerSet.parent.map ParentLink.needsView = set.parent.map ParentLink.needsView := by
  have names_eq : familyTargets.targets.keys = familyTargets.bound := by decide +kernel
  have sameNames : ∀ name, name ∈ familyTargets.bound ↔ name ∈ familyTargets.targets.keys :=
    fun name => by rw [names_eq]
  obtain ⟨whole, lower, whole_eq, lower_eq, lowerKeys, same⟩ :=
    exists_link_without isAcyclic_family isCompiledUpward_family sameNames isSourcePart_family
  obtain ⟨lowerSet, lowerFound⟩ :=
    Table.mem_keys_iff.1 ((lowerKeys "a.Last").2 (by decide +kernel))
  obtain ⟨set, found, -, companion_eq, needsView_eq, -⟩ := same "a.Last" lowerSet lowerFound
  exact ⟨isAcyclic_family, isCompiledUpward_family, sameNames, isSourcePart_family, whole, lower,
    whole_eq, lower_eq, set, lowerSet, found, lowerFound, companion_eq, needsView_eq⟩

end Linking
end Companion
