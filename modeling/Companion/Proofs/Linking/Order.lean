import Companion.Proofs.Linking.Parents
import Mathlib.Data.List.Find

/-!
# Linking in any order

The parent of a target is told by the declarations and by the targets above it.  So from the top of
an acyclic hierarchy downward, two rounds that agree on some classes and on all classes above them
link these classes alike.  In particular nothing depends on the order in which the targets were
collected, or in which compiled classes were reached from them, as long as no compiled class above a
target is a target itself without being bound.
-/

namespace Companion
namespace Linking

variable {world : Universe} {kinds : List ListenerKind} {collected other : Collected}
  {bound otherBound : List String}

theorem seesViews_congr {chain : List TypeDecl}
    (same : ∀ decl ∈ chain, (decl.name ∈ bound ↔ decl.name ∈ otherBound)) :
    seesViews kinds bound chain = seesViews kinds otherBound chain := by
  induction chain with
  | nil => rfl
  | cons decl chain ih =>
      have sameHere := same decl List.mem_cons_self
      by_cases isBound : decl.name ∈ bound
      · rw [seesViews_cons_of_bound isBound, seesViews_cons_of_bound (sameHere.1 isBound)]
      · rw [seesViews_cons_of_unbound isBound, seesViews_cons_of_unbound (mt sameHere.2 isBound),
          ih fun other member => same other (List.mem_cons_of_mem decl member)]

/-- Whether two rounds agree on some classes and on everything above these. -/
structure Agree (world otherWorld : Universe) (collected other : Collected)
    (within : String → Prop) : Prop where
  /-- What is above one of the classes is among them. -/
  above : ∀ name, within name → ∀ ancestor ∈ world.superclassesOf name, within ancestor.name
  /-- They have the same superclasses. -/
  chains : ∀ name, within name → otherWorld.superclassesOf name = world.superclassesOf name
  /-- They have the same targets. -/
  targets : ∀ name, within name → collected.targets.get? name = other.targets.get? name
  /-- The same ones are bound. -/
  bound : ∀ name, within name → (name ∈ collected.bound ↔ name ∈ other.bound)

/-- The same targets, collected in another order, agree on all classes. -/
theorem Agree.of_same (targets : ∀ name, collected.targets.get? name = other.targets.get? name)
    (sameBound : ∀ name, name ∈ collected.bound ↔ name ∈ other.bound) :
    Agree world world collected other fun _ => True :=
  ⟨fun _ _ _ _ => trivial, fun _ _ => rfl, fun name _ => targets name,
    fun name _ => sameBound name⟩

namespace Agree

variable {otherWorld : Universe} {within : String → Prop} {name : String}
  (agree : Agree world otherWorld collected other within)
include agree

theorem nearest?_eq (inside : within name) :
    nearest? otherWorld kinds other.bound name = nearest? world kinds collected.bound name := by
  rw [Linking.nearest?_eq, Linking.nearest?_eq, agree.chains name inside]
  refine List.find?_congr fun ancestor member => ?_
  simp only [hasCompanion, agree.bound _ (agree.above name inside ancestor member)]

theorem seesViews_eq (inside : within name) :
    seesViews kinds other.bound (otherWorld.superclassesOf name) =
      seesViews kinds collected.bound (world.superclassesOf name) := by
  rw [agree.chains name inside]
  exact seesViews_congr fun ancestor member =>
    (agree.bound _ (agree.above name inside ancestor member)).symm

/-- Targets of a class are linked to the same parent when those of the classes above it are linked
alike. -/
theorem parent_eq {linked otherLinked : LinkedTargets} {set otherSet : LinkedTarget}
    (areLinked : AreLinked world kinds collected linked)
    (areOtherLinked : AreLinked otherWorld kinds other otherLinked) (inside : within name)
    (found : linked.get? name = some set) (otherFound : otherLinked.get? name = some otherSet)
    (above : ∀ parent ∈ world.superclassesOf name,
      linked.get? parent.name = otherLinked.get? parent.name) :
    set.parent = otherSet.parent := by
  have nearest_eq : nearest? otherWorld kinds other.bound name =
      nearest? world kinds collected.bound name := agree.nearest?_eq inside
  cases nearest : nearest? world kinds collected.bound name with
  | none =>
      rw [areLinked.top name set found nearest,
        areOtherLinked.top name otherSet otherFound (nearest_eq.trans nearest)]
  | some parent =>
      have otherNearest := nearest_eq.trans nearest
      have member := mem_superclassesOf_of_nearest? nearest
      have parentInside := agree.above name inside parent member
      have sameBound := agree.bound parent.name parentInside
      by_cases isBound : parent.name ∈ collected.bound
      · obtain ⟨parentSet, present, parent_eq⟩ :=
          areLinked.round name set parent found nearest isBound
        obtain ⟨otherParentSet, otherPresent, otherParent_eq⟩ := areOtherLinked.round
          name otherSet parent otherFound otherNearest (sameBound.1 isBound)
        have same := above parent member
        rw [present, otherPresent] at same
        rw [parent_eq, otherParent_eq, Option.some.inj same]
      · rw [areLinked.compiled name set parent found nearest isBound,
          areOtherLinked.compiled name otherSet parent otherFound otherNearest
            (mt sameBound.2 isBound),
          agree.seesViews_eq parentInside]

/-- Linked targets of classes on which two rounds agree are the same. -/
theorem get?_eq (acyclic : world.IsAcyclic) {linked otherLinked : LinkedTargets}
    (areLinked : AreLinked world kinds collected linked)
    (areOtherLinked : AreLinked otherWorld kinds other otherLinked) (inside : within name) :
    linked.get? name = otherLinked.get? name := by
  induction name using acyclic.induction with
  | step name ih =>
      have targets := agree.targets name inside
      cases found : linked.get? name with
      | none =>
          rw [Table.get?_eq_none_iff, areLinked.keys.mem_iff, ← Table.get?_eq_none_iff, targets,
            Table.get?_eq_none_iff, ← areOtherLinked.keys.mem_iff, ← Table.get?_eq_none_iff]
            at found
          rw [found]
      | some set =>
          have collectedAs := areLinked.bindings name set found
          have target : name ∈ otherLinked.keys := by
            rw [areOtherLinked.keys.mem_iff]
            exact Table.mem_keys_of_get? (targets ▸ collectedAs)
          obtain ⟨otherSet, otherFound⟩ := Table.mem_keys_iff.1 target
          have bindings_eq : set.toTarget = otherSet.toTarget := by
            have otherCollectedAs := areOtherLinked.bindings name otherSet otherFound
            rw [targets, otherCollectedAs] at collectedAs
            exact (Option.some.inj collectedAs).symm
          have parents := agree.parent_eq areLinked areOtherLinked inside found otherFound
            fun parent member => ih parent member (agree.above name inside parent member)
          rw [otherFound]
          congr 1
          cases set
          cases otherSet
          simp_all

end Agree

theorem compilesOnce_congr (once : CompilesOnce world kinds collected)
    (targets : ∀ name, collected.targets.get? name = other.targets.get? name)
    (sameBound : ∀ name, name ∈ collected.bound ↔ name ∈ other.bound) :
    CompilesOnce world kinds other := by
  have target_iff : ∀ name, name ∈ other.targets.keys ↔ name ∈ collected.targets.keys :=
    fun name => by rw [Table.mem_keys_iff, Table.mem_keys_iff, targets]
  intro name target parent nearest unbound
  rw [(Agree.of_same targets sameBound).nearest?_eq trivial] at nearest
  rw [target_iff] at target ⊢
  exact once name target parent nearest (mt (sameBound parent.name).1 unbound)

/-- Linked targets of the same classes with the same bindings are the same. -/
theorem AreLinked.get?_eq (acyclic : world.IsAcyclic) {linked otherLinked : LinkedTargets}
    (areLinked : AreLinked world kinds collected linked)
    (areOtherLinked : AreLinked world kinds other otherLinked)
    (targets : ∀ name, collected.targets.get? name = other.targets.get? name)
    (sameBound : ∀ name, name ∈ collected.bound ↔ name ∈ other.bound) (name : String) :
    linked.get? name = otherLinked.get? name :=
  (Agree.of_same targets sameBound).get?_eq acyclic areLinked areOtherLinked trivial

/-- What is linked of some targets is linked of the same targets in another order. -/
theorem exists_perm_of_link (acyclic : world.IsAcyclic)
    (boundAreTargets : ∀ name ∈ collected.bound, name ∈ collected.targets.keys)
    (once : CompilesOnce world kinds collected)
    (targets : collected.targets.entries.Perm other.targets.entries)
    (bound : collected.bound.Perm other.bound) {linked : LinkedTargets}
    (link_eq : link world kinds collected = .ok linked) :
    ∃ otherLinked, link world kinds other = .ok otherLinked ∧
      linked.entries.Perm otherLinked.entries := by
  have sameTargets := Table.perm_entries_iff.1 targets
  have sameBound : ∀ name, name ∈ collected.bound ↔ name ∈ other.bound := fun _ => bound.mem_iff
  have otherBoundAreTargets : ∀ name ∈ other.bound, name ∈ other.targets.keys := by
    intro name isBound
    exact (targets.map Prod.fst).mem_iff.1 (boundAreTargets name ((sameBound name).2 isBound))
  obtain ⟨otherLinked, otherLink_eq⟩ :=
    exists_linked_of_isAcyclic acyclic kinds otherBoundAreTargets
  refine ⟨otherLinked, otherLink_eq, Table.perm_entries_iff.2 ?_⟩
  exact (areLinked_of_link acyclic once link_eq).get?_eq acyclic
    (areLinked_of_link acyclic (compilesOnce_congr once sameTargets sameBound) otherLink_eq)
    sameTargets sameBound

/-- In an acyclic hierarchy, linking the same targets in two orders gives the same linked targets,
which only stand in different orders. -/
theorem exists_link_perm (acyclic : world.IsAcyclic)
    (boundAreTargets : ∀ name ∈ collected.bound, name ∈ collected.targets.keys)
    (once : CompilesOnce world kinds collected)
    (targets : collected.targets.entries.Perm other.targets.entries)
    (bound : collected.bound.Perm other.bound) :
    ∃ linked otherLinked, link world kinds collected = .ok linked ∧
      link world kinds other = .ok otherLinked ∧
      linked.entries.Perm otherLinked.entries := by
  obtain ⟨linked, link_eq⟩ := exists_linked_of_isAcyclic acyclic kinds boundAreTargets
  obtain ⟨otherLinked, otherLink_eq, same⟩ :=
    exists_perm_of_link acyclic boundAreTargets once targets bound link_eq
  exact ⟨linked, otherLinked, link_eq, otherLink_eq, same⟩

/-- The stray targets, the compiled class last. -/
def strayTargetsUpward : Collected :=
  ⟨.ofList strayTargets.targets.entries.reverse, strayTargets.bound⟩

theorem link_strayTargetsUpward :
    link family ListenerKind.standard strayTargetsUpward =
      .ok (.ofList [("a.Right", ⟨bareTarget "a" "Right",
          some (.classpath (companionName "lib" ["Root"]) true)⟩),
        ("lib.Root", ⟨bareTarget "lib" "Root", none⟩)]) :=
  link_of_areReady (by decide +kernel) (by decide +kernel)

theorem isAcyclic_family : family.IsAcyclic := by decide +kernel

/-- With a target of a compiled class that is not bound, parents depend on the order. -/
theorem exists_parents_differ_of_perm :
    family.IsAcyclic ∧ (∀ name ∈ strayTargets.bound, name ∈ strayTargets.targets.keys) ∧
      strayTargets.targets.entries.Perm strayTargetsUpward.targets.entries ∧
      strayTargets.bound.Perm strayTargetsUpward.bound ∧
      ∃ linked otherLinked set otherSet,
        link family ListenerKind.standard strayTargets = .ok linked ∧
        link family ListenerKind.standard strayTargetsUpward = .ok otherLinked ∧
        linked.get? "a.Right" = some set ∧ otherLinked.get? "a.Right" = some otherSet ∧
        set.parent ≠ otherSet.parent :=
  ⟨isAcyclic_family, by decide, by decide +kernel, .refl _, _, _, _, _, link_strayTargets,
    link_strayTargetsUpward, rfl, rfl, by decide⟩

/-- The source classes of the family, those below first. -/
def familyTargets : Collected :=
  ⟨.ofList [("a.Last", bareTarget "a" "Last"), ("a.Inner", bareTarget "a" "Inner"),
    ("a.Left", { bareTarget "a" "Left" with groups := [.empty (.constant 1)] }),
    ("a.Right", bareTarget "a" "Right")], ["a.Last", "a.Inner", "a.Left", "a.Right"]⟩

/-- The same classes, those below last. -/
def familyTargetsDownward : Collected :=
  ⟨.ofList familyTargets.targets.entries.reverse, familyTargets.bound.reverse⟩

theorem exists_link_perm_family :
    family.IsAcyclic ∧ (∀ name ∈ familyTargets.bound, name ∈ familyTargets.targets.keys) ∧
      CompilesOnce family ListenerKind.standard familyTargets ∧
      familyTargets.targets.entries.Perm familyTargetsDownward.targets.entries ∧
      familyTargets.bound.Perm familyTargetsDownward.bound ∧
      ∃ linked otherLinked, link family ListenerKind.standard familyTargets = .ok linked ∧
        link family ListenerKind.standard familyTargetsDownward = .ok otherLinked ∧
        linked.entries.Perm otherLinked.entries := by
  have boundAreTargets : ∀ name ∈ familyTargets.bound, name ∈ familyTargets.targets.keys := by
    decide
  have once : CompilesOnce family ListenerKind.standard familyTargets :=
    compilesOnce_of_bound (by decide)
  have targets : familyTargets.targets.entries.Perm familyTargetsDownward.targets.entries := by
    decide +kernel
  have bound : familyTargets.bound.Perm familyTargetsDownward.bound := by decide
  exact ⟨isAcyclic_family, boundAreTargets, once, targets, bound,
    exists_link_perm isAcyclic_family boundAreTargets once targets bound⟩

end Linking
end Companion
