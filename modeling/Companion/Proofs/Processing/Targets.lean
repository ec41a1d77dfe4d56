import Companion.Processing
import Companion.Proofs.Collection.Judgement
import Companion.Proofs.Linking.Order

/-!
# Targets of a round

Only classes in the sources of a round become targets, whatever the uses come to.  So a class that
was compiled with a companion is no target, and the linked targets of an acyclic round are told by
its declarations.
-/

namespace Companion
namespace Collection

variable {surroundings : Surroundings} {kinds : List ListenerKind} {collected : Collected}
  {use : Use}

/-- Whether all targets are of classes in the sources, and all bound classes have targets. -/
structure AreOfSources (world : Universe) (collected : Collected) : Prop where
  /-- Targets are of classes in the sources. -/
  source : ∀ name ∈ collected.targets.keys, ∃ decl, world.get? name = some decl ∧
    decl.origin = .source
  /-- Bound classes have targets. -/
  bound : ∀ name ∈ collected.bound, name ∈ collected.targets.keys

theorem areOfSources_keep (areOfSources : AreOfSources surroundings.world collected)
    (listed : use ∈ uses surroundings.world kinds) (target : Target) :
    AreOfSources surroundings.world (collected.keep use.site.decl.name target) := by
  refine ⟨?_, fun name isBound => Table.mem_keys_insert.2 (.inr (areOfSources.bound name isBound))⟩
  intro name present
  rcases Table.mem_keys_insert.1 present with rfl | old
  · have member := source_of_mem_uses listed
    exact ⟨_, Universe.get?_name_of_mem_sourceTypes member,
      of_decide_eq_true (List.mem_filter.1 member).2⟩
  · exact areOfSources.source name old

theorem areOfSources_accept (areOfSources : AreOfSources surroundings.world collected)
    (listed : use ∈ uses surroundings.world kinds) (target : Target) :
    AreOfSources surroundings.world (collected.accept use.site.decl.name target) := by
  have kept := areOfSources_keep areOfSources listed target
  refine ⟨kept.source, fun name isBound => ?_⟩
  rcases Listing.mem_addNew.1 isBound with old | rfl
  · exact kept.bound name old
  · exact Table.mem_keys_insert.2 (.inl rfl)

theorem areOfSources_outcome (areOfSources : AreOfSources surroundings.world collected)
    (listed : use ∈ uses surroundings.world kinds) :
    AreOfSources surroundings.world (use.outcome surroundings collected) := by
  rw [Use.outcome]
  split
  · cases judged_verdict surroundings collected use with
    | refused _ kept => rwa [kept]
    | accepted _ _ _ _ kept =>
        rw [kept]
        exact areOfSources_accept areOfSources listed _
    | stopped _ _ _ _ kept =>
        rw [kept]
        exact areOfSources_keep areOfSources listed _
  · exact areOfSources

theorem areOfSources_walk {progress : Progress} {remaining : List Use}
    (listed : ∀ use ∈ remaining, use ∈ uses surroundings.world kinds)
    (areOfSources : AreOfSources surroundings.world progress.collected) :
    AreOfSources surroundings.world (walk surroundings progress remaining).collected := by
  induction remaining generalizing progress with
  | nil => exact areOfSources
  | cons use rest ih =>
      refine @ih (use.step surroundings progress)
        (fun other later => listed other (List.mem_cons_of_mem use later)) ?_
      exact areOfSources_outcome areOfSources (listed use List.mem_cons_self)

theorem areOfSources_collect (environment : Environment) (kinds : List ListenerKind) :
    AreOfSources environment.world (collect environment kinds).collected := by
  rw [collect_eq_walk]
  have start : AreOfSources environment.world Collected.empty :=
    ⟨fun _ present => by simp [Collected.empty, Table.keys, Table.empty] at present,
      fun _ isBound => by simp [Collected.empty] at isBound⟩
  exact @areOfSources_walk (surroundingsOf environment kinds) kinds ⟨.empty, []⟩ _
    (fun _ listed => listed) start

theorem AreOfSources.source_of_bound {world : Universe}
    (areOfSources : AreOfSources world collected) {decl : TypeDecl}
    (known : world.get? decl.name = some decl)
    (isBound : decl.name ∈ collected.bound) : decl.origin = .source := by
  obtain ⟨other, otherKnown, source⟩ := areOfSources.source _ (areOfSources.bound _ isBound)
  rw [known] at otherKnown
  cases otherKnown
  exact source

theorem AreOfSources.compilesOnce {world : Universe}
    (areOfSources : AreOfSources world collected) (kinds : List ListenerKind) :
    Linking.CompilesOnce world kinds collected := by
  intro name _ parent nearest unbound target
  obtain ⟨other, otherKnown, source⟩ := areOfSources.source _ target
  rw [Linking.get?_name_of_nearest? nearest] at otherKnown
  cases otherKnown
  have compiled := Linking.classpath_of_isCompiled (Linking.isCompiled_of_nearest? nearest unbound)
  rw [source] at compiled
  cases compiled

end Collection

namespace Processing

variable {environment : Environment} {kinds : List ListenerKind}

theorem link_of_collect {name : String} {set : LinkedTarget}
    (found : (collect environment kinds).targets.get? name = some set) :
    Linking.link environment.world kinds (Collection.collect environment kinds).collected =
      .ok (collect environment kinds).targets := by
  unfold collect bindingsOf at found ⊢
  cases result : Linking.link environment.world kinds
      (Collection.collect environment kinds).collected with
  | ok linked => rfl
  | error stalled =>
      rw [result] at found
      simp at found

theorem link_of_isAcyclic (acyclic : environment.world.IsAcyclic) (kinds : List ListenerKind) :
    Linking.link environment.world kinds (Collection.collect environment kinds).collected =
      .ok (collect environment kinds).targets := by
  obtain ⟨linked, link_eq⟩ := Linking.exists_linked_of_isAcyclic acyclic kinds
    (Collection.areOfSources_collect environment kinds).bound
  rw [collect, bindingsOf, link_eq]

theorem areLinked_of_isAcyclic (acyclic : environment.world.IsAcyclic)
    (kinds : List ListenerKind) :
    Linking.AreLinked environment.world kinds (Collection.collect environment kinds).collected
      (collect environment kinds).targets :=
  Linking.areLinked_of_link acyclic
    ((Collection.areOfSources_collect environment kinds).compilesOnce kinds)
    (link_of_isAcyclic acyclic kinds)

/-- In an acyclic round every target that was collected is linked. -/
theorem exists_linked_of_collect (acyclic : environment.world.IsAcyclic) {name : String}
    (target : name ∈ (Collection.collect environment kinds).collected.targets.keys) :
    ∃ set, (collect environment kinds).targets.get? name = some set :=
  Table.mem_keys_iff.1 ((areLinked_of_isAcyclic acyclic kinds).keys.mem_iff.2 target)

/-- In an acyclic round a target is linked to the nearest companion above it, when that is made in
the same round. -/
theorem exists_parent_of_collect (acyclic : environment.world.IsAcyclic) {name parent : String}
    {set : LinkedTarget} (found : (collect environment kinds).targets.get? name = some set)
    (nearest : (Linking.nearest? environment.world kinds
      (Collection.collect environment kinds).collected.bound name).map TypeDecl.name = some parent)
    (bound : parent ∈ (Collection.collect environment kinds).collected.bound) :
    ∃ parentSet, (collect environment kinds).targets.get? parent = some parentSet ∧
      set.parent = some (parentSet.asParent parent) := by
  obtain ⟨decl, stands, rfl⟩ := Option.map_eq_some_iff.1 nearest
  exact (areLinked_of_isAcyclic acyclic kinds).round name set decl found stands bound

/-- In an acyclic round the linked targets do not depend on the order of collection. -/
theorem exists_perm_of_collect (acyclic : environment.world.IsAcyclic) {other : Collected}
    (targets : (Collection.collect environment kinds).collected.targets.entries.Perm
      other.targets.entries)
    (bound : (Collection.collect environment kinds).collected.bound.Perm other.bound) :
    ∃ linked, Linking.link environment.world kinds other = .ok linked ∧
      (collect environment kinds).targets.entries.Perm linked.entries := by
  have areOfSources := Collection.areOfSources_collect environment kinds
  exact Linking.exists_perm_of_link acyclic areOfSources.bound (areOfSources.compilesOnce kinds)
    targets bound (link_of_isAcyclic acyclic kinds)

end Processing
end Companion
