import Companion.Proofs.Processing.Targets

/-!
# Companions that take a view

The companion of a target takes a view when the target binds views or a class above it asks for
one.  What a class asks for is handed down from companion to companion, except where a compiled
class stands below a bound one: what is entered for compiled classes is read off annotations before
any target is linked, and so it tells nothing of the bound class and of all classes above it.
-/

namespace Companion
namespace Processing

open Linking

variable {world : Universe} {kinds : List ListenerKind} {bound : List String}
  {targets : LinkedTargets}

/-- Whether a class makes the companions below it take a view: it is bound in the round with views,
or was compiled with members that use views. -/
def AsksForView (kinds : List ListenerKind) (bound : List String) (targets : LinkedTargets)
    (decl : TypeDecl) : Prop :=
  (decl.name ∈ bound ∧ ∃ set, targets.get? decl.name = some set ∧ set.bindsViews = true) ∨
    decl.origin = .classpath ∧ usesViews kinds decl = true

/-- Whether no compiled class of a chain, given upward, stands below a bound one. -/
def IsUnbroken (kinds : List ListenerKind) (bound : List String) (chain : List TypeDecl) : Prop :=
  chain.Pairwise fun lower upper => isCompiled kinds lower = true → upper.name ∉ bound

/-- Whether some class of a chain asks for a view and the chain is unbroken as far as there. -/
def IsAsked (kinds : List ListenerKind) (bound : List String) (targets : LinkedTargets)
    (chain : List TypeDecl) : Prop :=
  ∃ below ancestor, below ++ [ancestor] <+: chain ∧
    AsksForView kinds bound targets ancestor ∧ IsUnbroken kinds bound (below ++ [ancestor])

theorem isCompiled_of_usesViews {decl : TypeDecl} (compiled : decl.origin = .classpath)
    (views : usesViews kinds decl = true) : isCompiled kinds decl = true := by
  obtain ⟨member, listed, carried⟩ := List.any_eq_true.1 views
  obtain ⟨marker, isView, carries⟩ := List.any_eq_true.1 carried
  have supported : marker ∈ Marker.names kinds :=
    mem_names_iff.2 (.inl (mem_viewMarkers_iff.1 isView))
  have marked : decl.members.any (fun member => (Marker.names kinds).any member.carries) = true :=
    List.any_eq_true.2 ⟨member, listed, List.any_eq_true.2 ⟨marker, supported, carries⟩⟩
  simp [isCompiled, compiled, marked]

theorem not_asksForView_of_plain {decl : TypeDecl} (plain : hasCompanion kinds bound decl = false) :
    ¬AsksForView kinds bound targets decl := by
  simp only [hasCompanion, Bool.or_eq_false_iff, decide_eq_false_iff_not] at plain
  rintro (⟨isBound, -⟩ | ⟨compiled, views⟩)
  · exact plain.1 isBound
  · rw [isCompiled_of_usesViews compiled views] at plain
    cases plain.2

theorem asksForView_of_unbound {decl : TypeDecl} (unbound : decl.name ∉ bound) :
    AsksForView kinds bound targets decl ↔
      isCompiled kinds decl = true ∧ usesViews kinds decl = true := by
  constructor
  · rintro (⟨isBound, -⟩ | ⟨compiled, views⟩)
    · exact absurd isBound unbound
    · exact ⟨isCompiled_of_usesViews compiled views, views⟩
  · rintro ⟨compiled, views⟩
    exact .inr ⟨classpath_of_isCompiled compiled, views⟩

private theorem exists_prefix_cons_iff {P : List TypeDecl → TypeDecl → Prop} {decl : TypeDecl}
    {chain : List TypeDecl} :
    (∃ below ancestor, below ++ [ancestor] <+: decl :: chain ∧ P (below ++ [ancestor]) ancestor) ↔
      P [decl] decl ∨
        ∃ below ancestor, below ++ [ancestor] <+: chain ∧
          P (decl :: (below ++ [ancestor])) ancestor := by
  constructor
  · rintro ⟨below, ancestor, isPrefix, holds⟩
    cases below with
    | nil =>
        obtain ⟨rfl, -⟩ := List.cons_prefix_cons.1 isPrefix
        exact .inl holds
    | cons first below =>
        rw [List.cons_append] at isPrefix holds
        obtain ⟨rfl, restPrefix⟩ := List.cons_prefix_cons.1 isPrefix
        exact .inr ⟨below, ancestor, restPrefix, holds⟩
  · rintro (holds | ⟨below, ancestor, isPrefix, holds⟩)
    · exact ⟨[], decl, List.cons_prefix_cons.2 ⟨rfl, List.nil_prefix⟩, holds⟩
    · exact ⟨decl :: below, ancestor, List.cons_prefix_cons.2 ⟨rfl, isPrefix⟩, holds⟩

theorem isUnbroken_cons_of_not_isCompiled {decl : TypeDecl} {chain : List TypeDecl}
    (uncompiled : isCompiled kinds decl = false) :
    IsUnbroken kinds bound (decl :: chain) ↔ IsUnbroken kinds bound chain := by
  simp [IsUnbroken, uncompiled]

theorem isUnbroken_cons_of_isCompiled {decl : TypeDecl} {chain : List TypeDecl}
    (compiled : isCompiled kinds decl = true) :
    IsUnbroken kinds bound (decl :: chain) ↔ ∀ upper ∈ chain, upper.name ∉ bound := by
  rw [IsUnbroken, List.pairwise_cons]
  constructor
  · rintro ⟨unbound, -⟩ upper member
    exact unbound upper member compiled
  · intro unbound
    refine ⟨fun upper member _ => unbound upper member, ?_⟩
    exact List.Pairwise.imp_of_mem (fun _ member _ _ => unbound _ member)
      (List.pairwise_of_forall fun _ _ => trivial)

theorem seesViews_iff {chain : List TypeDecl} :
    seesViews kinds bound chain = true ↔ ∃ below ancestor, below ++ [ancestor] <+: chain ∧
      (∀ decl ∈ below ++ [ancestor], decl.name ∉ bound) ∧
      isCompiled kinds ancestor = true ∧ usesViews kinds ancestor = true := by
  induction chain with
  | nil => simp
  | cons decl chain ih =>
      rw [exists_prefix_cons_iff (P := fun prefixed ancestor =>
        (∀ decl ∈ prefixed, decl.name ∉ bound) ∧
          isCompiled kinds ancestor = true ∧ usesViews kinds ancestor = true)]
      by_cases isBound : decl.name ∈ bound
      · simp [seesViews_cons_of_bound isBound, isBound]
      · simp [seesViews_cons_of_unbound isBound, isBound, ih]

theorem not_isAsked_nil : ¬IsAsked kinds bound targets [] := by
  rintro ⟨below, ancestor, isPrefix, -, -⟩
  simp at isPrefix

theorem isAsked_cons_iff {decl : TypeDecl} {chain : List TypeDecl} :
    IsAsked kinds bound targets (decl :: chain) ↔ AsksForView kinds bound targets decl ∨
      ∃ below ancestor, below ++ [ancestor] <+: chain ∧
        AsksForView kinds bound targets ancestor ∧
        IsUnbroken kinds bound (decl :: (below ++ [ancestor])) := by
  have alone : IsUnbroken kinds bound [decl] := List.pairwise_singleton _ _
  rw [IsAsked, exists_prefix_cons_iff (P := fun chain ancestor =>
    AsksForView kinds bound targets ancestor ∧ IsUnbroken kinds bound chain)]
  exact or_congr_left (and_iff_left alone)

theorem isAsked_cons_of_not_isCompiled {decl : TypeDecl} {chain : List TypeDecl}
    (uncompiled : isCompiled kinds decl = false) :
    IsAsked kinds bound targets (decl :: chain) ↔
      AsksForView kinds bound targets decl ∨ IsAsked kinds bound targets chain := by
  rw [isAsked_cons_iff]
  simp only [isUnbroken_cons_of_not_isCompiled uncompiled, IsAsked]

/-- Above a compiled class that is not bound, only compiled classes are asked, up to the first bound
one. -/
theorem isAsked_cons_of_isCompiled {decl : TypeDecl} {chain : List TypeDecl}
    (compiled : isCompiled kinds decl = true) (unbound : decl.name ∉ bound) :
    IsAsked kinds bound targets (decl :: chain) ↔
      (usesViews kinds decl || seesViews kinds bound chain) = true := by
  have asks_iff : AsksForView kinds bound targets decl ↔ usesViews kinds decl = true := by
    rw [asksForView_of_unbound unbound, compiled, eq_self, true_and]
  rw [isAsked_cons_iff, asks_iff, Bool.or_eq_true, seesViews_iff]
  simp only [isUnbroken_cons_of_isCompiled compiled]
  refine or_congr_right (exists₂_congr fun below ancestor => and_congr_right fun _ => ?_)
  constructor
  · rintro ⟨asks, upward⟩
    have isUnbound := upward ancestor (by simp)
    exact ⟨upward, (asksForView_of_unbound isUnbound).1 asks⟩
  · rintro ⟨upward, compiledWithViews⟩
    have isUnbound := upward ancestor (by simp)
    exact ⟨(asksForView_of_unbound isUnbound).2 compiledWithViews, upward⟩

theorem isAsked_append_of_plain {below chain : List TypeDecl}
    (plain : ∀ decl ∈ below, hasCompanion kinds bound decl = false) :
    IsAsked kinds bound targets (below ++ chain) ↔ IsAsked kinds bound targets chain := by
  induction below with
  | nil => rfl
  | cons decl below ih =>
      have lacks := plain decl List.mem_cons_self
      have uncompiled : isCompiled kinds decl = false := by
        simp only [hasCompanion, Bool.or_eq_false_iff] at lacks
        exact lacks.2
      rw [List.cons_append, isAsked_cons_of_not_isCompiled uncompiled,
        ih fun other member => plain other (List.mem_cons_of_mem decl member)]
      simp [not_asksForView_of_plain lacks]

theorem not_isAsked_of_plain {chain : List TypeDecl}
    (plain : ∀ decl ∈ chain, hasCompanion kinds bound decl = false) :
    ¬IsAsked kinds bound targets chain := by
  rw [← List.append_nil chain, isAsked_append_of_plain plain]
  exact not_isAsked_nil

/-- Over an unbroken chain, every class is asked. -/
theorem isAsked_iff_of_isUnbroken {chain : List TypeDecl}
    (unbroken : IsUnbroken kinds bound chain) :
    IsAsked kinds bound targets chain ↔
      ∃ ancestor ∈ chain, AsksForView kinds bound targets ancestor := by
  constructor
  · rintro ⟨below, ancestor, isPrefix, asks, -⟩
    exact ⟨ancestor, isPrefix.subset (by simp), asks⟩
  · rintro ⟨ancestor, member, asks⟩
    obtain ⟨below, above, rfl⟩ := List.append_of_mem member
    have isPrefix : below ++ [ancestor] <+: below ++ ancestor :: above := by simp
    exact ⟨below, ancestor, isPrefix, asks, unbroken.sublist isPrefix.sublist⟩

/-- What a target is told by its parent is what the chain above it says. -/
theorem needsView_iff_isAsked {collected : Collected} (acyclic : world.IsAcyclic)
    (areOfSources : Collection.AreOfSources world collected)
    (areLinked : AreLinked world kinds collected targets) {name : String} {set : LinkedTarget}
    (found : targets.get? name = some set) :
    set.needsView = true ↔ set.bindsViews = true ∨
      IsAsked kinds collected.bound targets (world.superclassesOf name) := by
  induction name using acyclic.induction generalizing set with
  | step name ih =>
      rw [LinkedTarget.needsView, Bool.or_eq_true]
      refine or_congr_right ?_
      cases nearest : nearest? world kinds collected.bound name with
      | none =>
          have lacks := hasCompanion_of_nearest?_eq_none nearest
          simp [areLinked.top name set found nearest, not_isAsked_of_plain lacks]
      | some parent =>
          obtain ⟨below, chain_eq, plain⟩ := chain_of_nearest? acyclic nearest
          rw [chain_eq, isAsked_append_of_plain plain]
          by_cases isBound : parent.name ∈ collected.bound
          · obtain ⟨parentSet, present, parent_eq⟩ :=
              areLinked.round name set parent found nearest isBound
            have source := areOfSources.source_of_bound (get?_name_of_nearest? nearest) isBound
            have uncompiled : isCompiled kinds parent = false := by simp [isCompiled, source]
            have asks_iff : AsksForView kinds collected.bound targets parent ↔
                parentSet.bindsViews = true := by
              simp [AsksForView, isBound, present, source]
            rw [parent_eq, isAsked_cons_of_not_isCompiled uncompiled, asks_iff]
            exact ih parent (mem_superclassesOf_of_nearest? nearest) present
          · have compiled := isCompiled_of_nearest? nearest isBound
            rw [areLinked.compiled name set parent found nearest isBound,
              isAsked_cons_of_isCompiled compiled isBound]
            rfl

/-- Where no compiled class stands below a bound one, all classes above a target are asked. -/
theorem needsView_iff_of_isUnbroken {environment : Environment}
    (acyclic : environment.world.IsAcyclic) {name : String} {set : LinkedTarget}
    (found : (collect environment kinds).targets.get? name = some set)
    (unbroken : IsUnbroken kinds (Collection.collect environment kinds).collected.bound
      (environment.world.superclassesOf name)) :
    set.needsView = true ↔ set.bindsViews = true ∨
      ∃ ancestor ∈ environment.world.superclassesOf name,
        AsksForView kinds (Collection.collect environment kinds).collected.bound
          (collect environment kinds).targets ancestor := by
  rw [← isAsked_iff_of_isUnbroken unbroken]
  exact needsView_iff_isAsked acyclic (Collection.areOfSources_collect environment kinds)
    (areLinked_of_isAcyclic acyclic kinds) found

/-- In an acyclic round, a companion takes a view exactly when its target binds views or when,
over an unbroken chain, some class above it asks for one. -/
theorem needsView_iff_of_collect {environment : Environment} (acyclic : environment.world.IsAcyclic)
    {name : String} {set : LinkedTarget}
    (found : (collect environment kinds).targets.get? name = some set) :
    set.needsView = true ↔ set.bindsViews = true ∨
      IsAsked kinds (Collection.collect environment kinds).collected.bound
        (collect environment kinds).targets (environment.world.superclassesOf name) :=
  needsView_iff_isAsked acyclic (Collection.areOfSources_collect environment kinds)
    (areLinked_of_isAcyclic acyclic kinds) found

/-- A class with one bound field. -/
def boundClass (name marker : String) (id : Int32) : TypeDecl :=
  (TypeDecl.ofName .classType name).withMember
    ((Member.field "item" (.named "java.lang.String")).annotated
      ⟨marker, .ofList [("value", .id (.literal id))]⟩)

/-- A chain of classes that are from the sources and compiled in turn.  Only the last of them uses
views. -/
def severedRound : Environment :=
  ⟨[(boundClass "a.Top" "BindString" 4).extending (.named "lib.Middle"),
    (boundClass "lib.Middle" "BindString" 3).onClasspath.extending (.named "a.Base"),
    (boundClass "a.Base" "BindString" 2).extending (.named "lib.Root"),
    (boundClass "lib.Root" "BindView" 1).onClasspath].foldl Universe.put Universe.empty,
    .empty, .empty⟩

theorem isAcyclic_severedRound : severedRound.world.IsAcyclic := by decide +kernel

theorem needsView_iff_severedRound :
    severedRound.world.IsAcyclic ∧
      ∃ set, (collect severedRound ListenerKind.standard).targets.get? "a.Base" = some set ∧
        (set.needsView = true ↔ set.bindsViews = true ∨
          IsAsked ListenerKind.standard
            (Collection.collect severedRound ListenerKind.standard).collected.bound
            (collect severedRound ListenerKind.standard).targets
            (severedRound.world.superclassesOf "a.Base")) := by
  have acyclic := isAcyclic_severedRound
  obtain ⟨set, found⟩ := @exists_linked_of_collect severedRound ListenerKind.standard acyclic
    "a.Base" (by decide +kernel)
  exact ⟨acyclic, set, found, needsView_iff_of_collect acyclic found⟩

/-- The last class of that chain asks for a view, which the first one does not hear of. -/
theorem exists_severed :
    severedRound.world.IsAcyclic ∧
      ∃ set, (collect severedRound ListenerKind.standard).targets.get? "a.Top" = some set ∧
        ¬(set.needsView = true ↔ set.bindsViews = true ∨
          ∃ ancestor ∈ severedRound.world.superclassesOf "a.Top",
            AsksForView ListenerKind.standard
              (Collection.collect severedRound ListenerKind.standard).collected.bound
              (collect severedRound ListenerKind.standard).targets ancestor) := by
  have acyclic := isAcyclic_severedRound
  obtain ⟨set, found⟩ := @exists_linked_of_collect severedRound ListenerKind.standard acyclic
    "a.Top" (by decide +kernel)
  refine ⟨acyclic, set, found, fun iff => ?_⟩
  have areLinked := areLinked_of_isAcyclic acyclic ListenerKind.standard
  have needsView_iff := needsView_iff_isAsked acyclic
    (Collection.areOfSources_collect severedRound ListenerKind.standard) areLinked found
  have chain_eq : severedRound.world.superclassesOf "a.Top" =
      (boundClass "lib.Middle" "BindString" 3).onClasspath.extending (.named "a.Base") ::
        severedRound.world.superclassesOf "lib.Middle" := by
    decide +kernel
  have root : (boundClass "lib.Root" "BindView" 1).onClasspath ∈
      severedRound.world.superclassesOf "a.Top" := by
    decide +kernel
  have bindsNothing : set.bindsViews = false := by
    have bindings_eq := areLinked.bindings _ _ found
    have collected_eq : ((Collection.collect severedRound
        ListenerKind.standard).collected.targets.get? "a.Top").map Target.bindsViews =
          some false := by
      decide +kernel
    rw [bindings_eq] at collected_eq
    exact Option.some.inj collected_eq
  have bound_eq : (Collection.collect severedRound ListenerKind.standard).collected.bound =
      ["a.Top", "a.Base"] := by
    decide +kernel
  have notAsked : ¬IsAsked ListenerKind.standard
      (Collection.collect severedRound ListenerKind.standard).collected.bound
      (collect severedRound ListenerKind.standard).targets
      (severedRound.world.superclassesOf "a.Top") := by
    rw [chain_eq, bound_eq, isAsked_cons_of_isCompiled (by decide +kernel) (by decide)]
    decide +kernel
  have needsView : set.needsView = true :=
    iff.2 (.inr ⟨_, root, .inr ⟨rfl, by decide +kernel⟩⟩)
  rcases needsView_iff.1 needsView with views | asked
  · rw [bindsNothing] at views
    cases views
  · exact notAsked asked

end Processing
end Companion
