import Companion.Proofs.Linking.Queue
import Companion.Proofs.Universe.Hierarchy

/-!
# Parents in acyclic hierarchies

The companion of a compiled class takes a view when the class uses views, or when a compiled class
above it does, as far as the first class that is bound in the round.  Whichever target the compiled
classes were first reached from, this is what is entered for them.  When no class is above itself,
linking succeeds, and the parent of each target can be read off the declarations and the other
targets.
-/

namespace Companion
namespace Linking

variable {world : Universe} {kinds : List ListenerKind} {bound : List String}

/-- The annotations that make a companion take a view. -/
def viewMarkers (kinds : List ListenerKind) : List String :=
  [FieldMarker.bindView.name, FieldMarker.bindViews.name] ++ kinds.map ListenerKind.marker

/-- Whether some member of a class is bound to a view. -/
def usesViews (kinds : List ListenerKind) (decl : TypeDecl) : Bool :=
  decl.members.any fun member => (viewMarkers kinds).any member.carries

/-- Whether some compiled class of a chain uses views, up to the first bound class. -/
def seesViews (kinds : List ListenerKind) (bound : List String) (chain : List TypeDecl) : Bool :=
  (chain.takeWhile fun decl => decl.name ∉ bound).any fun decl =>
    isCompiled kinds decl && usesViews kinds decl

theorem mem_viewMarkers_iff {marker : String} :
    marker ∈ viewMarkers kinds ↔ Marker.needsView kinds marker = true := by
  simp only [viewMarkers, Marker.needsView, FieldMarker.all, List.mem_append, List.mem_cons,
    List.not_mem_nil, or_false, List.mem_map, List.any_cons, List.any_nil, FieldMarker.bindsViews,
    Bool.false_and, Bool.true_and, Bool.false_or, Bool.or_false, Bool.or_eq_true,
    decide_eq_true_eq, List.any_eq_true, @eq_comm _ marker]

theorem any_needsView_markersOf (decl : TypeDecl) :
    (markersOf decl).any (Marker.needsView kinds) = usesViews kinds decl := by
  rw [Bool.eq_iff_iff, usesViews]
  simp only [List.any_eq_true, mem_markersOf_iff, ← mem_viewMarkers_iff]
  exact ⟨fun ⟨marker, ⟨member, listed, carried⟩, views⟩ => ⟨member, listed, marker, views, carried⟩,
    fun ⟨member, listed, marker, views, carried⟩ => ⟨marker, ⟨member, listed, carried⟩, views⟩⟩

/-- What is entered for a compiled class. -/
theorem externalOf?_eq (needsView : Bool) (decl : TypeDecl) :
    externalOf? kinds needsView decl =
      if isCompiled kinds decl then
        some ⟨companionName decl.package decl.simpleNames, usesViews kinds decl || needsView⟩
      else none := by
  have isSome_eq := @isSome_externalOf? kinds needsView decl
  cases compiled : isCompiled kinds decl with
  | false => simpa [compiled] using isSome_eq
  | true =>
      obtain ⟨external, found⟩ := Option.isSome_iff_exists.1 (isSome_eq.trans compiled)
      have companion_eq := companion_of_externalOf? found
      have needsView_eq : external.needsView = (usesViews kinds decl || needsView) := by
        rw [← any_needsView_markersOf]
        unfold externalOf? needsViewOf? at found
        split at found
        · obtain ⟨flag, flag_eq, rfl⟩ := Option.map_eq_some_iff.1 found
          split at flag_eq
          · rename_i views
            cases flag_eq
            simp [views]
          · rename_i noViews
            split at flag_eq
            · cases flag_eq
              simp [noViews]
            · cases flag_eq
        · cases found
      rw [if_pos rfl, found, ← companion_eq, ← needsView_eq]

@[simp]
theorem seesViews_nil : seesViews kinds bound [] = false := rfl

theorem seesViews_cons_of_bound {decl : TypeDecl} {chain : List TypeDecl}
    (isBound : decl.name ∈ bound) : seesViews kinds bound (decl :: chain) = false := by
  simp [seesViews, isBound]

theorem seesViews_cons_of_unbound {decl : TypeDecl} {chain : List TypeDecl}
    (unbound : decl.name ∉ bound) :
    seesViews kinds bound (decl :: chain) =
      (isCompiled kinds decl && usesViews kinds decl || seesViews kinds bound chain) := by
  simp [seesViews, unbound]

/-- Every companion entered takes a view exactly when its class or the chain above it says so. -/
def AreExact (world : Universe) (kinds : List ListenerKind) (bound : List String)
    (externals : Externals) : Prop :=
  ∀ name external, externals.get? name = some external → ∃ decl, world.get? name = some decl ∧
    external.needsView =
      (usesViews kinds decl || seesViews kinds bound (world.superclasses decl))

theorem areExact_empty : AreExact world kinds bound .empty := by
  intro name external found
  simp at found

/-- Entering one class keeps what is entered exact, and goes on with what its chain says. -/
theorem areExact_enter {state : Externals × Bool} {decl : TypeDecl}
    (exact : AreExact world kinds bound state.1) (known : world.get? decl.name = some decl)
    (unbound : decl.name ∉ bound)
    (flag : state.2 = seesViews kinds bound (world.superclasses decl)) :
    AreExact world kinds bound (enter kinds state decl).1 ∧
      (enter kinds state decl).2 = seesViews kinds bound (decl :: world.superclasses decl) := by
  rw [seesViews_cons_of_unbound unbound, enter, externalOf?_eq, flag]
  cases compiled : isCompiled kinds decl with
  | false => exact ⟨exact, by simp [flag]⟩
  | true =>
      refine ⟨?_, by simp [Bool.or_left_comm]⟩
      intro name external found
      simp only [if_true, Table.get?_insert] at found
      split at found
      · rename_i same
        cases found
        exact ⟨decl, same ▸ known, rfl⟩
      · exact exact name external found

/-- Entering the classes at the start of a chain from the last one downward. -/
theorem areExact_foldl_enter (acyclic : world.IsAcyclic) {decl : TypeDecl}
    {ancestors rest : List TypeDecl} {externals : Externals} {needsView : Bool}
    (known : world.get? decl.name = some decl)
    (chain_eq : world.superclasses decl = ancestors ++ rest)
    (unbound : ∀ ancestor ∈ ancestors, ancestor.name ∉ bound)
    (exact : AreExact world kinds bound externals)
    (flag : needsView = seesViews kinds bound rest) :
    let state := ancestors.reverse.foldl (enter kinds) (externals, needsView)
    AreExact world kinds bound state.1 ∧ state.2 = seesViews kinds bound (ancestors ++ rest) := by
  induction ancestors generalizing decl with
  | nil => exact ⟨exact, flag⟩
  | cons ancestor ancestors ih =>
      have member : ancestor ∈ world.superclasses decl := by simp [chain_eq]
      have ancestorKnown := Universe.get?_name_of_mem_superclasses member
      have above : world.superclasses ancestor = ancestors ++ rest :=
        Universe.superclasses_of_cons acyclic known chain_eq
      obtain ⟨stateExact, stateFlag⟩ := ih ancestorKnown above
        fun other member => unbound other (List.mem_cons_of_mem ancestor member)
      rw [← above] at stateFlag
      simp only [List.reverse_cons, List.foldl_append, List.foldl_cons, List.foldl_nil,
        List.cons_append]
      rw [← above]
      exact areExact_enter stateExact ancestorKnown (unbound ancestor List.mem_cons_self) stateFlag

/-- The walk upward stops at the top, at a bound class or at one entered before, and tells what
the chain from there on says. -/
theorem unvisited_eq (acyclic : world.IsAcyclic) {externals : Externals}
    (sound : AreSound world kinds bound externals) (exact : AreExact world kinds bound externals)
    {decl : TypeDecl} (known : world.get? decl.name = some decl) {chain : List TypeDecl}
    (chain_eq : world.superclasses decl = chain) :
    ∃ ancestors rest, chain = ancestors ++ rest ∧
      (∀ ancestor ∈ ancestors, ancestor.name ∉ bound) ∧
      unvisited externals bound chain = (ancestors, seesViews kinds bound rest) := by
  induction chain generalizing decl with
  | nil => exact ⟨[], [], rfl, by simp, rfl⟩
  | cons ancestor chain ih =>
      have member : ancestor ∈ world.superclasses decl := by simp [chain_eq]
      have ancestorKnown := Universe.get?_name_of_mem_superclasses member
      have above := Universe.superclasses_of_cons acyclic known chain_eq
      rw [unvisited]
      by_cases isBound : ancestor.name ∈ bound
      · refine ⟨[], _, rfl, by simp, ?_⟩
        rw [if_pos isBound, seesViews_cons_of_bound isBound]
      · rw [if_neg isBound]
        cases entered : externals.get? ancestor.name with
        | some external =>
            refine ⟨[], _, rfl, by simp, ?_⟩
            obtain ⟨other, otherKnown, needsView_eq⟩ := exact _ _ entered
            rw [ancestorKnown] at otherKnown
            cases otherKnown
            have compiled := sound.isCompiled ancestorKnown (Table.mem_keys_of_get? entered)
            simp [seesViews_cons_of_unbound isBound, compiled, needsView_eq, above]
        | none =>
            obtain ⟨ancestors, rest, chain_split, unbound, walk_eq⟩ := ih ancestorKnown above
            refine ⟨ancestor :: ancestors, rest, by rw [chain_split]; rfl, ?_, by rw [walk_eq]⟩
            rintro other (_ | ⟨_, member⟩)
            · exact isBound
            · exact unbound other member

theorem areExact_enterAbove (acyclic : world.IsAcyclic) {externals : Externals}
    (sound : AreSound world kinds bound externals) (exact : AreExact world kinds bound externals)
    (name : String) : AreExact world kinds bound (enterAbove world kinds bound externals name) := by
  unfold enterAbove
  split
  · exact exact
  · rename_i decl found
    have known : world.get? decl.name = some decl := by rwa [Universe.name_of_get? found]
    obtain ⟨ancestors, rest, chain_eq, unbound, walk_eq⟩ :=
      unvisited_eq acyclic sound exact known rfl
    rw [walk_eq]
    exact (areExact_foldl_enter acyclic known chain_eq unbound exact rfl).1

theorem areExact_externalsOf (acyclic : world.IsAcyclic) (collected : Collected) :
    AreExact world kinds collected.bound (externalsOf world kinds collected) := by
  have exact_foldl : ∀ (names : List String) (externals : Externals),
      AreSound world kinds collected.bound externals →
      AreExact world kinds collected.bound externals →
      AreExact world kinds collected.bound
        (names.foldl (enterAbove world kinds collected.bound) externals) := by
    intro names
    induction names with
    | nil => exact fun _ _ exact => exact
    | cons name rest ih =>
        exact fun externals sound exact =>
          ih _ (areSound_enterAbove sound name) (areExact_enterAbove acyclic sound exact name)
  exact exact_foldl _ _ areSound_empty areExact_empty

theorem classpath_of_isCompiled {decl : TypeDecl} (compiled : isCompiled kinds decl = true) :
    decl.origin = .classpath := by
  simp only [isCompiled, Bool.and_eq_true, decide_eq_true_eq] at compiled
  exact compiled.1

theorem nearest?_eq (name : String) :
    nearest? world kinds bound name =
      (world.superclassesOf name).find? (hasCompanion kinds bound) := by
  cases known : world.get? name with
  | none => simp [nearest?, Universe.superclassesOf, known]
  | some decl => simp [nearest?, Universe.superclassesOf, known]

theorem mem_superclassesOf_of_nearest? {name : String} {parent : TypeDecl}
    (nearest : nearest? world kinds bound name = some parent) :
    parent ∈ world.superclassesOf name := by
  rw [nearest?_eq] at nearest
  exact List.mem_of_find?_eq_some nearest

theorem chain_of_nearest? (acyclic : world.IsAcyclic) {name : String} {parent : TypeDecl}
    (nearest : nearest? world kinds bound name = some parent) :
    ∃ below, world.superclassesOf name = below ++ parent :: world.superclassesOf parent.name ∧
      ∀ decl ∈ below, hasCompanion kinds bound decl = false := by
  rw [nearest?_eq] at nearest
  obtain ⟨-, below, above, chain_eq, plain⟩ := List.find?_eq_some_iff_append.1 nearest
  refine ⟨below, ?_, fun decl member => by simpa using plain decl member⟩
  rw [chain_eq, Universe.superclassesOf_of_append acyclic chain_eq]

theorem hasCompanion_of_nearest?_eq_none {name : String}
    (top : nearest? world kinds bound name = none) :
    ∀ decl ∈ world.superclassesOf name, hasCompanion kinds bound decl = false := by
  rw [nearest?_eq, List.find?_eq_none] at top
  exact fun decl member => by simpa using top decl member

theorem seesViews_append_of_plain {below rest : List TypeDecl}
    (plain : ∀ decl ∈ below, hasCompanion kinds bound decl = false) :
    seesViews kinds bound (below ++ rest) = seesViews kinds bound rest := by
  induction below with
  | nil => rfl
  | cons decl below ih =>
      have lacks := plain decl List.mem_cons_self
      simp only [hasCompanion, Bool.or_eq_false_iff, decide_eq_false_iff_not] at lacks
      rw [List.cons_append, seesViews_cons_of_unbound lacks.1, lacks.2, Bool.false_and,
        Bool.false_or]
      exact ih fun other member => plain other (List.mem_cons_of_mem decl member)

theorem seesViews_of_top {name : String} (top : nearest? world kinds bound name = none) :
    seesViews kinds bound (world.superclassesOf name) = false := by
  rw [← List.append_nil (world.superclassesOf name),
    seesViews_append_of_plain (hasCompanion_of_nearest?_eq_none top)]
  rfl

/-- Past plain classes, a chain says what its nearest compiled companion does. -/
theorem seesViews_of_compiled (acyclic : world.IsAcyclic) {name : String} {parent : TypeDecl}
    (nearest : nearest? world kinds bound name = some parent) (unbound : parent.name ∉ bound) :
    seesViews kinds bound (world.superclassesOf name) =
      (usesViews kinds parent || seesViews kinds bound (world.superclassesOf parent.name)) := by
  obtain ⟨below, chain_eq, plain⟩ := chain_of_nearest? acyclic nearest
  rw [chain_eq, seesViews_append_of_plain plain, seesViews_cons_of_unbound unbound,
    isCompiled_of_nearest? nearest unbound, Bool.true_and]

variable {collected : Collected}

/-- Every link to a compiled companion tells what was entered for it. -/
def AreEntered (known : Known) (linked : LinkedTargets) : Prop :=
  ∀ name set companion needsView, linked.get? name = some set →
    set.parent = some (.classpath companion needsView) →
    ∃ parent external, parentName? known name = some parent ∧
      known.externals.get? parent = some external ∧ external.needsView = needsView

theorem entered_of_linkOf {known : Known} {linked : LinkedTargets} {name : String}
    {companion : ClassName} {needsView : Bool}
    (ready : linkOf known linked name = .ready (some (.classpath companion needsView))) :
    ∃ parent external, parentName? known name = some parent ∧
      known.externals.get? parent = some external ∧ external.needsView = needsView := by
  unfold linkOf at ready
  split at ready
  · cases ready
  · rename_i parent found
    split at ready
    · cases ready
    · split at ready
      · rename_i external entered
        cases ready
        exact ⟨parent, external, found, entered, rfl⟩
      · cases ready

theorem areEntered_run {known : Known} {linked result : LinkedTargets} {deferred : Nat}
    {queue : List (String × Target)} (entered : AreEntered known linked)
    (run_eq : run known linked deferred queue = .ok result) : AreEntered known result := by
  fun_induction run known linked deferred queue with
  | case1 => cases run_eq; exact entered
  | case2 linked deferred name target rest parent ready ih =>
      refine ih ?_ run_eq
      intro other set companion needsView found parent_eq
      rw [Table.get?_insert] at found
      split at found
      · rename_i same
        cases found
        subst same parent_eq
        exact entered_of_linkOf ready
      · exact entered other set companion needsView found parent_eq
  | case3 => cases run_eq
  | case4 _ _ _ _ _ _ _ _ ih => exact ih entered run_eq

/-- A compiled class whose companion is the nearest one of a target is not a target itself, unless
it is bound again.  This is so of all targets that are of classes in the sources. -/
def CompilesOnce (world : Universe) (kinds : List ListenerKind) (collected : Collected) : Prop :=
  ∀ name ∈ collected.targets.keys, ∀ parent,
    nearest? world kinds collected.bound name = some parent → parent.name ∉ collected.bound →
    parent.name ∉ collected.targets.keys

theorem compilesOnce_of_bound
    (bound : ∀ name ∈ collected.targets.keys, name ∈ collected.bound) :
    CompilesOnce world kinds collected :=
  fun _ _ _ _ unbound target => unbound (bound _ target)

/-- The parents of all targets, as the declarations and the other targets tell them. -/
structure AreLinked (world : Universe) (kinds : List ListenerKind) (collected : Collected)
    (linked : LinkedTargets) : Prop where
  /-- Each target is linked once. -/
  keys : linked.keys.Perm collected.targets.keys
  /-- A linked target has the bindings that were collected. -/
  bindings : ∀ name set, linked.get? name = some set →
    collected.targets.get? name = some set.toTarget
  /-- Without a companion above it, a target has no parent. -/
  top : ∀ name set, linked.get? name = some set →
    nearest? world kinds collected.bound name = none → set.parent = none
  /-- A bound class is the parent as it is linked itself. -/
  round : ∀ name set parent, linked.get? name = some set →
    nearest? world kinds collected.bound name = some parent → parent.name ∈ collected.bound →
    ∃ parentSet, linked.get? parent.name = some parentSet ∧
      set.parent = some (parentSet.asParent parent.name)
  /-- A compiled class is the parent as its declaration and the chain above it tell. -/
  compiled : ∀ name set parent, linked.get? name = some set →
    nearest? world kinds collected.bound name = some parent → parent.name ∉ collected.bound →
    set.parent = some (.classpath (companionName parent.package parent.simpleNames)
      (usesViews kinds parent ||
        seesViews kinds collected.bound (world.superclassesOf parent.name)))

theorem not_isEndless_of_isAcyclic (acyclic : world.IsAcyclic) (name : String) :
    ¬IsEndless world kinds bound name := by
  induction name using acyclic.induction with
  | step name ih =>
      cases step : awaited? world kinds bound name with
      | none => exact not_isEndless_of_awaited?_eq_none step
      | some next =>
          obtain ⟨parent, nearest, -, rfl⟩ := awaited?_eq_some_iff.1 step
          exact not_isEndless_of_awaited? step
            (ih parent (mem_superclassesOf_of_nearest? nearest))

/-- Without endless targets, all targets are linked. -/
theorem exists_linked_of_not_isEndless (world : Universe) (kinds : List ListenerKind)
    {collected : Collected}
    (boundAreTargets : ∀ name ∈ collected.bound, name ∈ collected.targets.keys)
    (ends : ∀ name ∈ collected.targets.keys, ¬IsEndless world kinds collected.bound name) :
    ∃ linked, link world kinds collected = .ok linked := by
  have outcome := isOutcome_link world kinds collected
  cases result : link world kinds collected with
  | ok linked => exact ⟨linked, rfl⟩
  | error stalled =>
      rw [result] at outcome
      obtain ⟨linked, queue, halfway, nonempty, allWait, -⟩ := outcome
      obtain ⟨entry, queued⟩ := List.exists_mem_of_ne_nil queue nonempty
      exact absurd (halfway.isEndless boundAreTargets allWait (List.mem_map_of_mem queued))
        (ends entry.1 (halfway.mem_keys queued))

theorem exists_linked_of_isAcyclic (acyclic : world.IsAcyclic) (kinds : List ListenerKind)
    {collected : Collected}
    (boundAreTargets : ∀ name ∈ collected.bound, name ∈ collected.targets.keys) :
    ∃ linked, link world kinds collected = .ok linked :=
  exists_linked_of_not_isEndless world kinds boundAreTargets
    fun name _ => not_isEndless_of_isAcyclic acyclic name

theorem areLinked_of_link (acyclic : world.IsAcyclic)
    (once : CompilesOnce world kinds collected) {linked : LinkedTargets}
    (link_eq : link world kinds collected = .ok linked) :
    AreLinked world kinds collected linked := by
  have outcome := isOutcome_link world kinds collected
  rw [link_eq] at outcome
  have isLinking := outcome.isLinking
  have entered : AreEntered (knownOf world kinds collected) linked :=
    areEntered_run (fun _ _ _ _ found => by simp at found) link_eq
  refine ⟨isLinking.keys, isLinking.bindings, isLinking.top, isLinking.round, ?_⟩
  intro name set parent found nearest unbound
  have target : name ∈ collected.targets.keys :=
    isLinking.keys.mem_iff.1 (Table.mem_keys_of_get? found)
  obtain ⟨needsView, parent_eq⟩ := isLinking.classpath_of_not_mem_keys found nearest unbound
    (once name target parent nearest unbound)
  obtain ⟨other, external, other_eq, isEntered, rfl⟩ := entered _ _ _ _ found parent_eq
  rw [parentName?_eq target, nearest] at other_eq
  cases other_eq
  obtain ⟨decl, known, needsView_eq⟩ := areExact_externalsOf acyclic collected _ _ isEntered
  rw [get?_name_of_nearest? nearest] at known
  cases known
  rw [parent_eq, needsView_eq,
    Universe.superclassesOf_of_get? (get?_name_of_nearest? nearest)]

end Linking
end Companion
