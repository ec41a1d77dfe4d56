import Companion.Linking
import Companion.Proofs.Universe.Superclasses

/-!
# The nearest companion above a class

Linking first enters the companions that were compiled earlier, walking up from each target as far
as the first class that is bound or entered already.  However these walks cut each other short, the
parent that is then looked up is the nearest superclass with a companion, as it can be read off the
declarations alone.
-/

namespace Companion
namespace Linking

variable {world : Universe} {kinds : List ListenerKind} {bound : List String}

/-- Whether a class was compiled earlier and carries a supported annotation on some member. -/
def isCompiled (kinds : List ListenerKind) (decl : TypeDecl) : Bool :=
  decl.origin = .classpath &&
    decl.members.any fun member => (Marker.names kinds).any member.carries

/-- Whether a class has a companion: it is bound in the round or was compiled with one. -/
def hasCompanion (kinds : List ListenerKind) (bound : List String) (decl : TypeDecl) : Bool :=
  decl.name ∈ bound || isCompiled kinds decl

/-- The first superclass of a class that has a companion. -/
def nearest? (world : Universe) (kinds : List ListenerKind) (bound : List String) (name : String) :
    Option TypeDecl :=
  (world.get? name).bind fun decl =>
    (world.superclasses decl).find? (hasCompanion kinds bound)

theorem hasCompanion_of_nearest? {name : String} {parent : TypeDecl}
    (found : nearest? world kinds bound name = some parent) :
    hasCompanion kinds bound parent = true := by
  obtain ⟨decl, -, found⟩ := Option.bind_eq_some_iff.1 found
  exact List.find?_some found

theorem isCompiled_of_nearest? {name : String} {parent : TypeDecl}
    (found : nearest? world kinds bound name = some parent) (unbound : parent.name ∉ bound) :
    isCompiled kinds parent = true := by
  simpa [hasCompanion, unbound] using hasCompanion_of_nearest? found

theorem get?_name_of_nearest? {name : String} {parent : TypeDecl}
    (found : nearest? world kinds bound name = some parent) :
    world.get? parent.name = some parent := by
  obtain ⟨decl, -, found⟩ := Option.bind_eq_some_iff.1 found
  exact Universe.get?_name_of_mem_superclasses (List.mem_of_find?_eq_some found)

theorem mem_names_iff {marker : String} :
    marker ∈ Marker.names kinds ↔
      Marker.needsView kinds marker = true ∨ Marker.isResource marker = true := by
  simp only [Marker.names, Marker.needsView, Marker.isResource, List.mem_append, List.mem_map,
    Bool.or_eq_true, List.any_eq_true, Bool.and_eq_true, Bool.not_eq_true', decide_eq_true_eq]
  constructor
  · rintro (⟨field, member, same⟩ | ⟨kind, member, same⟩)
    · cases views : field.bindsViews
      · exact .inr ⟨field, member, views, same⟩
      · exact .inl (.inl ⟨field, member, views, same⟩)
    · exact .inl (.inr ⟨kind, member, same⟩)
  · rintro ((⟨field, member, -, same⟩ | ⟨kind, member, same⟩) | ⟨field, member, -, same⟩)
    · exact .inl ⟨field, member, same⟩
    · exact .inr ⟨kind, member, same⟩
    · exact .inl ⟨field, member, same⟩

theorem mem_markersOf_iff {decl : TypeDecl} {marker : String} :
    marker ∈ markersOf decl ↔ ∃ member ∈ decl.members, member.carries marker = true := by
  simp [markersOf, Member.carries, Member.use?]

theorem isSome_needsViewOf? (needsView : Bool) (decl : TypeDecl) :
    (needsViewOf? kinds needsView decl).isSome = true ↔
      ∃ marker ∈ markersOf decl, marker ∈ Marker.names kinds := by
  simp only [needsViewOf?, mem_names_iff]
  split
  · rename_i views
    obtain ⟨marker, listed, view⟩ := List.any_eq_true.1 views
    exact ⟨fun _ => ⟨marker, listed, .inl view⟩, fun _ => rfl⟩
  · rename_i noView
    split
    · rename_i resources
      obtain ⟨marker, listed, resource⟩ := List.any_eq_true.1 resources
      exact ⟨fun _ => ⟨marker, listed, .inr resource⟩, fun _ => rfl⟩
    · rename_i noResource
      refine ⟨fun none_isSome => by simp at none_isSome, ?_⟩
      rintro ⟨marker, listed, view | resource⟩
      · exact absurd (List.any_eq_true.2 ⟨marker, listed, view⟩) noView
      · exact absurd (List.any_eq_true.2 ⟨marker, listed, resource⟩) noResource

theorem isSome_externalOf? (needsView : Bool) (decl : TypeDecl) :
    (externalOf? kinds needsView decl).isSome = isCompiled kinds decl := by
  rw [Bool.eq_iff_iff, externalOf?, isCompiled]
  split
  · rename_i compiled
    rw [Option.isSome_map, isSome_needsViewOf?]
    simp only [mem_markersOf_iff, compiled, decide_true, Bool.true_and, List.any_eq_true]
    exact ⟨fun ⟨marker, ⟨member, listed, carried⟩, supported⟩ =>
        ⟨member, listed, marker, supported, carried⟩,
      fun ⟨member, listed, marker, supported, carried⟩ =>
        ⟨marker, ⟨member, listed, carried⟩, supported⟩⟩
  · simp [*]

theorem companion_of_externalOf? {needsView : Bool} {decl : TypeDecl}
    {external : ExternalCompanion} (found : externalOf? kinds needsView decl = some external) :
    external.companion = companionName decl.package decl.simpleNames := by
  unfold externalOf? at found
  split at found
  · obtain ⟨_, -, rfl⟩ := Option.map_eq_some_iff.1 found
    rfl
  · simp at found

/-- Every companion entered belongs to a class of the universe that is not bound in the round and
was compiled with this companion. -/
def AreSound (world : Universe) (kinds : List ListenerKind) (bound : List String)
    (externals : Externals) : Prop :=
  ∀ name external, externals.get? name = some external →
    name ∉ bound ∧ ∃ decl, world.get? name = some decl ∧ isCompiled kinds decl = true ∧
      external.companion = companionName decl.package decl.simpleNames

theorem areSound_empty : AreSound world kinds bound .empty := by
  intro name external found
  simp at found

theorem AreSound.isCompiled {externals : Externals} (sound : AreSound world kinds bound externals)
    {decl : TypeDecl} (known : world.get? decl.name = some decl)
    (entered : decl.name ∈ externals.keys) : isCompiled kinds decl = true := by
  obtain ⟨external, found⟩ := Table.mem_keys_iff.1 entered
  obtain ⟨-, other, otherKnown, compiled, -⟩ := sound _ _ found
  rw [known] at otherKnown
  cases otherKnown
  exact compiled

theorem areSound_enter {state : Externals × Bool} (sound : AreSound world kinds bound state.1)
    {ancestor : TypeDecl} (known : world.get? ancestor.name = some ancestor)
    (unbound : ancestor.name ∉ bound) :
    AreSound world kinds bound (enter kinds state ancestor).1 := by
  unfold enter
  split
  · rename_i external entered
    intro name other found
    rw [Table.get?_insert] at found
    split at found
    · cases found
      rename_i same
      refine ⟨same ▸ unbound, ancestor, same ▸ known, ?_, companion_of_externalOf? entered⟩
      rw [← isSome_externalOf? state.2, entered]
      rfl
    · exact sound name other found
  · exact sound

theorem areSound_foldl_enter {ancestors : List TypeDecl} {state : Externals × Bool}
    (sound : AreSound world kinds bound state.1)
    (known : ∀ ancestor ∈ ancestors, world.get? ancestor.name = some ancestor)
    (unbound : ∀ ancestor ∈ ancestors, ancestor.name ∉ bound) :
    AreSound world kinds bound (ancestors.foldl (enter kinds) state).1 := by
  induction ancestors generalizing state with
  | nil => exact sound
  | cons ancestor rest ih =>
      refine ih (areSound_enter sound (known ancestor (by simp)) (unbound ancestor (by simp))) ?_ ?_
      · exact fun other later => known other (by simp [later])
      · exact fun other later => unbound other (by simp [later])

theorem mem_keys_enter {state : Externals × Bool} {ancestor : TypeDecl} {name : String} :
    name ∈ (enter kinds state ancestor).1.keys ↔
      name ∈ state.1.keys ∨ isCompiled kinds ancestor = true ∧ name = ancestor.name := by
  rw [← isSome_externalOf? state.2, enter]
  split
  · simp [*, or_comm]
  · simp [*]

theorem mem_keys_foldl_enter {ancestors : List TypeDecl} {state : Externals × Bool}
    {name : String} :
    name ∈ (ancestors.foldl (enter kinds) state).1.keys ↔
      name ∈ state.1.keys ∨
        ∃ ancestor ∈ ancestors, isCompiled kinds ancestor = true ∧ name = ancestor.name := by
  induction ancestors generalizing state with
  | nil => simp
  | cons ancestor rest ih => simp [ih, mem_keys_enter, or_assoc]

/-- The superclasses that are entered stand below the first one bound or entered before. -/
theorem fst_unvisited (externals : Externals) (ancestors : List TypeDecl) :
    (unvisited externals bound ancestors).1 =
      ancestors.takeWhile fun ancestor =>
        ancestor.name ∉ bound && ancestor.name ∉ externals.keys := by
  induction ancestors with
  | nil => rfl
  | cons ancestor rest ih =>
      simp only [unvisited, List.takeWhile_cons]
      split
      · simp [*]
      · split
        · rename_i found
          simp [Table.mem_keys_of_get? found]
        · rename_i absent
          simp [*, Table.get?_eq_none_iff.1 absent]

theorem areSound_enterAbove {externals : Externals} (sound : AreSound world kinds bound externals)
    (name : String) : AreSound world kinds bound (enterAbove world kinds bound externals name) := by
  unfold enterAbove
  split
  · exact sound
  · rename_i decl _
    refine areSound_foldl_enter sound ?_ ?_
    all_goals
      intro ancestor member
      rw [List.mem_reverse, fst_unvisited] at member
    · exact Universe.get?_name_of_mem_superclasses (List.takeWhile_subset _ member)
    · have passed := List.all_eq_true.1 List.all_takeWhile ancestor member
      simp only [Bool.and_eq_true, decide_eq_true_eq] at passed
      exact passed.1

theorem mem_keys_enterAbove {externals : Externals} {name : String} {other : String}
    (present : other ∈ externals.keys) :
    other ∈ (enterAbove world kinds bound externals name).keys := by
  unfold enterAbove
  split
  · exact present
  · exact mem_keys_foldl_enter.2 (.inl present)

/-- The first class with a companion on a superclass chain, when it is not bound, is entered. -/
def Covers (world : Universe) (kinds : List ListenerKind) (bound : List String) (name : String)
    (externals : Externals) : Prop :=
  ∀ parent, nearest? world kinds bound name = some parent → parent.name ∉ bound →
    parent.name ∈ externals.keys

theorem covers_enterAbove {externals : Externals} (sound : AreSound world kinds bound externals)
    (name : String) :
    Covers world kinds bound name (enterAbove world kinds bound externals name) := by
  intro parent found unbound
  have compiled := isCompiled_of_nearest? found unbound
  obtain ⟨decl, known, found⟩ := Option.bind_eq_some_iff.1 found
  obtain ⟨-, before, after, chain_eq, none_before⟩ := List.find?_eq_some_iff_append.1 found
  simp only [enterAbove, known]
  rw [mem_keys_foldl_enter]
  by_cases entered : parent.name ∈ externals.keys
  · exact .inl entered
  · refine .inr ⟨parent, ?_, compiled, rfl⟩
    rw [List.mem_reverse, fst_unvisited, chain_eq, List.takeWhile_append_of_pos, List.mem_append]
    · exact .inr (by simp [unbound, entered])
    · intro ancestor member
      have lacks : hasCompanion kinds bound ancestor = false := by
        simpa using none_before ancestor member
      simp only [hasCompanion, Bool.or_eq_false_iff, decide_eq_false_iff_not] at lacks
      have above : ancestor ∈ world.superclasses decl := by simp [chain_eq, member]
      have ancestorKnown := Universe.get?_name_of_mem_superclasses above
      have absent : ancestor.name ∉ externals.keys := fun present => by
        simp [sound.isCompiled ancestorKnown present] at lacks
      simp [lacks.1, absent]

theorem foldl_enterAbove (names : List String) {externals : Externals}
    (sound : AreSound world kinds bound externals) :
    AreSound world kinds bound (names.foldl (enterAbove world kinds bound) externals) ∧
      (∀ name ∈ externals.keys,
        name ∈ (names.foldl (enterAbove world kinds bound) externals).keys) ∧
      ∀ name ∈ names,
        Covers world kinds bound name (names.foldl (enterAbove world kinds bound) externals) := by
  induction names generalizing externals with
  | nil => exact ⟨sound, fun _ present => present, fun _ member => by simp at member⟩
  | cons name rest ih =>
      obtain ⟨restSound, grows, covers⟩ := ih (areSound_enterAbove sound name)
      refine ⟨restSound, fun other present => grows other (mem_keys_enterAbove present), ?_⟩
      intro other member
      rcases List.mem_cons.1 member with rfl | later
      · exact fun parent found unbound =>
          grows _ (covers_enterAbove sound other parent found unbound)
      · exact covers other later

/-- What is known of a round while its targets are linked. -/
def knownOf (world : Universe) (kinds : List ListenerKind) (collected : Collected) : Known :=
  ⟨world, collected.bound, externalsOf world kinds collected⟩

theorem areSound_externalsOf (collected : Collected) :
    AreSound world kinds collected.bound (externalsOf world kinds collected) :=
  (foldl_enterAbove collected.targets.keys areSound_empty).1

theorem covers_externalsOf {collected : Collected} {name : String}
    (target : name ∈ collected.targets.keys) :
    Covers world kinds collected.bound name (externalsOf world kinds collected) :=
  (foldl_enterAbove collected.targets.keys areSound_empty).2.2 name target

theorem external_of_bound {collected : Collected} {name : String}
    (isBound : name ∈ collected.bound) : (externalsOf world kinds collected).get? name = none := by
  rw [Table.get?_eq_none_iff, Table.mem_keys_iff]
  rintro ⟨external, found⟩
  exact (areSound_externalsOf collected _ _ found).1 isBound

/-- A nearest companion that is not bound is known with its name. -/
theorem external_of_nearest? {collected : Collected} {name : String} {parent : TypeDecl}
    (target : name ∈ collected.targets.keys)
    (found : nearest? world kinds collected.bound name = some parent)
    (unbound : parent.name ∉ collected.bound) :
    ∃ external, (externalsOf world kinds collected).get? parent.name = some external ∧
      external.companion = companionName parent.package parent.simpleNames := by
  obtain ⟨external, entered⟩ := Table.mem_keys_iff.1 (covers_externalsOf target _ found unbound)
  obtain ⟨-, decl, known, -, companion_eq⟩ := areSound_externalsOf collected _ _ entered
  rw [get?_name_of_nearest? found] at known
  cases known
  exact ⟨external, entered, companion_eq⟩

private theorem find?_eq_find? {α : Type} {items : List α} {strong weak : α → Bool}
    (weaker : ∀ item ∈ items, strong item = true → weak item = true)
    (reached : ∀ item, items.find? weak = some item → strong item = true) :
    items.find? strong = items.find? weak := by
  cases found : items.find? weak with
  | none =>
      rw [List.find?_eq_none] at found ⊢
      exact fun item member holds => found item member (weaker item member holds)
  | some item =>
      obtain ⟨-, before, after, items_eq, none_before⟩ := List.find?_eq_some_iff_append.1 found
      refine List.find?_eq_some_iff_append.2 ⟨reached item found, before, after, items_eq, ?_⟩
      intro other member
      have fails := none_before other member
      rw [Bool.not_eq_true'] at fails ⊢
      exact Bool.eq_false_iff.2 fun holds =>
        Bool.eq_false_iff.1 fails (weaker other (by simp [items_eq, member]) holds)

theorem parentName?_eq {collected : Collected} {name : String}
    (target : name ∈ collected.targets.keys) :
    parentName? (knownOf world kinds collected) name =
      (nearest? world kinds collected.bound name).map TypeDecl.name := by
  cases known : world.get? name with
  | none => simp [parentName?, nearest?, knownOf, known]
  | some decl =>
      simp only [parentName?, nearest?, knownOf, known, Option.bind_some]
      congr 1
      apply find?_eq_find?
      · intro ancestor member has
        simp only [Bool.or_eq_true, Table.contains_iff] at has
        simp only [hasCompanion, Bool.or_eq_true]
        exact has.imp_right ((areSound_externalsOf collected).isCompiled
          (Universe.get?_name_of_mem_superclasses member))
      · intro parent found
        simp only [Bool.or_eq_true, Table.contains_iff]
        by_cases isBound : parent.name ∈ collected.bound
        · exact .inl (decide_eq_true isBound)
        · exact .inr (covers_externalsOf target parent (by simp [nearest?, known, found]) isBound)

end Linking
end Companion
