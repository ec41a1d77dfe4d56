import Companion.Proofs.Processing.Targets

/-!
# Why a target binds what it binds

Whatever a target binds, some member of its class warrants.  This holds of a target without
bindings, and each addition that a use makes to a target keeps it, be it made completely or only
for the first of several ids.  Linking keeps the bindings as they were collected.
-/

namespace Companion
namespace Collection

open Diagnostic

/-- Whether some member of a class warrants an addition by carrying a marker. -/
def IsWarranted (surroundings : Surroundings) (decl : TypeDecl) (request : Request)
    (addition : Addition) : Prop :=
  ∃ member ∈ decl.members, Warrants surroundings ⟨decl, member⟩ request addition

/-- The ids of views that an addition is for. -/
def Addition.viewIds : Addition → List ResourceId
  | .view id _ => [id]
  | .methods _ _ _ ids => ids
  | .views _ | .resource _ => []

/-- Whether a group of a target binds only what members of the class warrant. -/
structure IsJustifiedGroup (surroundings : Surroundings) (kinds : List ListenerKind)
    (decl : TypeDecl) (group : ViewGroup) : Prop where
  /-- The id is one that a member is annotated with, as it is resolved. -/
  id : ∃ request addition, IsWarranted surroundings decl request addition ∧
    group.id ∈ addition.viewIds
  /-- A field of the class warrants the field, for an id that means the same. -/
  field : ∀ field, group.field = some field → ∃ id,
    IsWarranted surroundings decl (.field .bindView) (.view id field) ∧ group.id.same id = true
  /-- The listeners are of the kinds looked for. -/
  kind : ∀ listener ∈ group.listeners, listener.kind ∈ kinds
  /-- A method of the class warrants each method, under its callback and for several ids of which
  one means the same. -/
  method : ∀ listener ∈ group.listeners, ∀ bound ∈ listener.callbacks, ∀ method ∈ bound.methods,
    ∃ ids, IsWarranted surroundings decl (.listener listener.kind)
      (.methods listener.kind bound.callback method ids) ∧ ∃ id ∈ ids, group.id.same id = true

/-- Whether a target is that of an open class in the sources and binds only what members of the
class warrant. -/
structure IsJustified (surroundings : Surroundings) (kinds : List ListenerKind)
    (decl : TypeDecl) (target : Target) : Prop where
  /-- The class is in the sources of the round. -/
  source : decl.origin = .source
  /-- It is a class. -/
  isClass : decl.kind = .classType
  /-- It is not private. -/
  visible : decl.has .privateAccess = false
  /-- It is not a class of the Android framework. -/
  notAndroid : ¬"android.".toList <+: decl.name.toList
  /-- It is not a class of the Java library. -/
  notJava : ¬"java.".toList <+: decl.name.toList
  /-- The target is named after the class. -/
  type : ∃ name, decl.className = .ok name ∧ target.type = .classType name
  /-- So is its companion. -/
  companion : target.companion = companionName decl.package decl.simpleNames
  /-- The fields and methods of all groups are warranted. -/
  group : ∀ group ∈ target.groups, IsJustifiedGroup surroundings kinds decl group
  /-- The collections are warranted. -/
  collection : ∀ collection ∈ target.collections,
    IsWarranted surroundings decl (.field .bindViews) (.views collection)
  /-- The resources are warranted. -/
  resource : ∀ resource ∈ target.resources, ∃ marker,
    IsWarranted surroundings decl (.field marker) (.resource resource)

variable {surroundings : Surroundings} {kinds : List ListenerKind} {decl : TypeDecl}

theorem isJustifiedGroup_empty {id : ResourceId} {request : Request} {addition : Addition}
    (warranted : IsWarranted surroundings decl request addition) (listed : id ∈ addition.viewIds) :
    IsJustifiedGroup surroundings kinds decl (.empty id) where
  id := ⟨request, addition, warranted, listed⟩
  field := fun _ bound => by simp [ViewGroup.empty] at bound
  kind := fun _ member => by simp [ViewGroup.empty] at member
  method := fun _ member => by simp [ViewGroup.empty] at member

theorem isJustifiedGroup_withField {group : ViewGroup} {field : FieldBinding} {id : ResourceId}
    (justified : IsJustifiedGroup surroundings kinds decl group)
    (warranted : IsWarranted surroundings decl (.field .bindView) (.view id field))
    (same : group.id.same id = true) :
    IsJustifiedGroup surroundings kinds decl { group with field := some field } where
  id := justified.id
  field := by
    rintro _ ⟨⟩
    exact ⟨id, warranted, same⟩
  kind := justified.kind
  method := justified.method

/-- Whether a listener on the view of an id has only methods that members of the class warrant. -/
def IsJustifiedListener (surroundings : Surroundings) (decl : TypeDecl) (id : ResourceId)
    (listener : ListenerBinding) : Prop :=
  ∀ bound ∈ listener.callbacks, ∀ method ∈ bound.methods,
    ∃ ids, IsWarranted surroundings decl (.listener listener.kind)
      (.methods listener.kind bound.callback method ids) ∧ ∃ other ∈ ids, id.same other = true

theorem isJustifiedListener_add {listener : ListenerBinding} {callback : Callback}
    {method : MethodBinding} {id other : ResourceId} {ids : List ResourceId}
    (justified : IsJustifiedListener surroundings decl id listener)
    (warranted : IsWarranted surroundings decl (.listener listener.kind)
      (.methods listener.kind callback method ids))
    (listed : other ∈ ids) (same : id.same other = true) :
    IsJustifiedListener surroundings decl id (listener.add callback method) := by
  -- the callback binding that takes the method is of that very callback
  have taken : ∀ first, (listener.callbacks.find? fun bound => bound.callback = callback).getD
      ⟨callback, []⟩ = first → first.callback = callback ∧
      (first.methods = [] ∨ first ∈ listener.callbacks) := by
    rintro first rfl
    cases found : listener.callbacks.find? fun bound => bound.callback = callback with
    | none => exact ⟨rfl, .inl rfl⟩
    | some first =>
        exact ⟨by simpa using List.find?_some found, .inr (List.mem_of_find?_eq_some found)⟩
  intro bound member present isBound
  rcases Listing.mem_alter member with old | rfl
  · exact justified bound old present isBound
  · generalize first_eq : (listener.callbacks.find? fun bound => bound.callback = callback).getD
      ⟨callback, []⟩ = first at isBound
    obtain ⟨callback_eq, origin⟩ := taken first first_eq
    rcases Listing.mem_addNew.1 isBound with earlier | rfl
    · rcases origin with fresh | old
      · rw [fresh] at earlier
        simp at earlier
      · exact justified first old present earlier
    · refine ⟨ids, ?_, other, listed, same⟩
      rwa [callback_eq]

theorem eq_of_same_of_nodup {left right : ListenerKind}
    (distinct : (kinds.map ListenerKind.marker).Nodup) (leftListed : left ∈ kinds)
    (rightListed : right ∈ kinds) (same : left.same right = true) : left = right := by
  have marker_eq := ListenerKind.same_iff.1 same
  induction kinds with
  | nil => simp at leftListed
  | cons kind rest ih =>
      rw [List.map_cons, List.nodup_cons] at distinct
      rcases List.mem_cons.1 leftListed with rfl | leftLater
      · rcases List.mem_cons.1 rightListed with rfl | rightLater
        · rfl
        · exact absurd (List.mem_map.2 ⟨right, rightLater, marker_eq.symm⟩) distinct.1
      · rcases List.mem_cons.1 rightListed with rfl | rightLater
        · exact absurd (List.mem_map.2 ⟨left, leftLater, marker_eq⟩) distinct.1
        · exact ih distinct.2 leftLater rightLater

theorem isJustifiedGroup_addMethod {group : ViewGroup} {kind : ListenerKind}
    {callback : Callback} {method : MethodBinding} {id : ResourceId} {ids : List ResourceId}
    (distinct : (kinds.map ListenerKind.marker).Nodup) (lookedFor : kind ∈ kinds)
    (justified : IsJustifiedGroup surroundings kinds decl group)
    (warranted : IsWarranted surroundings decl (.listener kind)
      (.methods kind callback method ids))
    (listed : id ∈ ids) (same : group.id.same id = true) :
    IsJustifiedGroup surroundings kinds decl (group.addMethod kind callback method) := by
  -- the listener that takes the method is of that very kind
  have taken : ∀ listener, (group.listener? kind).getD ⟨kind, []⟩ = listener →
      listener.kind = kind ∧ IsJustifiedListener surroundings decl group.id listener := by
    rintro listener rfl
    cases found : group.listener? kind with
    | none => exact ⟨rfl, fun _ member => by simp at member⟩
    | some listener =>
        have member := List.mem_of_find?_eq_some found
        have kind_same : listener.kind.same kind = true := by
          unfold ViewGroup.listener? at found
          simpa using List.find?_some found
        exact ⟨eq_of_same_of_nodup distinct (justified.kind listener member) lookedFor kind_same,
          justified.method listener member⟩
  have cases_of {listener : ListenerBinding}
      (member : listener ∈ (group.addMethod kind callback method).listeners) :
      listener ∈ group.listeners ∨ ∃ first : ListenerBinding, first.kind = kind ∧
        IsJustifiedListener surroundings decl group.id first ∧
        listener = first.add callback method := by
    rcases Listing.mem_alter member with old | rfl
    · exact .inl old
    · obtain ⟨kind_eq, old⟩ := taken _ rfl
      exact .inr ⟨_, kind_eq, old, rfl⟩
  refine ⟨justified.id, justified.field, ?_, ?_⟩
  · intro listener member
    obtain old | ⟨first, rfl, -, rfl⟩ := cases_of member
    · exact justified.kind listener old
    · exact lookedFor
  · intro listener member
    obtain old | ⟨first, rfl, old, rfl⟩ := cases_of member
    · exact justified.method listener old
    · exact isJustifiedListener_add old warranted listed same

variable {target extended : Target}

theorem isJustifiedGroup_groupOf {id : ResourceId} {request : Request} {addition : Addition}
    (justified : IsJustified surroundings kinds decl target)
    (warranted : IsWarranted surroundings decl request addition) (listed : id ∈ addition.viewIds) :
    IsJustifiedGroup surroundings kinds decl (target.groupOf id) := by
  unfold Target.groupOf
  cases found : target.group? id with
  | none => exact isJustifiedGroup_empty warranted listed
  | some group => exact justified.group group (List.mem_of_find?_eq_some found)

theorem isJustified_setGroup {id : ResourceId} {group : ViewGroup}
    (justified : IsJustified surroundings kinds decl target)
    (groupJustified : IsJustifiedGroup surroundings kinds decl group) :
    IsJustified surroundings kinds decl (target.setGroup id group) := by
  refine { justified with group := ?_ }
  intro other member
  rcases Listing.mem_alter member with old | rfl
  · exact justified.group other old
  · exact groupJustified

theorem isJustified_addMethods {kind : ListenerKind} {callback : Callback}
    {method : MethodBinding} {ids : List ResourceId} {pairs : List (Int32 × ResourceId)}
    {refusal : Option Int32} (distinct : (kinds.map ListenerKind.marker).Nodup)
    (lookedFor : kind ∈ kinds)
    (justified : IsJustified surroundings kinds decl target)
    (warranted : IsWarranted surroundings decl (.listener kind)
      (.methods kind callback method ids))
    (listed : ∀ id ∈ pairs.map Prod.snd, id ∈ ids)
    (added : addMethods kind callback method target pairs = (extended, refusal)) :
    IsJustified surroundings kinds decl extended := by
  induction pairs generalizing target with
  | nil =>
      cases added
      exact justified
  | cons pair rest ih =>
      rw [addMethods] at added
      split at added
      · rename_i next step
        obtain ⟨-, rfl⟩ := Target.addMethod?_eq_some_iff.1 step
        have here : pair.2 ∈ ids := listed _ List.mem_cons_self
        refine ih (isJustified_setGroup justified ?_)
          (fun id later => listed id (List.mem_cons_of_mem _ later)) added
        exact isJustifiedGroup_addMethod distinct lookedFor
          (isJustifiedGroup_groupOf justified warranted here) warranted here
          (target.same_groupOf pair.2)
      · cases added
        exact justified

theorem isJustified_of_adds {request : Request} {addition : Addition}
    (distinct : (kinds.map ListenerKind.marker).Nodup) (requested : request ∈ requests kinds)
    (justified : IsJustified surroundings kinds decl target)
    (warranted : IsWarranted surroundings decl request addition)
    (adds : Adds target addition extended) : IsJustified surroundings kinds decl extended := by
  have askedBy : addition.IsAskedBy request := by
    obtain ⟨member, -, warrants⟩ := warranted
    exact warrants.isAskedBy
  cases adds with
  | @view id field _ added =>
      obtain ⟨-, rfl⟩ := Target.addField_eq_ok_iff.1 added
      obtain rfl : request = .field .bindView := askedBy
      refine isJustified_setGroup justified ?_
      exact isJustifiedGroup_withField
        (isJustifiedGroup_groupOf justified warranted (List.mem_singleton_self id)) warranted
        (target.same_groupOf id)
  | views collection =>
      refine { justified with collection := ?_ }
      intro other member
      rcases List.mem_append.1 member with old | new
      · exact justified.collection other old
      · obtain rfl := List.mem_singleton.1 new
        obtain rfl : request = .field .bindViews := askedBy
        exact warranted
  | resource resource =>
      refine { justified with resource := ?_ }
      intro other member
      rcases List.mem_append.1 member with old | new
      · exact justified.resource other old
      · obtain rfl := List.mem_singleton.1 new
        obtain ⟨marker, rfl⟩ : ∃ marker, request = .field marker := askedBy
        exact ⟨marker, warranted⟩
  | @methods kind callback method pairs _ added =>
      obtain rfl : request = .listener kind := askedBy
      have lookedFor : kind ∈ kinds := by simpa [requests] using requested
      exact isJustified_addMethods distinct lookedFor justified warranted (fun _ listed => listed)
        added

theorem isJustified_newTarget {member : Member} (source : decl.origin = .source)
    (isOpen : IsOpen ⟨decl, member⟩)
    (made : newTarget surroundings.world decl = .ok target) :
    IsJustified surroundings kinds decl target := by
  obtain ⟨name, named, rfl⟩ := eq_of_newTarget made
  refine ⟨source, isOpen.isClass, isOpen.visible, isOpen.notAndroid, isOpen.notJava,
    ⟨name, named, rfl⟩, rfl, ?_, ?_, ?_⟩ <;>
    intro _ member <;> simp [Target.empty] at member

variable {collected : Collected} {use : Use}

/-- Whether each target collected is justified by the class that it is found under, and each bound
class has a target. -/
structure AreJustified (surroundings : Surroundings) (kinds : List ListenerKind)
    (collected : Collected) : Prop where
  /-- Targets are justified. -/
  targets : ∀ name target, collected.targets.get? name = some target →
    ∃ decl, surroundings.world.get? name = some decl ∧ IsJustified surroundings kinds decl target
  /-- Bound classes have targets. -/
  bound : ∀ name ∈ collected.bound, name ∈ collected.targets.keys

theorem isJustified_targetOf (justified : AreJustified surroundings kinds collected)
    (listed : use ∈ uses surroundings.world kinds) (isOpen : IsOpen use.site)
    (present : targetOf surroundings.world collected use.site.decl = .ok target) :
    IsJustified surroundings kinds use.site.decl target := by
  have source := source_of_mem_uses listed
  rcases get?_or_newTarget_of_targetOf present with found | made
  · obtain ⟨decl, foundDecl, isJustified⟩ := justified.targets _ _ found
    rw [Universe.get?_name_of_mem_sourceTypes source] at foundDecl
    cases foundDecl
    exact isJustified
  · exact isJustified_newTarget (of_decide_eq_true (List.mem_filter.1 source).2) isOpen made

theorem areJustified_keep (justified : AreJustified surroundings kinds collected)
    (listed : use ∈ uses surroundings.world kinds)
    (isJustified : IsJustified surroundings kinds use.site.decl extended) :
    AreJustified surroundings kinds (collected.keep use.site.decl.name extended) := by
  have source := source_of_mem_uses listed
  refine ⟨?_, fun name isBound => Table.mem_keys_insert.2 (.inr (justified.bound name isBound))⟩
  intro name target found
  rw [Collected.keep, Table.get?_insert] at found
  split at found
  · rename_i same
    cases found
    rw [same]
    exact ⟨_, Universe.get?_name_of_mem_sourceTypes source, isJustified⟩
  · exact justified.targets name target found

theorem areJustified_accept (justified : AreJustified surroundings kinds collected)
    (listed : use ∈ uses surroundings.world kinds)
    (isJustified : IsJustified surroundings kinds use.site.decl extended) :
    AreJustified surroundings kinds (collected.accept use.site.decl.name extended) := by
  have kept := areJustified_keep justified listed isJustified
  refine ⟨kept.targets, fun name isBound => ?_⟩
  rcases Listing.mem_addNew.1 isBound with old | rfl
  · exact kept.bound name old
  · exact Table.mem_keys_insert.2 (.inl rfl)

/-- One use keeps the targets justified, whether it is refused, accepted or stopped. -/
theorem areJustified_outcome (distinct : (kinds.map ListenerKind.marker).Nodup)
    (justified : AreJustified surroundings kinds collected)
    (listed : use ∈ uses surroundings.world kinds) :
    AreJustified surroundings kinds (use.outcome surroundings collected) := by
  obtain ⟨requested, annotated⟩ := mem_uses_iff.1 listed
  obtain ⟨-, member, -⟩ := mem_annotated_iff.1 annotated
  rw [Use.outcome]
  split
  · cases judged_verdict surroundings collected use with
    | refused _ kept =>
        rw [kept]
        exact justified
    | accepted warranted present adds _ kept =>
        rw [kept]
        refine areJustified_accept justified listed ?_
        exact isJustified_of_adds distinct requested
          (isJustified_targetOf justified listed warranted.isOpen present)
          ⟨_, member, warranted⟩ adds
    | @stopped kind _ _ _ _ _ _ warranted present added _ kept =>
        rw [kept]
        have request_eq : use.request = .listener kind := warranted.isAskedBy
        have lookedFor : kind ∈ kinds := by
          rw [request_eq] at requested
          simpa [requests] using requested
        refine areJustified_keep justified listed ?_
        exact isJustified_addMethods distinct lookedFor
          (isJustified_targetOf justified listed warranted.isOpen present)
          ⟨_, member, request_eq ▸ warranted⟩ (fun _ listed => listed) added
  · exact justified

theorem areJustified_walk (distinct : (kinds.map ListenerKind.marker).Nodup) {progress : Progress}
    {remaining : List Use} (listed : ∀ use ∈ remaining, use ∈ uses surroundings.world kinds)
    (justified : AreJustified surroundings kinds progress.collected) :
    AreJustified surroundings kinds (walk surroundings progress remaining).collected := by
  induction remaining generalizing progress with
  | nil => exact justified
  | cons use rest ih =>
      refine @ih (use.step surroundings progress)
        (fun other later => listed other (List.mem_cons_of_mem use later)) ?_
      exact areJustified_outcome distinct justified (listed use List.mem_cons_self)

theorem areJustified_collect (distinct : (kinds.map ListenerKind.marker).Nodup)
    (environment : Environment) :
    AreJustified (surroundingsOf environment kinds) kinds
      (collect environment kinds).collected := by
  rw [collect_eq_walk]
  refine areJustified_walk distinct (fun _ listed => listed) ⟨?_, ?_⟩
  · intro name target found
    simp [Collected.empty] at found
  · intro name isBound
    simp [Collected.empty] at isBound

theorem nodup_marker_standard : (ListenerKind.standard.map ListenerKind.marker).Nodup := by
  decide

theorem get?_of_collect {environment : Environment} {name : String} {set : LinkedTarget}
    (found : (Processing.collect environment kinds).targets.get? name = some set) :
    (collect environment kinds).collected.targets.get? name = some set.toTarget := by
  have outcome := Linking.isOutcome_link environment.world kinds
    (collect environment kinds).collected
  rw [Processing.link_of_collect found] at outcome
  exact outcome.kept name set found

end Collection
end Companion
