import Companion.Proofs.Listing
import Companion.Target

/-!
# What a target binds

Two questions tell what is bound to an id: which field, and which methods for a callback.  Both
treat ids as one that mean the same resource.  Each way to extend a target adds to the answer of
one question at one place and changes nothing else.
-/

namespace Companion

namespace ListenerKind

@[simp]
theorem same_self (kind : ListenerKind) : kind.same kind = true := by
  simp [same]

theorem same_iff {left right : ListenerKind} :
    left.same right = true ↔ left.marker = right.marker := by
  simp [same]

end ListenerKind

namespace ListenerBinding

theorem methodsOf_add (listener : ListenerBinding) (callback other : Callback)
    (method : MethodBinding) :
    (listener.add callback method).methodsOf other =
      if callback = other then Listing.addNew method (listener.methodsOf other)
      else listener.methodsOf other := by
  unfold methodsOf add
  by_cases same : callback = other
  · subst same
    rw [if_pos rfl, Listing.find?_alter (by simp) (by simp)]
    cases listener.callbacks.find? fun bound => bound.callback = callback <;> rfl
  · rw [if_neg same, Listing.find?_alter_of_apart]
    · simp only [decide_eq_true_eq, decide_eq_false_iff_not]
      rintro bound rfl
      exact same
    · simp only [decide_eq_true_eq, decide_eq_false_iff_not]
      rintro bound rfl
      exact same
    · simpa using same

end ListenerBinding

namespace ViewGroup

/-- The methods bound to a callback of a listener on the view. -/
def methodsOf (group : ViewGroup) (kind : ListenerKind) (callback : Callback) :
    List MethodBinding :=
  ((group.listener? kind).map fun listener => listener.methodsOf callback).getD []

theorem listener?_congr {kind other : ListenerKind} (same : kind.same other = true)
    (group : ViewGroup) : group.listener? kind = group.listener? other := by
  have found_eq : (fun listener : ListenerBinding => listener.kind.same kind) =
      fun listener => listener.kind.same other := by
    funext listener
    simp [ListenerKind.same, ListenerKind.same_iff.1 same]
  rw [listener?, found_eq, listener?]

theorem listener?_addMethod_self (group : ViewGroup) (kind : ListenerKind) (callback : Callback)
    (method : MethodBinding) :
    (group.addMethod kind callback method).listener? kind =
      some (((group.listener? kind).getD ⟨kind, []⟩).add callback method) := by
  unfold listener? addMethod
  rw [Listing.find?_alter]
  · intro listener found
    exact found
  · exact kind.same_self

theorem methodsOf_addMethod (group : ViewGroup) (kind otherKind : ListenerKind)
    (callback other : Callback) (method : MethodBinding) :
    (group.addMethod kind callback method).methodsOf otherKind other =
      if kind.same otherKind = true ∧ callback = other then
        Listing.addNew method (group.methodsOf otherKind other)
      else group.methodsOf otherKind other := by
  unfold methodsOf
  by_cases same : kind.same otherKind = true
  · rw [← listener?_congr same, ← listener?_congr same, listener?_addMethod_self]
    simp only [same, true_and, Option.map_some, Option.getD_some,
      ListenerBinding.methodsOf_add]
    cases group.listener? kind <;> rfl
  · rw [if_neg fun both => same both.1]
    unfold listener? addMethod
    rw [Listing.find?_alter_of_apart]
    · intro listener found
      have := ListenerKind.same_iff.1 found
      simpa [ListenerKind.same, this] using same
    · intro listener found
      have := ListenerKind.same_iff.1 found
      simpa [ListenerBinding.add, ListenerKind.same, this] using same
    · simpa [ListenerBinding.add] using same

theorem hasMethod_addMethod_self (group : ViewGroup) (kind : ListenerKind) (callback : Callback)
    (method : MethodBinding) :
    (group.addMethod kind callback method).hasMethod kind callback = true := by
  rw [hasMethod, listener?_addMethod_self, Option.any_some]
  generalize (group.listener? kind).getD ⟨kind, []⟩ = listener
  have found : ∃ bound, (listener.add callback method).callbacks.find?
      (fun bound => bound.callback = callback) = some bound :=
    ⟨_, Listing.find?_alter (by simp) (by simp) _⟩
  obtain ⟨bound, found⟩ := found
  refine List.any_eq_true.2 ⟨bound, List.mem_of_find?_eq_some found, ?_⟩
  simpa using List.find?_some found

theorem setField_eq_ok_iff {group changed : ViewGroup} {field : FieldBinding} :
    group.setField field = .ok changed ↔
      group.field = none ∧ changed = { group with field := some field } := by
  unfold setField
  cases group.field <;> simp [eq_comm]

end ViewGroup

namespace Target

/-- The field that is bound to an id. -/
def fieldOf? (target : Target) (id : ResourceId) : Option FieldBinding :=
  (target.group? id).bind ViewGroup.field

/-- The methods that are bound to an id for a callback. -/
def methodsOf (target : Target) (id : ResourceId) (kind : ListenerKind) (callback : Callback) :
    List MethodBinding :=
  (target.groupOf id).methodsOf kind callback

/-- Whether some method is bound to an id for a callback. -/
def hasMethod (target : Target) (id : ResourceId) (kind : ListenerKind) (callback : Callback) :
    Bool :=
  (target.groupOf id).hasMethod kind callback

theorem fieldOf?_eq (target : Target) (id : ResourceId) :
    target.fieldOf? id = (target.groupOf id).field := by
  unfold fieldOf? groupOf
  cases target.group? id <;> rfl

theorem same_groupOf (target : Target) (id : ResourceId) :
    (target.groupOf id).id.same id = true := by
  unfold groupOf
  cases found : target.group? id with
  | none => exact id.same_self
  | some group =>
      unfold group? at found
      simpa using List.find?_some found

theorem group?_congr {id other : ResourceId} (same : id.same other = true) (target : Target) :
    target.group? id = target.group? other := by
  have found_eq : (fun present : ViewGroup => present.id.same id) =
      fun present => present.id.same other := by
    funext present
    refine Bool.eq_iff_iff.2 ⟨fun found => ResourceId.same_trans found same, fun found => ?_⟩
    exact ResourceId.same_trans found (by rwa [ResourceId.same_comm])
  rw [group?, found_eq, group?]

/-- The group that was set is found under every id that means the same. -/
theorem group?_setGroup {id : ResourceId} {group : ViewGroup} (named : group.id.same id = true)
    (target : Target) (other : ResourceId) :
    (target.setGroup id group).group? other =
      if id.same other = true then some group else target.group? other := by
  split
  · rename_i same
    rw [← group?_congr same, group?, setGroup, Listing.find?_alter]
    · intro _ _
      exact named
    · exact named
  · rename_i apart
    have apart_of {present : ViewGroup} (found : present.id.same id = true) :
        present.id.same other = false := by
      refine Bool.eq_false_iff.2 fun found_other => apart ?_
      exact ResourceId.same_trans (by rwa [ResourceId.same_comm]) found_other
    rw [group?, setGroup, Listing.find?_alter_of_apart]
    · rfl
    · intro present
      exact apart_of
    · intro _ _
      exact apart_of named
    · exact apart_of named

theorem groupOf_setGroup_of_same {id other : ResourceId} {group : ViewGroup}
    (named : group.id.same id = true) (same : id.same other = true) (target : Target) :
    (target.setGroup id group).groupOf other = group := by
  rw [groupOf, group?_setGroup named, if_pos same, Option.getD_some]

theorem groupOf_setGroup_of_apart {id other : ResourceId} {group : ViewGroup}
    (named : group.id.same id = true) (apart : ¬id.same other = true) (target : Target) :
    (target.setGroup id group).groupOf other = target.groupOf other := by
  rw [groupOf, group?_setGroup named, if_neg apart, groupOf]

theorem fieldOf?_congr {id other : ResourceId} (same : id.same other = true) (target : Target) :
    target.fieldOf? id = target.fieldOf? other := by
  rw [fieldOf?, group?_congr same, fieldOf?]

theorem methodsOf_congr {id other : ResourceId} (same : id.same other = true) (target : Target)
    (kind : ListenerKind) (callback : Callback) :
    target.methodsOf id kind callback = target.methodsOf other kind callback := by
  unfold methodsOf groupOf
  rw [group?_congr same]
  cases target.group? other <;> rfl

theorem methodsOf_congr_kind {kind other : ListenerKind} (same : kind.same other = true)
    (target : Target) (id : ResourceId) (callback : Callback) :
    target.methodsOf id kind callback = target.methodsOf id other callback := by
  rw [methodsOf, ViewGroup.methodsOf, ViewGroup.listener?_congr same]
  rfl

theorem addField_eq_ok_iff {target extended : Target} {id : ResourceId} {field : FieldBinding} :
    target.addField id field = .ok extended ↔ target.fieldOf? id = none ∧
      extended = target.setGroup id { target.groupOf id with field := some field } := by
  rw [fieldOf?_eq, addField]
  cases result : (target.groupOf id).setField field with
  | ok changed =>
      obtain ⟨free, rfl⟩ := ViewGroup.setField_eq_ok_iff.1 result
      simp only [free, true_and, bind, Except.bind, pure, Except.pure, Except.ok.injEq]
      exact eq_comm
  | error refusal =>
      have taken : (target.groupOf id).field ≠ none := by
        intro free
        simp [ViewGroup.setField, free] at result
      simp [bind, Except.bind, taken]

section Field

variable {target extended : Target} {id : ResourceId} {field : FieldBinding}

theorem fieldOf?_addField (added : target.addField id field = .ok extended) (other : ResourceId) :
    extended.fieldOf? other =
      if id.same other = true then some field else target.fieldOf? other := by
  obtain ⟨-, rfl⟩ := addField_eq_ok_iff.1 added
  have named : ({ target.groupOf id with field := some field } : ViewGroup).id.same id = true :=
    target.same_groupOf id
  rw [fieldOf?, group?_setGroup named]
  split <;> rfl

theorem methodsOf_addField (added : target.addField id field = .ok extended) (other : ResourceId)
    (kind : ListenerKind) (callback : Callback) :
    extended.methodsOf other kind callback = target.methodsOf other kind callback := by
  obtain ⟨-, rfl⟩ := addField_eq_ok_iff.1 added
  have named : ({ target.groupOf id with field := some field } : ViewGroup).id.same id = true :=
    target.same_groupOf id
  by_cases same : id.same other = true
  · rw [← methodsOf_congr same target, methodsOf, groupOf_setGroup_of_same named same]
    rfl
  · rw [methodsOf, groupOf_setGroup_of_apart named same, methodsOf]

end Field

variable {target extended : Target} {id : ResourceId} {kind : ListenerKind} {callback : Callback}
  {method : MethodBinding}

theorem addMethod?_eq_none_iff :
    target.addMethod? id kind callback method = none ↔
      target.hasMethod id kind callback = true ∧ callback.returnsValue = true := by
  unfold addMethod?
  rw [← Bool.and_eq_true, hasMethod]
  exact ite_eq_left_iff.trans (by simp)

theorem addMethod?_eq_some_iff :
    target.addMethod? id kind callback method = some extended ↔
      ¬(target.hasMethod id kind callback = true ∧ callback.returnsValue = true) ∧
      extended = target.setGroup id ((target.groupOf id).addMethod kind callback method) := by
  unfold addMethod?
  rw [← Bool.and_eq_true, hasMethod]
  by_cases taken : ((target.groupOf id).hasMethod kind callback && callback.returnsValue) = true
  · simp [taken]
  · simp only [taken, Bool.false_eq_true, if_false, not_false_eq_true, true_and,
      Option.some.injEq]
    exact eq_comm

private theorem named_addMethod :
    ((target.groupOf id).addMethod kind callback method).id.same id = true :=
  target.same_groupOf id

theorem fieldOf?_addMethod? (added : target.addMethod? id kind callback method = some extended)
    (other : ResourceId) : extended.fieldOf? other = target.fieldOf? other := by
  obtain ⟨-, rfl⟩ := addMethod?_eq_some_iff.1 added
  by_cases same : id.same other = true
  · rw [← fieldOf?_congr same target, fieldOf?_eq, fieldOf?_eq,
      groupOf_setGroup_of_same named_addMethod same]
    rfl
  · rw [fieldOf?_eq, groupOf_setGroup_of_apart named_addMethod same, ← fieldOf?_eq]

theorem methodsOf_addMethod? (added : target.addMethod? id kind callback method = some extended)
    (other : ResourceId) (otherKind : ListenerKind) (otherCallback : Callback) :
    extended.methodsOf other otherKind otherCallback =
      if id.same other = true ∧ kind.same otherKind = true ∧ callback = otherCallback then
        Listing.addNew method (target.methodsOf other otherKind otherCallback)
      else target.methodsOf other otherKind otherCallback := by
  obtain ⟨-, rfl⟩ := addMethod?_eq_some_iff.1 added
  by_cases same : id.same other = true
  · rw [← methodsOf_congr same target, methodsOf, groupOf_setGroup_of_same named_addMethod same,
      ViewGroup.methodsOf_addMethod]
    simp only [same, true_and]
    rfl
  · rw [methodsOf, groupOf_setGroup_of_apart named_addMethod same, if_neg fun all => same all.1,
      methodsOf]

theorem hasMethod_addMethod? (added : target.addMethod? id kind callback method = some extended)
    (other : ResourceId) :
    extended.hasMethod other kind callback =
      (id.same other || target.hasMethod other kind callback) := by
  obtain ⟨-, rfl⟩ := addMethod?_eq_some_iff.1 added
  by_cases same : id.same other = true
  · rw [hasMethod, groupOf_setGroup_of_same named_addMethod same,
      ViewGroup.hasMethod_addMethod_self, same, Bool.true_or]
  · rw [hasMethod, groupOf_setGroup_of_apart named_addMethod same, hasMethod,
      Bool.eq_false_iff.2 same, Bool.false_or]

/-- Whether a target still is the one of its class and binds all that it bound before. -/
structure IsExtension (before after : Target) : Prop where
  /-- It is about the same class. -/
  type : after.type = before.type
  /-- It has the same companion. -/
  companion : after.companion = before.companion
  /-- A field that an id is bound to stays the field of that id. -/
  fields : ∀ id field, before.fieldOf? id = some field → after.fieldOf? id = some field
  /-- A bound method stays bound. -/
  methods : ∀ id kind callback method, method ∈ before.methodsOf id kind callback →
    method ∈ after.methodsOf id kind callback
  /-- The collections stay. -/
  collections : ∀ collection ∈ before.collections, collection ∈ after.collections
  /-- The resources stay. -/
  resources : ∀ resource ∈ before.resources, resource ∈ after.resources

namespace IsExtension

theorem refl (target : Target) : IsExtension target target :=
  ⟨rfl, rfl, fun _ _ bound => bound, fun _ _ _ _ bound => bound, fun _ listed => listed,
    fun _ listed => listed⟩

theorem trans {first second third : Target} (lower : IsExtension first second)
    (upper : IsExtension second third) : IsExtension first third := by
  refine ⟨upper.type.trans lower.type, upper.companion.trans lower.companion, ?_, ?_, ?_, ?_⟩
  · intro id field bound
    exact upper.fields id field (lower.fields id field bound)
  · intro id kind callback method bound
    exact upper.methods id kind callback method (lower.methods id kind callback method bound)
  · intro collection listed
    exact upper.collections collection (lower.collections collection listed)
  · intro resource listed
    exact upper.resources resource (lower.resources resource listed)

end IsExtension

end Target
end Companion
