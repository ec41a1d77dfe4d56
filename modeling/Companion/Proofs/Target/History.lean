import Companion.Proofs.Target

/-!
# Targets in the making

A target is made by calls that bind one thing each.  A call is refused when its place is taken, and
then it leaves no trace, although the group of its id is looked up, and made on demand, before that
is decided.  So what a target holds, and in which order, is told by the accepted calls alone.
-/

namespace Companion

/-- Whether a listener lists callbacks, each of them once and with methods. -/
structure ListenerBinding.IsFilled (listener : ListenerBinding) : Prop where
  /-- Some callback is listed. -/
  nonempty : listener.callbacks ≠ []
  /-- No callback is listed twice. -/
  distinct : (listener.callbacks.map CallbackBinding.callback).Nodup
  /-- Each callback has a method. -/
  methods : ∀ bound ∈ listener.callbacks, bound.methods ≠ []

/-- Whether a group has a field or listeners, of each kind at most one and none without methods. -/
structure ViewGroup.IsFilled (group : ViewGroup) : Prop where
  /-- Something is bound. -/
  nonempty : group.field.isSome = true ∨ group.listeners ≠ []
  /-- No two listeners are of the same kind. -/
  distinct : (group.listeners.map ListenerBinding.kind).Pairwise fun kind other =>
    kind.same other = false
  /-- Each listener lists callbacks with methods. -/
  listeners : ∀ listener ∈ group.listeners, listener.IsFilled

namespace ListenerBinding

variable {listener : ListenerBinding} {callback : Callback} {method : MethodBinding}

theorem isFilled_add (distinct : (listener.callbacks.map CallbackBinding.callback).Nodup)
    (methods : ∀ bound ∈ listener.callbacks, bound.methods ≠ []) :
    (listener.add callback method).IsFilled := by
  refine ⟨Listing.alter_ne_nil _, ?_, ?_⟩
  · refine Listing.pairwise_map_alter (fun _ _ => rfl) ?_ distinct
    intro absent bound listed
    simpa using List.find?_eq_none.1 absent bound listed
  · intro bound listed
    rcases Listing.mem_alter listed with old | rfl
    · exact methods bound old
    · exact List.ne_nil_of_mem (Listing.mem_addNew.2 (.inr rfl))

theorem methodsOf_eq_of_mem (filled : listener.IsFilled) {bound : CallbackBinding}
    (listed : bound ∈ listener.callbacks) : listener.methodsOf bound.callback = bound.methods := by
  have apart : (listener.callbacks.map CallbackBinding.callback).Pairwise fun left right =>
      decide (left = right) = false :=
    filled.distinct.imp fun differ => by simpa using differ
  rw [methodsOf, Listing.find?_key (by simp) apart listed]
  rfl

/-- A callback is listed exactly when it has methods. -/
theorem any_callback_iff (methods : ∀ bound ∈ listener.callbacks, bound.methods ≠ []) :
    (listener.callbacks.any fun bound => bound.callback = callback) = true ↔
      listener.methodsOf callback ≠ [] := by
  rw [methodsOf, List.any_eq_true]
  cases found : listener.callbacks.find? fun bound => bound.callback = callback with
  | none => simpa using List.find?_eq_none.1 found
  | some bound =>
      have listed := List.mem_of_find?_eq_some found
      have selects : decide (bound.callback = callback) = true :=
        @List.find?_some _ (fun bound : CallbackBinding => bound.callback = callback) _ _ found
      exact ⟨fun _ => methods bound listed, fun _ => ⟨bound, listed, selects⟩⟩

end ListenerBinding

namespace ViewGroup

variable {group : ViewGroup} {kind : ListenerKind} {callback : Callback} {method : MethodBinding}

/-- Whether a group may be without bindings, but has no listener without methods. -/
structure IsSound (group : ViewGroup) : Prop where
  /-- No two listeners are of the same kind. -/
  distinct : (group.listeners.map ListenerBinding.kind).Pairwise fun kind other =>
    kind.same other = false
  /-- Each listener lists callbacks with methods. -/
  listeners : ∀ listener ∈ group.listeners, listener.IsFilled

theorem IsFilled.isSound (filled : group.IsFilled) : group.IsSound :=
  ⟨filled.distinct, filled.listeners⟩

theorem isSound_empty (id : ResourceId) : (empty id).IsSound :=
  ⟨List.Pairwise.nil, fun _ listed => by simp [empty] at listed⟩

theorem isFilled_withField (sound : group.IsSound) (field : FieldBinding) :
    ({ group with field := some field } : ViewGroup).IsFilled :=
  ⟨.inl rfl, sound.distinct, sound.listeners⟩

theorem isFilled_addMethod (sound : group.IsSound) :
    (group.addMethod kind callback method).IsFilled := by
  refine ⟨.inr (Listing.alter_ne_nil _), ?_, ?_⟩
  · refine Listing.pairwise_map_alter (fun _ _ => rfl) ?_ sound.distinct
    intro absent listener listed
    exact Bool.eq_false_iff.2 (List.find?_eq_none.1 absent listener listed)
  · intro listener listed
    rcases Listing.mem_alter listed with old | rfl
    · exact sound.listeners listener old
    · cases found : group.listeners.find? fun listener => listener.kind.same kind with
      | none => exact ListenerBinding.isFilled_add List.nodup_nil (by simp)
      | some listener =>
          have filled := sound.listeners listener (List.mem_of_find?_eq_some found)
          exact ListenerBinding.isFilled_add filled.distinct filled.methods

theorem listener?_eq_of_mem (sound : group.IsSound) {listener : ListenerBinding}
    (listed : listener ∈ group.listeners) : group.listener? listener.kind = some listener :=
  Listing.find?_key ListenerKind.same_self sound.distinct listed

theorem methodsOf_eq_of_mem (sound : group.IsSound) {listener : ListenerBinding}
    (listed : listener ∈ group.listeners) {bound : CallbackBinding}
    (isBound : bound ∈ listener.callbacks) :
    group.methodsOf listener.kind bound.callback = bound.methods := by
  rw [methodsOf, listener?_eq_of_mem sound listed]
  exact ListenerBinding.methodsOf_eq_of_mem (sound.listeners listener listed) isBound

theorem hasMethod_iff (sound : group.IsSound) :
    group.hasMethod kind callback = true ↔ group.methodsOf kind callback ≠ [] := by
  rw [hasMethod, methodsOf]
  cases found : group.listener? kind with
  | none => simp
  | some listener =>
      have filled := sound.listeners listener (List.mem_of_find?_eq_some found)
      exact ListenerBinding.any_callback_iff filled.methods

end ViewGroup

namespace Target

/-- A call that binds one thing in a target. -/
inductive Call where
  /-- Bind the view of an id to a field. -/
  | field (id : ResourceId) (field : FieldBinding)
  /-- Bind a method to a callback of the view of an id. -/
  | method (id : ResourceId) (kind : ListenerKind) (callback : Callback) (method : MethodBinding)
  /-- Bind a collection of views. -/
  | collection (collection : CollectionBinding)
  /-- Bind a resource. -/
  | resource (resource : ResourceBinding)

/-- The target with a group for an id, which is made when there is none. -/
def withGroup (target : Target) (id : ResourceId) : Target :=
  target.setGroup id (target.groupOf id)

namespace Call

/-- The target after a call, unless the call is refused. -/
def after? (target : Target) : Call → Option Target
  | .field id binding => (target.addField id binding).toOption
  | .method id kind callback binding => target.addMethod? id kind callback binding
  | .collection binding => some (target.addCollection binding)
  | .resource binding => some (target.addResource binding)

/-- What a call does to a target in place, and whether it is accepted.  The group of its id is made
before the call looks at what the group holds. -/
def perform (target : Target) : Call → Target × Bool
  | .field id binding =>
    match ((target.withGroup id).groupOf id).setField binding with
    | .ok group => ((target.withGroup id).setGroup id group, true)
    | .error _ => (target.withGroup id, false)
  | .method id kind callback binding =>
    let group := (target.withGroup id).groupOf id
    if group.hasMethod kind callback && callback.returnsValue then (target.withGroup id, false)
    else ((target.withGroup id).setGroup id (group.addMethod kind callback binding), true)
  | .collection binding => (target.addCollection binding, true)
  | .resource binding => (target.addResource binding, true)

/-- The id of the view that a call is about. -/
def viewId? : Call → Option ResourceId
  | .field id _ => some id
  | .method id _ _ _ => some id
  | .collection _ | .resource _ => none

/-- The field that a call binds the view of an id to. -/
def fieldFor? (id : ResourceId) : Call → Option FieldBinding
  | .field other binding => if other.same id then some binding else none
  | .method _ _ _ _ | .collection _ | .resource _ => none

/-- The method that a call binds to a callback of the view of an id. -/
def methodFor? (id : ResourceId) (kind : ListenerKind) (callback : Callback) :
    Call → Option MethodBinding
  | .method other otherKind otherCallback binding =>
    if other.same id = true ∧ otherKind.same kind = true ∧ otherCallback = callback then
      some binding
    else none
  | .field _ _ | .collection _ | .resource _ => none

/-- The collection that a call binds. -/
def collection? : Call → Option CollectionBinding
  | .collection binding => some binding
  | .field _ _ | .method _ _ _ _ | .resource _ => none

/-- The resource that a call binds. -/
def resource? : Call → Option ResourceBinding
  | .resource binding => some binding
  | .field _ _ | .method _ _ _ _ | .collection _ => none

theorem fieldFor?_of_viewId? {call : Call} (isOther : call.viewId? = none) (id : ResourceId) :
    call.fieldFor? id = none := by
  cases call <;> first | rfl | simp [viewId?] at isOther

theorem methodFor?_of_viewId? {call : Call} (isOther : call.viewId? = none) (id : ResourceId)
    (kind : ListenerKind) (callback : Callback) : call.methodFor? id kind callback = none := by
  cases call <;> first | rfl | simp [viewId?] at isOther

theorem collection?_of_viewId? {call : Call} {id : ResourceId} (about : call.viewId? = some id) :
    call.collection? = none := by
  cases call <;> first | rfl | simp [viewId?] at about

theorem resource?_of_viewId? {call : Call} {id : ResourceId} (about : call.viewId? = some id) :
    call.resource? = none := by
  cases call <;> first | rfl | simp [viewId?] at about

/-- Whether earlier calls have taken the place of a call: another field has the view of its id, or
another method supplies the value of its callback. -/
def IsTaken (earlier : List Call) : Call → Prop
  | .field id _ => earlier.findSome? (fieldFor? id) ≠ none
  | .method id kind callback _ =>
    callback.returnsValue = true ∧ earlier.filterMap (methodFor? id kind callback) ≠ []
  | .collection _ | .resource _ => False

end Call

/-- The target after some calls. -/
def run (target : Target) (calls : List Call) : Target :=
  calls.foldl (fun target call => (call.perform target).1) target

/-- The calls that are accepted one after the other. -/
def accepted (target : Target) : List Call → List Call
  | [] => []
  | call :: rest =>
    let (after, isAccepted) := call.perform target
    if isAccepted then call :: accepted after rest else accepted after rest

theorem withGroup_of_group? {target : Target} {id : ResourceId} {group : ViewGroup}
    (found : target.group? id = some group) : target.withGroup id = target := by
  rw [withGroup, groupOf, found, Option.getD_some, setGroup, Listing.alter_of_find?_eq_some found]

theorem setGroup_withGroup (target : Target) {id : ResourceId} {group : ViewGroup} :
    (target.withGroup id).setGroup id group = target.setGroup id group := by
  refine congrArg (fun groups => { target with groups }) (Listing.alter_alter ?_ target.groups)
  exact target.same_groupOf id

theorem groupOf_withGroup (target : Target) (id : ResourceId) :
    (target.withGroup id).groupOf id = target.groupOf id :=
  groupOf_setGroup_of_same (target.same_groupOf id) id.same_self target

/-- A refused call finds a group that is there already. -/
theorem withGroup_of_refused {target : Target} {id : ResourceId}
    (present : target.groupOf id ≠ .empty id) : target.withGroup id = target := by
  cases found : target.group? id with
  | none => simp [groupOf, found] at present
  | some group => exact withGroup_of_group? found

/-- Done in place, a call ends in the same target, and in the old one when it is refused. -/
theorem Call.perform_eq (call : Call) (target : Target) :
    call.perform target =
      ((call.after? target).getD target, (call.after? target).isSome) := by
  cases call with
  | field id field =>
      rw [perform, after?, addField, groupOf_withGroup]
      cases result : (target.groupOf id).setField field with
      | ok group => simp [setGroup_withGroup, bind, Except.bind, pure, Except.pure, Except.toOption]
      | error refusal =>
          have present : target.groupOf id ≠ .empty id := by
            intro isEmpty
            simp [isEmpty, ViewGroup.setField, ViewGroup.empty] at result
          simp [withGroup_of_refused present, bind, Except.bind, Except.toOption]
  | method id kind callback method =>
      simp only [perform, after?, addMethod?, groupOf_withGroup, setGroup_withGroup]
      split
      · rename_i refused
        have present : target.groupOf id ≠ .empty id := by
          intro isEmpty
          simp [isEmpty, ViewGroup.hasMethod, ViewGroup.listener?, ViewGroup.empty] at refused
        simp [withGroup_of_refused present]
      · rfl
  | collection collection => rfl
  | resource resource => rfl

/-! ## What accepted calls leave -/

/-- Whether a target holds what some accepted calls have bound, in the order of the calls. -/
structure IsMadeBy (calls : List Call) (target : Target) : Prop where
  /-- Each id has a group, at the place of the first call for it. -/
  ids : target.groups.map ViewGroup.id = (calls.filterMap Call.viewId?).eraseDupsBy ResourceId.same
  /-- The ids of two groups differ. -/
  distinct : (target.groups.map ViewGroup.id).Pairwise fun id other => id.same other = false
  /-- No group, no listener and no callback is empty. -/
  filled : ∀ group ∈ target.groups, group.IsFilled
  /-- The view of an id is bound to the first field that is given for it. -/
  field : ∀ group ∈ target.groups, group.field = calls.findSome? (Call.fieldFor? group.id)
  /-- A callback calls the methods that are given for it, each once and in order. -/
  methods : ∀ group ∈ target.groups, ∀ listener ∈ group.listeners, ∀ bound ∈ listener.callbacks,
    bound.methods.Nodup ∧ bound.methods =
      (calls.filterMap (Call.methodFor? group.id listener.kind bound.callback)).eraseDups
  /-- A callback that returns a value calls one method. -/
  single : ∀ group ∈ target.groups, ∀ listener ∈ group.listeners, ∀ bound ∈ listener.callbacks,
    bound.callback.returnsValue = true → bound.methods.length = 1
  /-- The collections are those given, in order. -/
  collections : target.collections = calls.filterMap Call.collection?
  /-- So are the resources. -/
  resources : target.resources = calls.filterMap Call.resource?

theorem addField_toOption_eq_none_iff {target : Target} {id : ResourceId} {field : FieldBinding} :
    (target.addField id field).toOption = none ↔ target.fieldOf? id ≠ none := by
  rw [fieldOf?_eq, addField]
  cases bound : (target.groupOf id).field <;>
    simp [ViewGroup.setField, bound, bind, Except.bind, pure, Except.pure, Except.toOption]

theorem map_id_setGroup {target : Target} {id : ResourceId} {group : ViewGroup}
    (named : group.id = (target.groupOf id).id) :
    (target.setGroup id group).groups.map ViewGroup.id = target.groups.map ViewGroup.id ++
      if (target.groups.map ViewGroup.id).any id.same then [] else [id] := by
  have isPresent : (target.group? id).isSome = (target.groups.map ViewGroup.id).any id.same := by
    refine Bool.eq_iff_iff.2 ?_
    simp [group?, List.find?_isSome, id.same_comm]
  rw [setGroup, Listing.map_alter, ← isPresent, named, groupOf, ← group?]
  · cases target.group? id <;> rfl
  · intro present found
    rw [named, groupOf, group?, found, Option.getD_some]

/-- Whether a target answers for every id, bound or not, as some accepted calls say.  Unlike what
the groups hold, the answers change by one equation with each call. -/
structure Records (calls : List Call) (target : Target) : Prop where
  /-- Each id has a group, at the place of the first call for it. -/
  ids : target.groups.map ViewGroup.id = (calls.filterMap Call.viewId?).eraseDupsBy ResourceId.same
  /-- The ids of two groups differ. -/
  distinct : (target.groups.map ViewGroup.id).Pairwise fun id other => id.same other = false
  /-- No group, no listener and no callback is empty. -/
  filled : ∀ group ∈ target.groups, group.IsFilled
  /-- The field of any id is the first one given for it. -/
  field : ∀ id, target.fieldOf? id = calls.findSome? (Call.fieldFor? id)
  /-- The methods of any callback are those given for it. -/
  methods : ∀ id kind callback, target.methodsOf id kind callback =
    (calls.filterMap (Call.methodFor? id kind callback)).eraseDups
  /-- A callback that returns a value has at most one method. -/
  single : ∀ id kind callback, callback.returnsValue = true →
    (target.methodsOf id kind callback).length ≤ 1
  /-- The collections are those given, in order. -/
  collections : target.collections = calls.filterMap Call.collection?
  /-- So are the resources. -/
  resources : target.resources = calls.filterMap Call.resource?

namespace Records

variable {calls : List Call} {target after : Target}

theorem empty (type : CodeType) (companion : ClassName) (isFinal : Bool)
    (category : HostCategory) : Records [] (.empty type companion isFinal category) := by
  refine ⟨rfl, List.Pairwise.nil, ?_, fun _ => rfl, fun _ _ _ => rfl, ?_, rfl, rfl⟩
  · intro group listed
    simp [Target.empty] at listed
  · intro id kind callback _
    exact Nat.zero_le 1

theorem isSound_groupOf (records : Records calls target) (id : ResourceId) :
    (target.groupOf id).IsSound := by
  rw [groupOf]
  cases found : target.group? id with
  | none => exact ViewGroup.isSound_empty id
  | some group => exact (records.filled group (List.mem_of_find?_eq_some found)).isSound

theorem hasMethod_iff (records : Records calls target) {id : ResourceId} {kind : ListenerKind}
    {callback : Callback} :
    target.hasMethod id kind callback = true ↔
      calls.filterMap (Call.methodFor? id kind callback) ≠ [] := by
  rw [hasMethod, ViewGroup.hasMethod_iff (records.isSound_groupOf id), ← methodsOf,
    records.methods, ne_eq, Listing.eraseDups_eq_nil_iff]

/-- A call is refused exactly when earlier ones have taken its place. -/
theorem after?_eq_none_iff (records : Records calls target) (call : Call) :
    call.after? target = none ↔ call.IsTaken calls := by
  cases call with
  | field id field =>
      rw [Call.after?, Call.IsTaken, ← records.field, ← addField_toOption_eq_none_iff]
  | method id kind callback method =>
      rw [Call.after?, addMethod?_eq_none_iff, records.hasMethod_iff, Call.IsTaken, and_comm]
  | collection collection => simp [Call.after?, Call.IsTaken]
  | resource resource => simp [Call.after?, Call.IsTaken]

theorem distinct_setGroup (records : Records calls target) {id : ResourceId} {group : ViewGroup}
    (named : group.id = (target.groupOf id).id) :
    ((target.setGroup id group).groups.map ViewGroup.id).Pairwise fun id other =>
      id.same other = false := by
  refine Listing.pairwise_map_alter ?_ ?_ records.distinct
  · intro present found
    rw [named, groupOf, group?, found, Option.getD_some]
  · intro absent present listed
    rw [named, groupOf, group?, absent, Option.getD_none]
    exact Bool.eq_false_iff.2 (List.find?_eq_none.1 absent present listed)

/-- A call that is about a view changes the group of its id. -/
theorem snoc_setGroup (records : Records calls target) {call : Call} {id : ResourceId}
    {group : ViewGroup} (about : call.viewId? = some id)
    (named : group.id = (target.groupOf id).id) (filled : group.IsFilled)
    (field : ∀ other, (target.setGroup id group).fieldOf? other =
      (calls ++ [call]).findSome? (Call.fieldFor? other))
    (methods : ∀ other kind callback, (target.setGroup id group).methodsOf other kind callback =
      ((calls ++ [call]).filterMap (Call.methodFor? other kind callback)).eraseDups)
    (single : ∀ other kind callback, callback.returnsValue = true →
      ((target.setGroup id group).methodsOf other kind callback).length ≤ 1) :
    Records (calls ++ [call]) (target.setGroup id group) := by
  refine ⟨?_, records.distinct_setGroup named, ?_, field, methods, single, ?_, ?_⟩
  · rw [map_id_setGroup named, List.filterMap_append, List.filterMap_cons_some about,
      List.filterMap_nil, Listing.eraseDupsBy_append_singleton, records.ids]
  · intro other listed
    rcases Listing.mem_alter listed with old | new
    · exact records.filled other old
    · exact new ▸ filled
  · simp [setGroup, records.collections, Call.collection?_of_viewId? about]
  · simp [setGroup, records.resources, Call.resource?_of_viewId? about]

theorem snoc_field (records : Records calls target) {id : ResourceId} {field : FieldBinding}
    (added : target.addField id field = .ok after) :
    Records (calls ++ [.field id field]) after := by
  obtain ⟨free, after_eq⟩ := addField_eq_ok_iff.1 added
  rw [after_eq] at added ⊢
  refine records.snoc_setGroup rfl rfl
    (ViewGroup.isFilled_withField (records.isSound_groupOf id) field) ?_ ?_ ?_
  · intro other
    rw [fieldOf?_addField added, List.findSome?_append, ← records.field]
    split
    · rename_i same
      rw [← fieldOf?_congr same, free]
      simp [Call.fieldFor?, same]
    · rename_i apart
      simp [Call.fieldFor?, apart]
  · intro other kind callback
    rw [methodsOf_addField added, records.methods, List.filterMap_append]
    simp [List.filterMap_cons, Call.methodFor?]
  · intro other kind callback returns
    rw [methodsOf_addField added]
    exact records.single other kind callback returns

theorem snoc_method (records : Records calls target) {id : ResourceId} {kind : ListenerKind}
    {callback : Callback} {method : MethodBinding}
    (added : target.addMethod? id kind callback method = some after) :
    Records (calls ++ [.method id kind callback method]) after := by
  obtain ⟨free, after_eq⟩ := addMethod?_eq_some_iff.1 added
  rw [after_eq] at added ⊢
  refine records.snoc_setGroup rfl rfl
    (ViewGroup.isFilled_addMethod (records.isSound_groupOf id)) ?_ ?_ ?_
  · intro other
    rw [fieldOf?_addMethod? added, List.findSome?_append, ← records.field]
    simp [Call.fieldFor?]
  · intro other otherKind otherCallback
    rw [methodsOf_addMethod? added, records.methods, List.filterMap_append]
    split
    · rename_i here
      simp [Call.methodFor?, here, Listing.eraseDups_append_singleton]
    · rename_i apart
      simp [Call.methodFor?, apart]
  · intro other otherKind otherCallback returns
    rw [methodsOf_addMethod? added]
    split
    · rename_i here
      obtain ⟨same, sameKind, rfl⟩ := here
      have isNew : target.methodsOf other otherKind callback = [] := by
        rw [← methodsOf_congr same, ← methodsOf_congr_kind sameKind]
        have isFree : ¬target.hasMethod id kind callback = true :=
          fun taken => free ⟨taken, returns⟩
        rwa [hasMethod, ViewGroup.hasMethod_iff (records.isSound_groupOf id), ne_eq,
          Classical.not_not] at isFree
      simp [isNew, Listing.addNew]
    · exact records.single other otherKind otherCallback returns

/-- A call that is about no view leaves the groups as they are. -/
theorem snoc_other (records : Records calls target) {call : Call} (isOther : call.viewId? = none)
    (groups : after.groups = target.groups)
    (collections : after.collections = (calls ++ [call]).filterMap Call.collection?)
    (resources : after.resources = (calls ++ [call]).filterMap Call.resource?) :
    Records (calls ++ [call]) after := by
  have group?_eq (id : ResourceId) : after.group? id = target.group? id := by
    rw [group?, groups, group?]
  have methodsOf_eq (id : ResourceId) (kind : ListenerKind) (callback : Callback) :
      after.methodsOf id kind callback = target.methodsOf id kind callback := by
    rw [methodsOf, groupOf, group?_eq, ← groupOf, methodsOf]
  refine ⟨?_, ?_, ?_, ?_, ?_, ?_, collections, resources⟩
  · rw [groups, records.ids]
    simp [isOther]
  · rw [groups]
    exact records.distinct
  · rw [groups]
    exact records.filled
  · intro id
    rw [fieldOf?, group?_eq, ← fieldOf?, records.field]
    simp [Call.fieldFor?_of_viewId? isOther]
  · intro id kind callback
    rw [methodsOf_eq, records.methods]
    simp [Call.methodFor?_of_viewId? isOther]
  · intro id kind callback returns
    rw [methodsOf_eq]
    exact records.single id kind callback returns

/-- What one accepted call leaves. -/
theorem snoc (records : Records calls target) {call : Call}
    (accepted : call.after? target = some after) : Records (calls ++ [call]) after := by
  cases call with
  | field id field =>
      refine records.snoc_field ?_
      cases added : target.addField id field with
      | ok extended => simpa [Call.after?, added, Except.toOption] using accepted
      | error refusal => simp [Call.after?, added, Except.toOption] at accepted
  | method id kind callback method => exact records.snoc_method accepted
  | collection collection =>
      obtain rfl := Option.some.inj accepted
      refine records.snoc_other rfl rfl ?_ ?_
      · simp [Call.collection?, records.collections, addCollection]
      · simp [Call.resource?, records.resources, addCollection]
  | resource resource =>
      obtain rfl := Option.some.inj accepted
      refine records.snoc_other rfl rfl ?_ ?_
      · simp [Call.collection?, records.collections, addResource]
      · simp [Call.resource?, records.resources, addResource]

/-- What a run of calls leaves, refused ones among them. -/
theorem run (calls : List Call) : ∀ {made : List Call} {target : Target}, Records made target →
    Records (made ++ target.accepted calls) (target.run calls) := by
  induction calls with
  | nil =>
      intro made target records
      simpa [Target.run, accepted] using records
  | cons call rest ih =>
      intro made target records
      rw [Target.run, List.foldl_cons, ← Target.run, accepted, Call.perform_eq]
      cases result : call.after? target with
      | none => simpa using ih records
      | some after => simpa using ih (records.snoc result)

/-- What the groups hold, from what the target answers. -/
theorem isMadeBy (records : Records calls target) : IsMadeBy calls target := by
  have found {group : ViewGroup} (listed : group ∈ target.groups) :
      target.group? group.id = some group :=
    Listing.find?_key ResourceId.same_self records.distinct listed
  have methods_eq {group : ViewGroup} (listed : group ∈ target.groups) {listener : ListenerBinding}
      (listens : listener ∈ group.listeners) {bound : CallbackBinding}
      (binds : bound ∈ listener.callbacks) :
      target.methodsOf group.id listener.kind bound.callback = bound.methods := by
    rw [methodsOf, groupOf, found listed, Option.getD_some]
    exact ViewGroup.methodsOf_eq_of_mem (records.filled group listed).isSound listens binds
  refine ⟨records.ids, records.distinct, records.filled, ?_, ?_, ?_, records.collections,
    records.resources⟩
  · intro group listed
    rw [← records.field, fieldOf?, found listed, Option.bind_some]
  · intro group listed listener listens bound binds
    rw [← methods_eq listed listens binds, records.methods]
    exact ⟨Listing.nodup_eraseDups _, rfl⟩
  · intro group listed listener listens bound binds returns
    have atMost := records.single group.id listener.kind bound.callback returns
    rw [methods_eq listed listens binds] at atMost
    have filled := (records.filled group listed).listeners listener listens
    exact Nat.le_antisymm atMost (List.length_pos_iff.2 (filled.methods bound binds))

end Records

/-- Whatever calls are made, a target holds what the accepted ones have bound.  A further call is
refused when one of these has taken its place, and then the target stays what it is. -/
theorem isMadeBy_run (type : CodeType) (companion : ClassName) (isFinal : Bool)
    (category : HostCategory) (calls : List Call) :
    let start := Target.empty type companion isFinal category
    IsMadeBy (start.accepted calls) (start.run calls) ∧
      ∀ call : Call,
        (call.perform (start.run calls)).1 =
          (call.after? (start.run calls)).getD (start.run calls) ∧
        ((call.perform (start.run calls)).2 = false ↔ call.IsTaken (start.accepted calls)) ∧
        ((call.perform (start.run calls)).2 = false →
          (call.perform (start.run calls)).1 = start.run calls) := by
  intro start
  have records : Records (start.accepted calls) (start.run calls) :=
    Records.run calls (.empty type companion isFinal category)
  refine ⟨records.isMadeBy, fun call => ?_⟩
  have refused_iff : (call.perform (start.run calls)).2 = false ↔
      call.after? (start.run calls) = none := by
    rw [Call.perform_eq, Option.isSome_eq_false_iff, Option.isNone_iff_eq_none]
  refine ⟨by rw [Call.perform_eq], refused_iff.trans (records.after?_eq_none_iff call), ?_⟩
  intro refused
  rw [Call.perform_eq, refused_iff.1 refused, Option.getD_none]

end Target
end Companion
