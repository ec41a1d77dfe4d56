import Companion.Code.OfTarget
import Companion.Proofs.Success

/-!
# Release code

Release code is debuggable code without its checks.  A search that describes what it fails for
becomes a plain one, and a checked cast a plain one, to the full type and not the type without its
arguments.  Nothing else changes: a companion has the same fields and constructors in both, and does
the same with the same views, arguments and resources in the same order.
-/

namespace Companion

/-- Whether a search, without its checks, is another one. -/
inductive Lookup.Sheds : Lookup → Lookup → Prop where
  | plain (cast : Option CodeType) (id : ResourceId) : Sheds (.plain cast id) (.plain cast id)
  | described (required : Bool) (id : ResourceId) (description : String) (cast : Option CodeType) :
      Sheds (.described required id description (cast.map CodeType.raw)) (.plain cast id)

/-- Whether what is assigned to a field, without its checks, is something else. -/
inductive ViewValue.Sheds : ViewValue → ViewValue → Prop where
  | search {lookup other : Lookup} (sheds : lookup.Sheds other) :
      Sheds (.search lookup) (.search other)
  | place (place : ViewPlace) : Sheds (.place place) (.place place)
  | checked (place : ViewPlace) (description : String) (type : CodeType) :
      Sheds (.checked place description type.raw) (.cast place type)

/-- Whether an argument of a bound method, without its check, is another one. -/
inductive Argument.Sheds : Argument → Argument → Prop where
  | plain (position : Nat) : Sheds (.plain position) (.plain position)
  | checked (position index : Nat) (type : CodeType) :
      Sheds (.checked position index type.raw) (.cast position type)

/-- Whether a call, without the checks of its arguments, is another one. -/
structure MethodCall.Sheds (call other : MethodCall) : Prop where
  method : other.method = call.method
  arguments : List.Forall₂ Argument.Sheds call.arguments other.arguments
  returns : other.returns = call.returns

/-- Whether a callback, without the checks in its calls, is another one. -/
structure CallbackCode.Sheds (code other : CallbackCode) : Prop where
  name : other.name = code.name
  returnType : other.returnType = code.returnType
  parameters : other.parameters = code.parameters
  calls : List.Forall₂ MethodCall.Sheds code.calls other.calls
  fallback : other.fallback = code.fallback

/-- Whether a listener, without the checks in its callbacks, is another one. -/
structure Attachment.Sheds (attachment other : Attachment) : Prop where
  receiver : other.receiver = attachment.receiver
  setter : other.setter = attachment.setter
  keptIn : other.keptIn = attachment.keptIn
  listener : other.listener = attachment.listener
  callbacks : List.Forall₂ CallbackCode.Sheds attachment.callbacks other.callbacks

/-- Whether the listeners of a view, without their checks, are others. -/
structure AttachBlock.Sheds (block other : AttachBlock) : Prop where
  place : other.place = block.place
  slot : other.slot = block.slot
  guarded : other.guarded = block.guarded
  attachments : List.Forall₂ Attachment.Sheds block.attachments other.attachments

/-- Whether a step, without its checks, is another one. -/
inductive GroupStep.Sheds : GroupStep → GroupStep → Prop where
  | find {lookup other : Lookup} (sheds : lookup.Sheds other) : Sheds (.find lookup) (.find other)
  | assign (field : String) {value other : ViewValue} (sheds : value.Sheds other) :
      Sheds (.assign field value) (.assign field other)
  | attach {block other : AttachBlock} (sheds : block.Sheds other) :
      Sheds (.attach block) (.attach other)

/-- Whether a statement, without its checks, is another one.  Only statements on views have any. -/
inductive BindStatement.Sheds : BindStatement → BindStatement → Prop where
  | callSuper (argument : SuperArgument) : Sheds (.callSuper argument) (.callSuper argument)
  | keepTarget : Sheds .keepTarget .keepTarget
  | declareView : Sheds .declareView .declareView
  | group (id : ResourceId) {step other : GroupStep} (sheds : step.Sheds other) :
      Sheds (.group id step) (.group id other)
  | assignCollection (field factory : String) {items others : List Lookup}
      (sheds : List.Forall₂ Lookup.Sheds items others) :
      Sheds (.assignCollection field factory items) (.assignCollection field factory others)
  | declareContext : Sheds .declareContext .declareContext
  | declareResources : Sheds .declareResources .declareResources
  | assignResource (field : String) (value : ResourceValue) :
      Sheds (.assignResource field value) (.assignResource field value)

/-- Whether a constructor that binds, without its checks, is another one. -/
structure BindConstructor.Sheds (bind other : BindConstructor) : Prop where
  plainResources : other.plainResources = bind.plainResources
  touches : other.touches = bind.touches
  targetIsFinal : other.targetIsFinal = bind.targetIsFinal
  takesView : other.takesView = bind.takesView
  body : List.Forall₂ (List.Forall₂ BindStatement.Sheds) bind.body other.body

/-- Whether a companion, without the checks of its constructor, is another one. -/
structure CompanionCode.Sheds (code other : CompanionCode) : Prop where
  name : other.name = code.name
  target : other.target = code.target
  isFinal : other.isFinal = code.isFinal
  parent : other.parent = code.parent
  fields : other.fields = code.fields
  host : other.host = code.host
  delegates : other.delegates = code.delegates
  bind : code.bind.Sheds other.bind
  unbind : other.unbind = code.unbind

namespace Generation

theorem sheds_searchFor (required : Bool) (type : CodeType) (description : String)
    (id : ResourceId) : (searchFor true required type description id).Sheds
      (searchFor false required type description id) := by
  unfold searchFor
  dsimp only
  rw [Bool.true_and, Bool.false_and, if_neg Bool.false_ne_true]
  split
  · exact .described ..
  · exact .plain ..

theorem sheds_valueAt (place : ViewPlace) (field : FieldBinding) :
    (valueAt true place field).Sheds (valueAt false place field) := by
  unfold valueAt
  split
  · exact .checked ..
  · exact .place place

theorem sheds_groupLookup (group : ViewGroup) :
    (groupLookup true group).Sheds (groupLookup false group) := by
  unfold groupLookup
  rw [Bool.true_and, Bool.false_and, if_neg Bool.false_ne_true]
  split
  · exact .described true group.id _ none
  · exact .plain none group.id

theorem agree_argumentCode (kind : ListenerKind) (callback : Callback) (index : Nat)
    (parameter : BoundParameter) : Agree Argument.Sheds
      (argumentCode true kind callback index parameter)
      (argumentCode false kind callback index parameter) := by
  unfold argumentCode
  split
  · exact .error _
  · split
    · exact .ok (.checked ..)
    · exact .ok (.plain parameter.position)

theorem agree_methodCall (kind : ListenerKind) (callback : Callback) (method : MethodBinding) :
    Agree MethodCall.Sheds (methodCall true kind callback method)
      (methodCall false kind callback method) := by
  have arguments := Agree.mapM method.parameters.zipIdx fun item _ =>
    agree_argumentCode kind callback item.2 item.1
  exact arguments.bind fun _ _ sheds => .ok ⟨rfl, sheds, rfl⟩

/-- Whether a callback falls back to a value does not depend on the checks. -/
theorem any_returns_of_sheds {calls others : List MethodCall}
    (sheds : List.Forall₂ MethodCall.Sheds calls others) :
    others.any MethodCall.returns = calls.any MethodCall.returns := by
  induction sheds with
  | nil => rfl
  | cons here _ ih => rw [List.any_cons, List.any_cons, here.returns, ih]

theorem agree_callbackCode (listener : ListenerBinding) (callback : Callback) :
    Agree CallbackCode.Sheds (callbackCode true listener callback)
      (callbackCode false listener callback) := by
  have calls := Agree.mapM (listener.methodsOf callback) fun method _ =>
    agree_methodCall listener.kind callback method
  refine .bind_same fun returnType => .bind_same fun parameters => calls.bind fun _ _ sheds => ?_
  refine .ok ⟨rfl, rfl, rfl, sheds, ?_⟩
  dsimp only
  rw [any_returns_of_sheds sheds]

theorem agree_attachment (slot : String) (listener : ListenerBinding) :
    Agree Attachment.Sheds (attachment true slot listener) (attachment false slot listener) := by
  have callbacks := Agree.mapM listener.kind.declared fun callback _ =>
    agree_callbackCode listener callback
  exact .bind_same fun type => .bind_same fun receiver => callbacks.bind fun _ _ sheds =>
    .ok ⟨rfl, rfl, rfl, rfl, sheds⟩

theorem agree_attachBlock (group : ViewGroup) :
    Agree AttachBlock.Sheds (attachBlock true group) (attachBlock false group) := by
  have attachments := Agree.mapM group.listeners fun listener _ =>
    agree_attachment (slotName group) listener
  exact attachments.bind fun _ _ sheds => .ok ⟨rfl, rfl, rfl, sheds⟩

theorem sheds_assign (place : ViewPlace) (fields : List FieldBinding) :
    List.Forall₂ GroupStep.Sheds
      (fields.map fun field => .assign field.name (valueAt true place field))
      (fields.map fun field => .assign field.name (valueAt false place field)) := by
  rw [List.forall₂_map_left_iff, List.forall₂_map_right_iff, List.forall₂_same]
  exact fun field _ => .assign field.name (sheds_valueAt place field)

theorem agree_groupSteps (group : ViewGroup) :
    Agree (List.Forall₂ GroupStep.Sheds) (groupSteps true group) (groupSteps false group) := by
  unfold groupSteps
  split
  · exact .ok (.cons (.assign _ (.search (sheds_searchFor ..))) .nil)
  · have find : List.Forall₂ GroupStep.Sheds
        (if group.isRoot then [] else [.find (groupLookup true group)])
        (if group.isRoot then [] else [.find (groupLookup false group)]) := by
      split
      · exact .nil
      · exact .cons (.find (sheds_groupLookup group)) .nil
    have front := List.rel_append find (sheds_assign (placeOf group) group.field.toList)
    dsimp only
    split
    · exact .ok (List.rel_append front .nil)
    · refine (agree_attachBlock group).bind fun _ _ sheds => ?_
      exact .ok (List.rel_append front (.cons (.attach sheds) .nil))

theorem agree_groupStatements (group : ViewGroup) :
    Agree (List.Forall₂ BindStatement.Sheds) (groupStatements true group)
      (groupStatements false group) := by
  refine (agree_groupSteps group).bind fun _ _ sheds => .ok ?_
  rw [List.forall₂_map_left_iff, List.forall₂_map_right_iff]
  exact sheds.imp fun _ _ step => .group group.id step

theorem sheds_collectionStatement (collection : CollectionBinding) :
    (collectionStatement true collection).Sheds (collectionStatement false collection) := by
  refine .assignCollection _ _ ?_
  rw [List.forall₂_map_left_iff, List.forall₂_map_right_iff, List.forall₂_same]
  exact fun id _ => sheds_searchFor _ _ _ id

theorem agree_viewParagraph (minSdk : Nat) (target : Target) :
    Agree (List.Forall₂ BindStatement.Sheds) (viewParagraph ⟨minSdk, true⟩ target)
      (viewParagraph ⟨minSdk, false⟩ target) := by
  have groups := Agree.mapM target.groups fun group _ => agree_groupStatements group
  have declared : List.Forall₂ BindStatement.Sheds
      (if target.needsViewLocal then [.declareView] else [])
      (if target.needsViewLocal then [.declareView] else []) := by
    split
    · exact .cons .declareView .nil
    · exact .nil
  have collections : List.Forall₂ BindStatement.Sheds
      (target.collections.map (collectionStatement true))
      (target.collections.map (collectionStatement false)) := by
    rw [List.forall₂_map_left_iff, List.forall₂_map_right_iff, List.forall₂_same]
    exact fun collection _ => sheds_collectionStatement collection
  refine groups.bind fun _ _ sheds => .ok ?_
  exact List.rel_append (List.rel_append declared (List.rel_flatten sheds)) collections

/-- Resources are loaded without checks. -/
theorem sheds_resourceParagraph (minSdk : Nat) (target : LinkedTarget) :
    List.Forall₂ BindStatement.Sheds (resourceParagraph ⟨minSdk, true⟩ target)
      (resourceParagraph ⟨minSdk, false⟩ target) := by
  refine List.forall₂_same.2 fun statement listed => ?_
  rcases List.mem_append.1 listed with front | resource
  · rcases List.mem_append.1 front with context | resources
    · split at context
      · rw [List.mem_singleton.1 context]
        exact .declareContext
      · cases context
    · split at resources
      · rw [List.mem_singleton.1 resources]
        exact .declareResources
      · cases resources
  · obtain ⟨binding, -, rfl⟩ := List.mem_map.1 resource
    exact .assignResource ..

theorem agree_bindBody (minSdk : Nat) (target : LinkedTarget) :
    Agree (List.Forall₂ (List.Forall₂ BindStatement.Sheds)) (bindBody ⟨minSdk, true⟩ target)
      (bindBody ⟨minSdk, false⟩ target) := by
  refine (agree_viewParagraph minSdk target.toTarget).bind fun views others sheds => .ok ?_
  refine List.rel_append (List.rel_append (List.rel_append ?_ ?_) ?_) ?_
  · rw [List.forall₂_map_left_iff, List.forall₂_map_right_iff, List.forall₂_same]
    exact fun parent _ => .cons (.callSuper _) .nil
  · split
    · exact .cons (.cons .keepTarget .nil) .nil
    · exact .nil
  · split
    · exact .cons sheds .nil
    · exact .nil
  · split
    · exact .nil
    · exact .cons (sheds_resourceParagraph minSdk target) .nil

theorem agree_bindConstructor (minSdk : Nat) (target : LinkedTarget) :
    Agree BindConstructor.Sheds (bindConstructor ⟨minSdk, true⟩ target)
      (bindConstructor ⟨minSdk, false⟩ target) :=
  (agree_bindBody minSdk target).bind fun _ _ sheds => .ok ⟨rfl, rfl, rfl, rfl, sheds⟩

end Generation

/-- For every target and API level, release code is made whenever debuggable code is, and is the
debuggable code without its checks. -/
theorem CompanionCode.agree_ofTarget (minSdk : Nat) (target : LinkedTarget) :
    Agree CompanionCode.Sheds (ofTarget ⟨minSdk, true⟩ target)
      (ofTarget ⟨minSdk, false⟩ target) := by
  refine .bind_same fun fields => ?_
  refine (Generation.agree_bindConstructor minSdk target).bind fun bind other sheds => ?_
  refine .bind_same fun unbind => ?_
  exact .ok ⟨rfl, rfl, rfl, rfl, rfl, rfl, rfl, sheds, rfl⟩

end Companion
