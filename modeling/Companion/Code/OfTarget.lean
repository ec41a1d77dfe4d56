import Companion.Code.Known
import Companion.Code.Statement
import Companion.CodeType.Parser
import Companion.Listener.Standard
import Companion.Options

/-!
# Companions of targets

The companion of a linked target.  Debuggable code checks and describes what release code merely
casts; both do the same things in the same order.
-/

namespace Companion

/-- Why no companion can be made. -/
inductive GenerationError where
  /-- A method takes an argument that its callback does not have. -/
  | missingArgument (marker callback : String) (position : Nat)
  | binding (error : BindingError)
  deriving DecidableEq, Repr

/-- The error in words. -/
def GenerationError.message : GenerationError → String
  | .missingArgument marker callback position =>
    s!"Invalid listener declaration on @{marker}: {callback} has no parameter at position {position}"
  | .binding error => error.message

/-- The outcome of making a part of a companion. -/
abbrev Generated (α : Type) := Except GenerationError α

namespace Generation

/-- Read a class name of the listener table. -/
def className (text : String) : Generated ClassName :=
  (ClassName.ofText text).mapError .binding

/-- Read a type of the listener table. -/
def typeOf (text : String) : Generated CodeType := (CodeType.ofText text).mapError .binding

/-- The hexadecimal digits of the 32 bits of a number. -/
def hexDigits (value : Int32) : String := String.ofList (Nat.toDigits 16 value.toUInt32.toNat)

/-- The field that keeps the view of a group. -/
def slotName (group : ViewGroup) : String :=
  if group.isRoot then "viewSource" else "view" ++ hexDigits group.id.value

/-- The field that keeps a listener for the method that detaches it. -/
def listenerField (slot : String) (listener : ClassName) : String := slot ++ listener.simpleName

/-- Where the statements of a group take their view from. -/
def placeOf (group : ViewGroup) : ViewPlace := if group.isRoot then .source else .found

/-- The search for the view of a field that is alone in its group, or in a collection. -/
def searchFor (debuggable required : Bool) (type : CodeType) (description : String)
    (id : ResourceId) : Lookup :=
  let cast := if type.needsViewCast then some type else none
  if debuggable && (required || type.needsViewCast) then
    .described required id description (cast.map CodeType.raw)
  else .plain cast id

/-- The value of a field whose view is at hand. -/
def valueAt (debuggable : Bool) (place : ViewPlace) (field : FieldBinding) : ViewValue :=
  if field.type.needsViewCast then
    if debuggable then .checked place field.description field.type.raw
    else .cast place field.type
  else .place place

/-- The search for the view of a group with several bindings. -/
def groupLookup (debuggable : Bool) (group : ViewGroup) : Lookup :=
  if debuggable && !group.isOptional then
    .described true group.id (enumerated group.requiredDescriptions) none
  else .plain none group.id

/-- The type that a view is cast to before a listener is attached. -/
def receiverType (kind : ListenerKind) : Generated (Option CodeType) :=
  if kind.targetType = CodeType.viewSpelling then return none
  else return some (← typeOf kind.targetType)

/-- An argument of a bound method. -/
def argumentCode (debuggable : Bool) (kind : ListenerKind) (callback : Callback) (index : Nat)
    (parameter : BoundParameter) : Generated Argument :=
  match callback.parameters[parameter.position]? with
  | none => .error (.missingArgument kind.marker callback.name parameter.position)
  | some argument =>
    if parameter.needsCast argument then
      if debuggable then .ok (.checked parameter.position index parameter.type.raw)
      else .ok (.cast parameter.position parameter.type)
    else .ok (.plain parameter.position)

/-- The call of a bound method. -/
def methodCall (debuggable : Bool) (kind : ListenerKind) (callback : Callback)
    (method : MethodBinding) : Generated MethodCall := do
  let arguments ← method.parameters.zipIdx.mapM fun (parameter, index) =>
    argumentCode debuggable kind callback index parameter
  return ⟨method.name, arguments, method.returnsValue⟩

/-- A callback of a listener. -/
def callbackCode (debuggable : Bool) (listener : ListenerBinding) (callback : Callback) :
    Generated CallbackCode := do
  let returnType ← typeOf callback.returnType
  let parameters ← callback.parameters.mapM typeOf
  let calls ← (listener.methodsOf callback).mapM (methodCall debuggable listener.kind callback)
  let fallback :=
    if callback.returnsValue && !calls.any MethodCall.returns then some callback.defaultReturn
    else none
  return ⟨callback.name, returnType, parameters, calls, fallback⟩

/-- A listener that is attached to the view of a group. -/
def attachment (debuggable : Bool) (slot : String) (listener : ListenerBinding) :
    Generated Attachment := do
  let kind := listener.kind
  let type ← className kind.listenerType
  let receiver ← receiverType kind
  let callbacks ← kind.declared.mapM (callbackCode debuggable listener)
  return ⟨receiver, kind.setter, kind.remover.map fun _ => listenerField slot type, type,
    callbacks⟩

/-- The listeners of a group. -/
def attachBlock (debuggable : Bool) (group : ViewGroup) : Generated AttachBlock := do
  let slot := slotName group
  return ⟨placeOf group, slot, group.isOptional,
    ← group.listeners.mapM (attachment debuggable slot)⟩

/-- The steps that bind a group. -/
def groupSteps (debuggable : Bool) (group : ViewGroup) : Generated (List GroupStep) :=
  match group.field, group.listeners with
  | some field, [] =>
    let lookup := searchFor debuggable field.required field.type field.description group.id
    return [.assign field.name (.search lookup)]
  | field, listeners => do
    let find := if group.isRoot then [] else [.find (groupLookup debuggable group)]
    let assign := field.toList.map fun field =>
      GroupStep.assign field.name (valueAt debuggable (placeOf group) field)
    let attach ← if listeners = [] then pure [] else
      pure [GroupStep.attach (← attachBlock debuggable group)]
    return find ++ assign ++ attach

/-- The statements that bind a group. -/
def groupStatements (debuggable : Bool) (group : ViewGroup) : Generated (List BindStatement) := do
  return (← groupSteps debuggable group).map (.group group.id)

/-- The statement that binds a collection. -/
def collectionStatement (debuggable : Bool) (collection : CollectionBinding) : BindStatement :=
  .assignCollection collection.name collection.kind.factory (collection.ids.map
    (searchFor debuggable collection.required collection.elementType collection.description))

/-- A value that the context itself gives from some API level on. -/
def contextValue (minSdk level : Nat) (method : String) (id : ResourceId) : ResourceValue :=
  if level ≤ minSdk then .ofContext method id else .byHelper Known.contextCompat method id

/-- How a resource is loaded. -/
def resourceValue (minSdk : Nat) (id : ResourceId) : ResourceKind → ResourceValue
  | .animation => .byHelper Known.animationUtils "loadAnimation" id
  | .bitmap => .bitmap id
  | .bool => .ofResources "getBoolean" id
  | .color => contextValue minSdk ResourceKind.contextColorLevel "getColor" id
  | .colorStateList => contextValue minSdk ResourceKind.contextColorLevel "getColorStateList" id
  | .dimenAsInt => .ofResources "getDimensionPixelSize" id
  | .dimenAsFloat => .ofResources "getDimension" id
  | .drawable (some tint) => .tinted id tint
  | .drawable none => contextValue minSdk ResourceKind.contextDrawableLevel "getDrawable" id
  | .float => .byHelper Known.utils "getFloat" id
  | .int => .ofResources "getInteger" id
  | .intArray => .ofResources "getIntArray" id
  | .string => .ofResources "getString" id
  | .stringArray => .ofResources "getStringArray" id
  | .textArray => .ofResources "getTextArray" id
  | .typedArray => .ofResources "obtainTypedArray" id
  | .typeface style =>
    let font :=
      if ResourceKind.resourcesFontLevel ≤ minSdk then .ofResources "getFont" id
      else .byHelper Known.resourcesCompat "getFont" id
    if style = .normal then font else .styled font style
  | .attrColor => .byHelper Known.utils "getThemeColor" id
  | .attrColorStateList => .byHelper Known.utils "getThemeColorStateList" id

/-- The statement that binds a resource. -/
def resourceStatement (minSdk : Nat) (resource : ResourceBinding) : BindStatement :=
  .assignResource resource.name (resourceValue minSdk resource.id resource.kind)

/-- What the constructor of the parent is given. -/
def superArgument (takesView : Bool) (parent : ParentLink) : SuperArgument :=
  if parent.needsView then .source else if takesView then .contextOfSource else .context

/-- What the constructor with only a target passes on. -/
def hostArgument (takesView : Bool) : HostCategory → Option HostArgument
  | .view => some (if takesView then .target else .contextOfTarget)
  | .activity => some (if takesView then .decorView else .target)
  | .dialog => some (if takesView then .decorView else .contextOfTarget)
  | .generic => none

/-- The paragraph that binds views. -/
def viewParagraph (options : Options) (target : Target) : Generated (List BindStatement) := do
  let groups ← target.groups.mapM (groupStatements options.debuggable)
  return (if target.needsViewLocal then [.declareView] else []) ++ groups.flatten ++
    target.collections.map (collectionStatement options.debuggable)

/-- The paragraph that binds resources. -/
def resourceParagraph (options : Options) (target : LinkedTarget) : List BindStatement :=
  (if target.needsView then [.declareContext] else []) ++
    (if target.needsResources options.minSdk then [.declareResources] else []) ++
    target.resources.map (resourceStatement options.minSdk)

/-- The statements of the constructor that binds. -/
def bindBody (options : Options) (target : LinkedTarget) :
    Generated (List (List BindStatement)) := do
  let views ← viewParagraph options target.toTarget
  return (target.parent.toList.map fun parent =>
      [.callSuper (superArgument target.needsView parent)]) ++
    (if target.keepsTarget then [[.keepTarget]] else []) ++
    (if target.bindsViews then [views] else []) ++
    (if target.resources = [] then [] else [resourceParagraph options target])

/-- The constructor that binds. -/
def bindConstructor (options : Options) (target : LinkedTarget) : Generated BindConstructor := do
  return ⟨target.hasPlainResources, target.hasListener ListenerKind.onTouch, target.bindsMethods,
    target.needsView, ← bindBody options target⟩

/-- A listener that is detached from the view of a group. -/
def detachment (slot : String) (listener : ListenerBinding) : Generated Detachment := do
  let kind := listener.kind
  let receiver ← receiverType kind
  let type ← className kind.listenerType
  return ⟨receiver, kind.detacher, kind.remover.map fun _ => listenerField slot type⟩

/-- The listeners of a group, to be detached. -/
def detachBlock (group : ViewGroup) : Generated DetachBlock := do
  let slot := slotName group
  return ⟨slot, group.isOptional, ← group.listeners.mapM (detachment slot)⟩

/-- The groups of a target that have listeners. -/
def listenerGroups (target : Target) : List ViewGroup :=
  target.groups.filter fun group => group.listeners ≠ []

/-- The paragraph that forgets the target. -/
def forgetParagraph (target : Target) : List UnbindStatement :=
  (if target.bindsFields then [.copyTarget target.type] else []) ++
    [.checkTarget, .forgetTarget target.bindsFields]

/-- The paragraph that clears the fields of the target. -/
def clearParagraph (target : Target) : List UnbindStatement :=
  (target.groups.filterMap ViewGroup.field).map (fun field => .clearField field.name) ++
    target.collections.map fun collection => .clearField collection.name

/-- The statements of the teardown. -/
def unbindBody (target : LinkedTarget) : Generated (List (List UnbindStatement)) := do
  let detached ← (listenerGroups target.toTarget).mapM fun group =>
    return .detach (← detachBlock group)
  return (if target.keepsTarget then
      [forgetParagraph target.toTarget, clearParagraph target.toTarget] else []) ++
    (if target.bindsMethods then [detached] else []) ++
    (target.parent.toList.map fun _ => [.callSuper])

/-- The method that undoes the binding, unless it is inherited. -/
def unbindMethod (target : LinkedTarget) : Generated (Option UnbindMethod) := do
  if target.bindsViews || target.parent.isNone then
    return some ⟨!target.isFinal && target.parent.isNone, ← unbindBody target⟩
  else return none

/-- The field of a listener that is kept for the method that detaches it. -/
def listenerFieldCode (slot : String) (kind : ListenerKind) : Generated (Option FieldCode) :=
  match kind.remover with
  | none => return none
  | some _ => do
    let type ← className kind.listenerType
    return some ⟨.classType type, listenerField slot type⟩

/-- The fields of a group with listeners. -/
def groupFields (group : ViewGroup) : Generated (List FieldCode) := do
  let slot := slotName group
  let listeners ← group.listeners.mapM fun listener => listenerFieldCode slot listener.kind
  return ⟨.classType Known.view, slot⟩ :: listeners.filterMap id

/-- The private fields of a companion. -/
def fieldCodes (target : Target) : Generated (List FieldCode) := do
  let groups ← (listenerGroups target).mapM groupFields
  return (if target.keepsTarget then [⟨target.type, "target"⟩] else []) ++ groups.flatten

end Generation

/-- The companion of a target. -/
def CompanionCode.ofTarget (options : Options) (target : LinkedTarget) :
    Generated CompanionCode := do
  let fields ← Generation.fieldCodes target.toTarget
  let bind ← Generation.bindConstructor options target
  let unbind ← Generation.unbindMethod target
  return {
    name := target.companion
    target := target.type
    isFinal := target.isFinal
    parent := target.parent.map ParentLink.companion
    fields
    host := Generation.hostArgument target.needsView target.category
    delegates := !target.needsView
    bind
    unbind }

end Companion
