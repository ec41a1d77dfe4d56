import Companion.CodeType.Basic
import Companion.Listener.Basic
import Companion.Listing
import Companion.ResourceId

/-!
# View groups

All bindings of one view: the field that holds it and the methods that its listeners call.  A group
looks its view up once, whatever is bound to it.
-/

namespace Companion

/-- A field that holds the view of an id. -/
structure FieldBinding where
  /-- The name of the field. -/
  name : String
  /-- Its type. -/
  type : CodeType
  /-- Whether the view must be found. -/
  required : Bool
  deriving DecidableEq

/-- A parameter of a bound method and the callback argument that feeds it. -/
structure BoundParameter where
  /-- The position of the argument in the callback. -/
  position : Nat
  /-- The type of the parameter. -/
  type : CodeType
  deriving DecidableEq

/-- A method that a listener callback calls. -/
structure MethodBinding where
  /-- The name of the method. -/
  name : String
  /-- Its parameters. -/
  parameters : List BoundParameter
  /-- Whether the view must be found. -/
  required : Bool
  /-- Whether the method returns a value. -/
  returnsValue : Bool
  deriving DecidableEq

namespace FieldBinding

/-- The field in words. -/
def description (field : FieldBinding) : String := s!"field '{field.name}'"

end FieldBinding

namespace BoundParameter

/-- Whether the argument of a callback has to be cast to the parameter's type. -/
def needsCast (parameter : BoundParameter) (argument : String) : Bool :=
  parameter.type.display ≠ argument

end BoundParameter

namespace MethodBinding

/-- The method in words. -/
def description (method : MethodBinding) : String := s!"method '{method.name}'"

end MethodBinding

/-- A callback with the methods that it calls. -/
structure CallbackBinding where
  /-- The callback. -/
  callback : Callback
  /-- The methods, in order of insertion. -/
  methods : List MethodBinding
  deriving DecidableEq

/-- A listener with its bound callbacks. -/
structure ListenerBinding where
  /-- The kind of listener. -/
  kind : ListenerKind
  /-- The callbacks that have methods, in order of insertion. -/
  callbacks : List CallbackBinding
  deriving DecidableEq

namespace ListenerBinding

/-- The methods bound to a callback. -/
def methodsOf (listener : ListenerBinding) (callback : Callback) : List MethodBinding :=
  ((listener.callbacks.find? fun bound => bound.callback = callback).map
    CallbackBinding.methods).getD []

/-- The listener with a method added to a callback. -/
def add (callback : Callback) (method : MethodBinding) (listener : ListenerBinding) :
    ListenerBinding :=
  { listener with
    callbacks := Listing.alter (fun bound => bound.callback = callback)
      (fun bound => { bound with methods := Listing.addNew method bound.methods })
      ⟨callback, []⟩ listener.callbacks }

end ListenerBinding

/-- All bindings that share the id of a view. -/
structure ViewGroup where
  /-- The id of the view. -/
  id : ResourceId
  /-- The field that holds the view. -/
  field : Option FieldBinding
  /-- The listeners on the view, in order of insertion. -/
  listeners : List ListenerBinding
  deriving DecidableEq

namespace ViewGroup

/-- The group of an id without bindings. -/
def empty (id : ResourceId) : ViewGroup := ⟨id, none, []⟩

/-- The listener of some kind on the view. -/
def listener? (group : ViewGroup) (kind : ListenerKind) : Option ListenerBinding :=
  group.listeners.find? fun listener => listener.kind.same kind

/-- Whether the view has a listener of some kind. -/
def hasListener (group : ViewGroup) (kind : ListenerKind) : Bool := (group.listener? kind).isSome

/-- Whether some method is bound to a callback. -/
def hasMethod (group : ViewGroup) (kind : ListenerKind) (callback : Callback) : Bool :=
  (group.listener? kind).any fun listener =>
    listener.callbacks.any fun bound => bound.callback = callback

/-- The group with a field, which it may have only once. -/
def setField (group : ViewGroup) (field : FieldBinding) : Except BindingError ViewGroup :=
  match group.field with
  | some existing => .error (.fieldAlreadyBound group.id.value existing.name field.name)
  | none => .ok { group with field := some field }

/-- The group with a method under a callback; the same method is kept once. -/
def addMethod (group : ViewGroup) (kind : ListenerKind) (callback : Callback)
    (method : MethodBinding) : ViewGroup :=
  { group with
    listeners := Listing.alter (fun listener => listener.kind.same kind)
      (ListenerBinding.add callback method) ⟨kind, []⟩ group.listeners }

/-- Whether the group is bound to the bound object itself. -/
def isRoot (group : ViewGroup) : Bool := group.id.isRoot

/-- Whether the group has a field and nothing else. -/
def isSingleField (group : ViewGroup) : Bool := group.field.isSome && group.listeners = []

/-- Whether the view found is held in a local variable. -/
def needsLocal (group : ViewGroup) : Bool := !(group.isRoot || group.isSingleField)

/-- The methods of all listeners, in order. -/
def methods (group : ViewGroup) : List MethodBinding :=
  group.listeners.flatMap fun listener => listener.callbacks.flatMap CallbackBinding.methods

/-- The required members in words, the field first. -/
def requiredDescriptions (group : ViewGroup) : List String :=
  ((group.field.filter FieldBinding.required).map FieldBinding.description).toList ++
    (group.methods.filter MethodBinding.required).map MethodBinding.description

/-- Whether no member is required, so that every use of the view is guarded. -/
def isOptional (group : ViewGroup) : Bool := group.requiredDescriptions = []

end ViewGroup

/-- The sort of a collection of views. -/
inductive CollectionKind where
  | array
  | list
  deriving DecidableEq, Repr

/-- The helper that assembles a collection and leaves out what was not found. -/
def CollectionKind.factory : CollectionKind → String
  | .array => "arrayFilteringNull"
  | .list => "listFilteringNull"

/-- A field that holds the views of several ids. -/
structure CollectionBinding where
  /-- The name of the field. -/
  name : String
  /-- The type of one view. -/
  elementType : CodeType
  /-- The sort of the collection. -/
  kind : CollectionKind
  /-- Whether every view must be found. -/
  required : Bool
  /-- The ids, in order. -/
  ids : List ResourceId
  deriving DecidableEq

/-- The field of a collection in words. -/
def CollectionBinding.description (collection : CollectionBinding) : String :=
  s!"field '{collection.name}'"

/-- Join descriptions as an English enumeration. -/
def enumerated : List String → String
  | [] => ""
  | [only] => only
  | [first, second] => s!"{first} and {second}"
  | several =>
    let first := Text.joined ", " several.dropLast
    let last := several.getLast?.getD ""
    s!"{first}, and {last}"

end Companion
