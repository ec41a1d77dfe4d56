import Companion.Target

/-!
# Statements of companions

What the constructor and the teardown of a companion do, step by step, apart from how it is
spelled.
-/

namespace Companion

/-- Where a statement takes a view from. -/
inductive ViewPlace where
  /-- The view that the constructor was given. -/
  | source
  /-- The view that was found last. -/
  | found
  deriving DecidableEq, Repr

/-- A search for the view of an id. -/
inductive Lookup where
  /-- A plain search, with a cast to some type. -/
  | plain (cast : Option CodeType) (id : ResourceId)
  /-- A search that describes what it fails for, and that may fail when the view is required.  The
  view is checked to be of the given type. -/
  | described (required : Bool) (id : ResourceId) (description : String) (type : Option CodeType)
  deriving DecidableEq

/-- What is assigned to a field for a view. -/
inductive ViewValue where
  /-- The result of a search. -/
  | search (lookup : Lookup)
  /-- A view at hand. -/
  | place (place : ViewPlace)
  /-- A view at hand, checked to be of some type. -/
  | checked (place : ViewPlace) (description : String) (type : CodeType)
  /-- A view at hand, cast to some type. -/
  | cast (place : ViewPlace) (type : CodeType)
  deriving DecidableEq

/-- An argument of a bound method. -/
inductive Argument where
  /-- An argument of the callback. -/
  | plain (position : Nat)
  /-- An argument of the callback, checked to be of some type. -/
  | checked (position index : Nat) (type : CodeType)
  /-- An argument of the callback, cast to some type. -/
  | cast (position : Nat) (type : CodeType)
  deriving DecidableEq

/-- The position in the callback that an argument is taken from. -/
def Argument.position : Argument → Nat
  | .plain position => position
  | .checked position _ _ => position
  | .cast position _ => position

/-- A call of a bound method. -/
structure MethodCall where
  /-- The method of the target. -/
  method : String
  /-- Its arguments. -/
  arguments : List Argument
  /-- Whether its value is returned. -/
  returns : Bool
  deriving DecidableEq

/-- A callback of a listener with what it does. -/
structure CallbackCode where
  /-- The name of the method. -/
  name : String
  /-- Its return type. -/
  returnType : CodeType
  /-- The types of its parameters. -/
  parameters : List CodeType
  /-- The bound methods that it calls. -/
  calls : List MethodCall
  /-- What it returns when no bound method supplies a value. -/
  fallback : Option String
  deriving DecidableEq

/-- A listener that is attached to a view. -/
structure Attachment where
  /-- The type that the view is cast to for this. -/
  receiver : Option CodeType
  /-- The method that attaches the listener. -/
  setter : String
  /-- The field that keeps the listener. -/
  keptIn : Option String
  /-- The type of the listener. -/
  listener : ClassName
  /-- All callbacks of the listener. -/
  callbacks : List CallbackCode
  deriving DecidableEq

/-- The listeners of one view. -/
structure AttachBlock where
  /-- The view. -/
  place : ViewPlace
  /-- The field that keeps the view. -/
  slot : String
  /-- Whether the view may be missing. -/
  guarded : Bool
  /-- The listeners. -/
  attachments : List Attachment
  deriving DecidableEq

/-- A step that binds one view group. -/
inductive GroupStep where
  /-- Find the view. -/
  | find (lookup : Lookup)
  /-- Assign a field of the target. -/
  | assign (field : String) (value : ViewValue)
  /-- Attach listeners. -/
  | attach (block : AttachBlock)
  deriving DecidableEq

/-- How a resource is loaded. -/
inductive ResourceValue where
  /-- By a method of the resources of the context. -/
  | ofResources (method : String) (id : ResourceId)
  /-- By a method of the context. -/
  | ofContext (method : String) (id : ResourceId)
  /-- By a method of a helper class, from the context. -/
  | byHelper (helper : ClassName) (method : String) (id : ResourceId)
  /-- As a bitmap. -/
  | bitmap (id : ResourceId)
  /-- As a drawable that is tinted. -/
  | tinted (id tint : ResourceId)
  /-- As a typeface of some style. -/
  | styled (font : ResourceValue) (style : TypefaceStyle)
  deriving DecidableEq

/-- What the constructor of the parent is given beside the target. -/
inductive SuperArgument where
  /-- The view. -/
  | source
  /-- The context of the view. -/
  | contextOfSource
  /-- The context. -/
  | context
  deriving DecidableEq, Repr

/-- A statement of the binding constructor. -/
inductive BindStatement where
  | callSuper (argument : SuperArgument)
  /-- Keep the target in its field. -/
  | keepTarget
  /-- Declare the local variable for views. -/
  | declareView
  /-- Bind the view group of an id. -/
  | group (id : ResourceId) (step : GroupStep)
  /-- Assign a collection of views to a field. -/
  | assignCollection (field factory : String) (items : List Lookup)
  /-- Declare the local variable for the context. -/
  | declareContext
  /-- Declare the local variable for the resources. -/
  | declareResources
  /-- Assign a resource to a field. -/
  | assignResource (field : String) (value : ResourceValue)
  deriving DecidableEq

/-- A listener that is detached from a view. -/
structure Detachment where
  /-- The type that the view is cast to for this. -/
  receiver : Option CodeType
  /-- The method that detaches the listener. -/
  method : String
  /-- The field that keeps the listener. -/
  keptIn : Option String
  deriving DecidableEq

/-- The listeners of one view, to be detached. -/
structure DetachBlock where
  /-- The field that keeps the view. -/
  slot : String
  /-- Whether the view may be missing. -/
  guarded : Bool
  /-- The listeners. -/
  detachments : List Detachment
  deriving DecidableEq

/-- A statement of the teardown. -/
inductive UnbindStatement where
  /-- Copy the target to a local variable. -/
  | copyTarget (type : CodeType)
  /-- Fail when there is no target any more. -/
  | checkTarget
  /-- Forget the target, which a local variable may shadow. -/
  | forgetTarget (shadowed : Bool)
  /-- Clear a field of the target. -/
  | clearField (field : String)
  /-- Detach listeners. -/
  | detach (block : DetachBlock)
  | callSuper
  deriving DecidableEq

/-- A private field of a companion. -/
structure FieldCode where
  /-- Its type. -/
  type : CodeType
  /-- Its name. -/
  name : String
  deriving DecidableEq

/-- What the shortest constructor passes on beside the target. -/
inductive HostArgument where
  /-- The target, which is a view or a context. -/
  | target
  /-- The context of the target. -/
  | contextOfTarget
  /-- The root view of the target's window. -/
  | decorView
  deriving DecidableEq, Repr

/-- The constructor that binds. -/
structure BindConstructor where
  /-- Whether plain numbers stand for resources. -/
  plainResources : Bool
  /-- Whether a touch listener is attached. -/
  touches : Bool
  /-- Whether listeners refer to the target. -/
  targetIsFinal : Bool
  /-- Whether it takes a view rather than a context. -/
  takesView : Bool
  /-- Its statements, in paragraphs. -/
  body : List (List BindStatement)
  deriving DecidableEq

/-- The method that undoes the binding. -/
structure UnbindMethod where
  /-- Whether overriding methods must call it. -/
  mustBeCalled : Bool
  /-- Its statements, in paragraphs. -/
  body : List (List UnbindStatement)
  deriving DecidableEq

/-- The class that does the binding for a target. -/
structure CompanionCode where
  /-- Its name. -/
  name : ClassName
  /-- The type of the target. -/
  target : CodeType
  /-- Whether it cannot be extended. -/
  isFinal : Bool
  /-- The companion that it extends. -/
  parent : Option ClassName
  /-- Its private fields. -/
  fields : List FieldCode
  /-- What the constructor with only a target passes on, if there is one. -/
  host : Option HostArgument
  /-- Whether there is a constructor that takes a view for its context. -/
  delegates : Bool
  /-- The constructor that binds. -/
  bind : BindConstructor
  /-- The method that undoes the binding, unless it is inherited. -/
  unbind : Option UnbindMethod
  deriving DecidableEq

end Companion
