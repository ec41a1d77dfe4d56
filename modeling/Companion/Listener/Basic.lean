/-!
# Listener kinds

A listener kind describes one listener interface: the annotation that asks for it, how it is
attached to a view, and the callbacks that it declares.
-/

namespace Companion

/-- A callback of a listener interface. -/
structure Callback where
  /-- The constant by which an annotation selects this callback. -/
  constant : Option String
  /-- The name of the method. -/
  name : String
  /-- The spelled types of its parameters. -/
  parameters : List String
  /-- The spelled return type. -/
  returnType : String
  /-- What is returned when no bound method supplies a value. -/
  defaultReturn : String
  deriving DecidableEq, Repr

namespace Callback

/-- A callback that returns nothing and is the only one of its listener. -/
def method (name : String) (parameters : List String) : Callback :=
  ⟨none, name, parameters, "void", "null"⟩

/-- The callback with a return type. -/
def returning (callback : Callback) (returnType defaultReturn : String) : Callback :=
  { callback with returnType, defaultReturn }

/-- The callback as one of several. -/
def selectedBy (callback : Callback) (constant : String) : Callback :=
  { callback with constant := some constant }

/-- Whether the callback returns a value. -/
def returnsValue (callback : Callback) : Bool := callback.returnType ≠ "void"

end Callback

/-- A listener interface and how it is attached to a view. -/
structure ListenerKind where
  /-- The simple name of the annotation that asks for the listener. -/
  marker : String
  /-- The spelled type of the views that take the listener. -/
  targetType : String
  /-- The method that attaches it. -/
  setter : String
  /-- The method that detaches it; without one the setter is called with `null`. -/
  remover : Option String
  /-- The spelled type of the listener. -/
  listenerType : String
  /-- The method of a listener that has only one. -/
  methods : List Callback
  /-- The callbacks of a listener that has several. -/
  callbacks : List Callback
  /-- The constant of the callback that is bound when an annotation selects none. -/
  defaultCallback : Option String
  deriving DecidableEq, Repr

namespace ListenerKind

/-- The methods that the listener interface declares, in order. -/
def declared (kind : ListenerKind) : List Callback :=
  if kind.methods = [] then kind.callbacks else kind.methods

/-- The callback that a constant selects. -/
def callback? (kind : ListenerKind) (constant : String) : Option Callback :=
  kind.callbacks.find? fun callback => callback.constant = some constant

/-- The method that detaches the listener. -/
def detacher (kind : ListenerKind) : String := kind.remover.getD kind.setter

/-- Whether two kinds are asked for by the same annotation. -/
def same (left right : ListenerKind) : Bool := left.marker = right.marker

end ListenerKind
end Companion
