import Companion.Declaration.Basic
import Companion.IntLiteral

/-!
# Resource indices

A resource index is a generated class whose nested classes list the resources of an application
as integer constants.  It is known either from its source or in compiled form.
-/

namespace Companion

open Text

/-- A field of a class in source form. -/
structure SourceField where
  /-- The name of the field. -/
  name : String
  /-- The text of its type. -/
  type : String
  /-- Its modifiers. -/
  modifiers : List Modifier
  /-- The text of its initializer, if it has one. -/
  initializer : Option String
  deriving DecidableEq, Repr

/-- The initializer of a field, when it is an integer literal. -/
def SourceField.intValue? (field : SourceField) : Option Int32 :=
  field.initializer.bind IntLiteral.value?

/-- A class in source form. -/
structure SourceClass where
  /-- The simple name of the class. -/
  name : String
  /-- Its modifiers. -/
  modifiers : List Modifier
  /-- Its fields. -/
  fields : List SourceField
  /-- The classes nested in it. -/
  nested : List SourceClass

/-- A constant of a compiled class. -/
structure CompiledMember where
  /-- The name of the constant. -/
  name : String
  /-- Its value, given for integer constants only. -/
  constant : Option Int32
  deriving DecidableEq, Repr

/-- A class in compiled form. -/
structure CompiledClass where
  /-- The simple name of the class. -/
  name : String
  /-- Its constants. -/
  members : List CompiledMember
  deriving DecidableEq, Repr

/-- The form in which an index is known. -/
inductive IndexForm where
  /-- A class of this round's sources. -/
  | source (tree : SourceClass)
  /-- The nested classes of a compiled class. -/
  | compiled (classes : List CompiledClass)

/-- A resource index. -/
structure ResourceIndex where
  /-- The qualified name of the index class. -/
  name : String
  /-- What is known of it. -/
  form : IndexForm

namespace ResourceIndex

/-- The package of the index. -/
def package (index : ResourceIndex) : String :=
  match splitLast? index.name with
  | some (package, _) => package
  | none => ""

/-- The simple name of the index. -/
def simpleName (index : ResourceIndex) : String := lastSegment index.name

end ResourceIndex
end Companion
