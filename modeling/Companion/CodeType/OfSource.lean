import Companion.CodeType.Basic
import Companion.Universe.Basic

/-!
# Types of elements in generated code

The type of an element is written with the class names that the universe knows; a class that it
does not know is cut by its spelling.  Type variables are written as their bounds.
-/

namespace Companion

/-- The class name of a declaration. -/
def TypeDecl.className (decl : TypeDecl) : Except BindingError ClassName :=
  ClassName.ofNames decl.package decl.simpleNames

/-- The class that a qualified name refers to. -/
def Universe.className (world : Universe) (name : String) : Except BindingError ClassName :=
  match world.get? name with
  | some decl => decl.className
  | none => ClassName.ofText name

namespace CodeType

mutual

/-- The type as generated code writes it. -/
def ofSource (world : Universe) : SourceType → Except BindingError CodeType
  | .primitive kind => .ok (.primitive kind)
  | .void => .ok .void
  | .declared name args => do
    let raw ← world.className name
    if args.isEmpty then return .classType raw
    return .parameterized raw (← ofSourceAll world args)
  | .array component => do return .array (← ofSource world component)
  | .typeVariable _ bound => ofSource world bound
  | .anyWildcard => .ok .anyWildcard
  | .wildcard bound => do return .wildcard (← ofSource world bound)
  | .unresolved name => do return .classType (← ClassName.ofText name)

/-- Several types as generated code writes them. -/
def ofSourceAll (world : Universe) : List SourceType → Except BindingError (List CodeType)
  | [] => .ok []
  | type :: rest => do return (← ofSource world type) :: (← ofSourceAll world rest)

end

end CodeType
end Companion
