import Companion.CodeType.Basic

/-!
# Imports

The first outermost class to claim a simple name is imported and written by its simple names.
Other classes with that simple name are written in full.
-/

namespace Companion

/-- The claims on simple names in one compilation unit, and the imports that they need. -/
structure Imports where
  /-- The package of the unit. -/
  package : String
  /-- The outermost class that owns each simple name. -/
  owners : Table String ClassName
  /-- The canonical names to import, in ascending order. -/
  names : List String

namespace Imports

/-- Insert a name in ascending order, once. -/
def insertName (name : String) : List String → List String
  | [] => [name]
  | present :: rest =>
    if name < present then name :: present :: rest
    else if name = present then present :: rest
    else present :: insertName name rest

/-- The imports of a unit for a class, which owns its own simple name. -/
def ofOwn (own : ClassName) : Imports :=
  ⟨own.package, Table.empty.insert own.outer own.topLevel, []⟩

/-- Whether a class can be written by its simple name without an import. -/
def isVisible (imports : Imports) (name : ClassName) : Bool :=
  name.package = imports.package || name.package = "java.lang"

/-- Claim the simple name of a class's outermost class, unless it has an owner. -/
def claim (imports : Imports) (name : ClassName) : Imports :=
  if imports.owners.contains name.outer then imports
  else
    { imports with
      owners := imports.owners.insert name.outer name.topLevel
      names :=
        if imports.isVisible name then imports.names
        else insertName name.topLevel.canonical imports.names }

/-- How a class is written: by its simple names when its outermost class owns the first of them,
and in full otherwise. -/
def spell (imports : Imports) (name : ClassName) : String :=
  if imports.owners.get? name.outer = some name.topLevel then Text.dotted name.names
  else name.canonical

/-- Refer to a class: claim its simple name and write it. -/
def reference (imports : Imports) (name : ClassName) : Imports × String :=
  let claimed := imports.claim name
  (claimed, claimed.spell name)

/-- Claim the simple names of several classes, in order. -/
def claimAll (imports : Imports) (names : List ClassName) : Imports := names.foldl claim imports

end Imports

namespace CodeType

mutual

/-- The classes that a type refers to, in order. -/
def classes : CodeType → List ClassName
  | .classType name => [name]
  | .parameterized raw args => raw :: classesOfAll args
  | .array component => classes component
  | .wildcard bound => classes bound
  | .void | .primitive _ | .anyWildcard => []

/-- The classes that several types refer to, in order. -/
def classesOfAll : List CodeType → List ClassName
  | [] => []
  | type :: rest => classes type ++ classesOfAll rest

end

mutual

/-- The text of a type, with a way to write class names. -/
def write (spell : ClassName → String) : CodeType → String
  | .void => "void"
  | .primitive kind => kind.keyword
  | .classType name => spell name
  | .parameterized raw args => spell raw ++ "<" ++ Text.joined ", " (writeAll spell args) ++ ">"
  | .array component => write spell component ++ "[]"
  | .anyWildcard => "?"
  | .wildcard bound => "? extends " ++ write spell bound

/-- The texts of several types. -/
def writeAll (spell : ClassName → String) : List CodeType → List String
  | [] => []
  | type :: rest => write spell type :: writeAll spell rest

end

end CodeType

/-- Refer to the classes of a type and write it. -/
def Imports.typeText (imports : Imports) (type : CodeType) : Imports × String :=
  let claimed := imports.claimAll type.classes
  (claimed, type.write claimed.spell)

end Companion
