import Companion.Text.Pieces

/-!
# Types of declared elements

A use of a type in a declaration, as a compiler reports it.  `display` is the compiler's own
spelling.  `spelled` adds what that spelling leaves out: the bound of a type variable, and a mark
before a type that could not be resolved.
-/

namespace Companion

/-- The primitive types. -/
inductive PrimitiveType where
  | boolean
  | byte
  | short
  | int
  | long
  | char
  | float
  | double
  deriving DecidableEq, Repr

namespace PrimitiveType

/-- The word for a primitive type. -/
def keyword : PrimitiveType → String
  | .boolean => "boolean"
  | .byte => "byte"
  | .short => "short"
  | .int => "int"
  | .long => "long"
  | .char => "char"
  | .float => "float"
  | .double => "double"

/-- All primitive types. -/
def all : List PrimitiveType := [.boolean, .byte, .short, .int, .long, .char, .float, .double]

/-- The primitive type that a word stands for. -/
def ofKeyword? (word : String) : Option PrimitiveType := all.find? fun kind => kind.keyword = word

@[simp]
theorem ofKeyword?_keyword (kind : PrimitiveType) : ofKeyword? kind.keyword = some kind := by
  cases kind <;> decide

theorem keyword_of_ofKeyword? {word : String} {kind : PrimitiveType}
    (found : ofKeyword? word = some kind) : kind.keyword = word := by
  simpa using List.find?_some found

end PrimitiveType

/-- A use of a type in a declaration. -/
inductive SourceType where
  | primitive (kind : PrimitiveType)
  | void
  /-- A class or interface with its type arguments. -/
  | declared (name : String) (args : List SourceType)
  | array (component : SourceType)
  /-- A type variable with its upper bound. -/
  | typeVariable (name : String) (bound : SourceType)
  /-- The wildcard without a bound. -/
  | anyWildcard
  /-- The wildcard with an upper bound. -/
  | wildcard (bound : SourceType)
  /-- A type that could not be resolved yet. -/
  | unresolved (name : String)
  deriving Inhabited

namespace SourceType

mutual

/-- Whether two types are the same. -/
def same : SourceType → SourceType → Bool
  | .primitive left, .primitive right => left = right
  | .void, .void => true
  | .declared left leftArgs, .declared right rightArgs =>
    left = right && sameAll leftArgs rightArgs
  | .array left, .array right => same left right
  | .typeVariable left leftBound, .typeVariable right rightBound =>
    left = right && same leftBound rightBound
  | .anyWildcard, .anyWildcard => true
  | .wildcard left, .wildcard right => same left right
  | .unresolved left, .unresolved right => left = right
  | _, _ => false

/-- Whether two lists of types are the same. -/
def sameAll : List SourceType → List SourceType → Bool
  | [], [] => true
  | left :: lefts, right :: rights => same left right && sameAll lefts rights
  | _, _ => false

end

mutual

theorem same_self : ∀ type : SourceType, same type type = true
  | .primitive _ => by simp [same]
  | .void => rfl
  | .declared _ args => by simp [same, sameAll_self args]
  | .array component => by simp [same, same_self component]
  | .typeVariable _ bound => by simp [same, same_self bound]
  | .anyWildcard => rfl
  | .wildcard bound => by simp [same, same_self bound]
  | .unresolved _ => by simp [same]

theorem sameAll_self : ∀ types : List SourceType, sameAll types types = true
  | [] => rfl
  | type :: types => by simp [sameAll, same_self type, sameAll_self types]

end

mutual

theorem eq_of_same : ∀ {left right : SourceType}, same left right = true → left = right
  | .primitive _, right, equal => by cases right <;> simp_all [same]
  | .void, right, equal => by cases right <;> simp_all [same]
  | .declared _ args, right, equal => by
    cases right <;> simp_all [same]
    exact eq_of_sameAll equal.2
  | .array component, right, equal => by
    cases right <;> simp_all [same]
    exact eq_of_same equal
  | .typeVariable _ bound, right, equal => by
    cases right <;> simp_all [same]
    exact eq_of_same equal.2
  | .anyWildcard, right, equal => by cases right <;> simp_all [same]
  | .wildcard bound, right, equal => by
    cases right <;> simp_all [same]
    exact eq_of_same equal
  | .unresolved _, right, equal => by cases right <;> simp_all [same]

theorem eq_of_sameAll : ∀ {left right : List SourceType}, sameAll left right = true → left = right
  | [], right, equal => by cases right <;> simp_all [sameAll]
  | type :: types, right, equal => by
    cases right <;> simp_all [sameAll]
    exact ⟨eq_of_same equal.1, eq_of_sameAll equal.2⟩

end

instance : DecidableEq SourceType := fun left right =>
  decidable_of_iff (same left right = true) ⟨eq_of_same, fun equal => equal ▸ same_self left⟩

mutual

/-- The characters of a type; with `full`, bounds and marks are spelled out. -/
def chars (full : Bool) : SourceType → List Char
  | .primitive kind => kind.keyword.toList
  | .void => "void".toList
  | .declared name [] => name.toList
  | .declared name (arg :: args) =>
    name.toList ++ '<' :: (chars full arg ++ charsAfter full args) ++ ['>']
  | .array component => chars full component ++ "[]".toList
  | .typeVariable name bound =>
    if full then name.toList ++ " extends ".toList ++ chars full bound else name.toList
  | .anyWildcard => ['?']
  | .wildcard bound => "? extends ".toList ++ chars full bound
  | .unresolved name => if full then '!' :: name.toList else name.toList

/-- The characters of the type arguments after the first. -/
def charsAfter (full : Bool) : List SourceType → List Char
  | [] => []
  | arg :: args => ',' :: chars full arg ++ charsAfter full args

end

/-- The spelling of a type by the compiler, for instance `java.util.List<android.view.View>`. -/
def display (type : SourceType) : String := String.ofList (type.chars false)

/-- The spelling that reads back as the same type. -/
def spelled (type : SourceType) : String := String.ofList (type.chars true)

/-- A type with type variables at its top replaced by their bounds. -/
def upperBound : SourceType → SourceType
  | .typeVariable _ bound => bound.upperBound
  | other => other

/-- The name of a declared type, without type arguments. -/
def declaredName? : SourceType → Option String
  | .declared name _ => some name
  | _ => none

/-- The type arguments of a declared type. -/
def typeArguments : SourceType → List SourceType
  | .declared _ args => args
  | _ => []

/-- Whether a type could not be resolved. -/
def isUnresolved : SourceType → Bool
  | .unresolved _ => true
  | _ => false

/-- A declared type without type arguments. -/
def named (name : String) : SourceType := .declared name []

end SourceType
end Companion
