import Companion.ClassName

/-!
# Types in generated code

Types as generated code writes them, over class names instead of texts.
-/

namespace Companion

/-- A type as it is written in generated code. -/
inductive CodeType where
  | void
  | primitive (kind : PrimitiveType)
  | classType (name : ClassName)
  /-- A class with its type arguments. -/
  | parameterized (raw : ClassName) (args : List CodeType)
  | array (component : CodeType)
  /-- The wildcard without a bound. -/
  | anyWildcard
  /-- The wildcard with an upper bound. -/
  | wildcard (bound : CodeType)
  deriving Inhabited

namespace CodeType

mutual

/-- Whether two types are the same. -/
def same : CodeType → CodeType → Bool
  | .void, .void => true
  | .primitive left, .primitive right => left = right
  | .classType left, .classType right => left = right
  | .parameterized left leftArgs, .parameterized right rightArgs =>
    left = right && sameAll leftArgs rightArgs
  | .array left, .array right => same left right
  | .anyWildcard, .anyWildcard => true
  | .wildcard left, .wildcard right => same left right
  | _, _ => false

/-- Whether two lists of types are the same. -/
def sameAll : List CodeType → List CodeType → Bool
  | [], [] => true
  | left :: lefts, right :: rights => same left right && sameAll lefts rights
  | _, _ => false

end

mutual

theorem same_self : ∀ type : CodeType, same type type = true
  | .void => rfl
  | .primitive _ => by simp [same]
  | .classType _ => by simp [same]
  | .parameterized _ args => by simp [same, sameAll_self args]
  | .array component => by simp [same, same_self component]
  | .anyWildcard => rfl
  | .wildcard bound => by simp [same, same_self bound]

theorem sameAll_self : ∀ types : List CodeType, sameAll types types = true
  | [] => rfl
  | type :: types => by simp [sameAll, same_self type, sameAll_self types]

end

mutual

theorem eq_of_same : ∀ {left right : CodeType}, same left right = true → left = right
  | .void, right, equal => by cases right <;> simp_all [same]
  | .primitive _, right, equal => by cases right <;> simp_all [same]
  | .classType _, right, equal => by cases right <;> simp_all [same]
  | .parameterized _ args, right, equal => by
    cases right <;> simp_all [same]
    exact eq_of_sameAll equal.2
  | .array component, right, equal => by
    cases right <;> simp_all [same]
    exact eq_of_same equal
  | .anyWildcard, right, equal => by cases right <;> simp_all [same]
  | .wildcard bound, right, equal => by
    cases right <;> simp_all [same]
    exact eq_of_same equal

theorem eq_of_sameAll : ∀ {left right : List CodeType}, sameAll left right = true → left = right
  | [], right, equal => by cases right <;> simp_all [sameAll]
  | type :: types, right, equal => by
    cases right <;> simp_all [sameAll]
    exact ⟨eq_of_same equal.1, eq_of_sameAll equal.2⟩

end

instance : DecidableEq CodeType := fun left right =>
  decidable_of_iff (same left right = true) ⟨eq_of_same, fun equal => equal ▸ same_self left⟩

mutual

/-- The characters of a type. -/
def chars : CodeType → List Char
  | .void => "void".toList
  | .primitive kind => kind.keyword.toList
  | .classType name => name.canonical.toList
  | .parameterized raw [] => raw.canonical.toList ++ ['<', '>']
  | .parameterized raw (arg :: args) =>
    raw.canonical.toList ++ '<' :: chars arg ++ charsAfter args ++ ['>']
  | .array component => chars component ++ ['[', ']']
  | .anyWildcard => ['?']
  | .wildcard bound => "? extends ".toList ++ chars bound

/-- The characters of the type arguments after the first. -/
def charsAfter : List CodeType → List Char
  | [] => []
  | arg :: args => ',' :: ' ' :: chars arg ++ charsAfter args

end

/-- The spelling of a type with full class names. -/
def display (type : CodeType) : String := String.ofList type.chars

/-- The type without its type arguments. -/
def raw : CodeType → CodeType
  | .parameterized raw _ => .classType raw
  | other => other

/-- The spelling of the type of plain views. -/
def viewSpelling : String := "android.view.View"

/-- Whether a plain view has to be cast to the type. -/
def needsViewCast (type : CodeType) : Bool := type.display ≠ viewSpelling

end CodeType
end Companion
