import Companion.Proofs.Universe.Packages

/-!
# Spellings of types of elements

Generated code writes the type of an element as the compiler does, with the bounds of type variables
in the place of the variables.  Only the separator between type arguments differs.
-/

namespace Companion

namespace SourceType

mutual

/-- The type with every type variable, at any depth, replaced by its bound. -/
def resolved : SourceType → SourceType
  | .declared name args => .declared name (resolvedAll args)
  | .array component => .array component.resolved
  | .typeVariable _ bound => bound.resolved
  | .wildcard bound => .wildcard bound.resolved
  | .primitive kind => .primitive kind
  | .void => .void
  | .anyWildcard => .anyWildcard
  | .unresolved name => .unresolved name

/-- Several types with every type variable replaced by its bound. -/
def resolvedAll : List SourceType → List SourceType
  | [] => []
  | type :: types => type.resolved :: resolvedAll types

end

mutual

/-- Whether there is no type variable in a type, at any depth. -/
def isGround : SourceType → Bool
  | .declared _ args => areGround args
  | .array component => component.isGround
  | .typeVariable _ _ => false
  | .wildcard bound => bound.isGround
  | .primitive _ | .void | .anyWildcard | .unresolved _ => true

/-- Whether there is no type variable in several types. -/
def areGround : List SourceType → Bool
  | [] => true
  | type :: types => type.isGround && areGround types

end

mutual

theorem resolved_of_isGround : ∀ {type : SourceType}, type.isGround = true → type.resolved = type
  | .declared name _, ground => congrArg (declared name) (resolvedAll_of_areGround ground)
  | .array _, ground => congrArg array (resolved_of_isGround ground)
  | .wildcard _, ground => congrArg wildcard (resolved_of_isGround ground)
  | .primitive _, _ | .void, _ | .anyWildcard, _ | .unresolved _, _ => rfl

theorem resolvedAll_of_areGround : ∀ {types : List SourceType}, areGround types = true →
    resolvedAll types = types
  | [], _ => rfl
  | _ :: _, ground => by
    obtain ⟨here, later⟩ := Bool.and_eq_true_iff.1 ground
    exact congrArg₂ List.cons (resolved_of_isGround here) (resolvedAll_of_areGround later)

end

/-- A type without type variables is its own upper bound. -/
theorem upperBound_of_isGround {type : SourceType} (ground : type.isGround = true) :
    type.upperBound = type := by
  cases type with
  | typeVariable => cases ground
  | _ => rfl

mutual

/-- The characters of a type with a separator between type arguments. -/
def charsWith (separator : List Char) : SourceType → List Char
  | .primitive kind => kind.keyword.toList
  | .void => "void".toList
  | .declared name [] => name.toList
  | .declared name (arg :: args) =>
    name.toList ++ '<' :: charsWith separator arg ++ charsAfterWith separator args ++ ['>']
  | .array component => charsWith separator component ++ "[]".toList
  | .typeVariable name _ => name.toList
  | .anyWildcard => "?".toList
  | .wildcard bound => "? extends ".toList ++ charsWith separator bound
  | .unresolved name => name.toList

/-- The characters of the type arguments after the first. -/
def charsAfterWith (separator : List Char) : List SourceType → List Char
  | [] => []
  | arg :: args => separator ++ charsWith separator arg ++ charsAfterWith separator args

end

/-- The spelling of a type with a separator between type arguments. -/
def displayWith (separator : String) (type : SourceType) : String :=
  String.ofList (type.charsWith separator.toList)

@[simp]
theorem charsWith_generic (separator : List Char) (name : String) (arg : SourceType)
    (args : List SourceType) : charsWith separator (.declared name (arg :: args)) =
      name.toList ++ '<' :: arg.charsWith separator ++ charsAfterWith separator args ++ ['>'] := rfl

@[simp]
theorem charsWith_array (separator : List Char) (component : SourceType) :
    charsWith separator (.array component) = component.charsWith separator ++ "[]".toList := rfl

@[simp]
theorem charsWith_wildcard (separator : List Char) (bound : SourceType) :
    charsWith separator (.wildcard bound) = "? extends ".toList ++ bound.charsWith separator := rfl

@[simp]
theorem charsAfterWith_cons (separator : List Char) (type : SourceType)
    (types : List SourceType) : charsAfterWith separator (type :: types) =
      separator ++ type.charsWith separator ++ charsAfterWith separator types := rfl

mutual

/-- The compiler puts a comma between type arguments. -/
theorem charsWith_comma : ∀ type : SourceType, type.charsWith [','] = type.chars false
  | .declared _ [] => rfl
  | .declared name (arg :: args) => by
    rw [charsWith_generic, charsWith_comma arg, charsAfterWith_comma args,
      List.append_assoc name.toList]
    rfl
  | .array component => congrArg (· ++ "[]".toList) (charsWith_comma component)
  | .wildcard bound => congrArg ("? extends ".toList ++ ·) (charsWith_comma bound)
  | .primitive _ | .void | .typeVariable _ _ | .anyWildcard | .unresolved _ => rfl

theorem charsAfterWith_comma : ∀ types : List SourceType,
    charsAfterWith [','] types = charsAfter false types
  | [] => rfl
  | type :: types => by
    rw [charsAfterWith_cons, charsWith_comma type, charsAfterWith_comma types]
    rfl

end

theorem displayWith_comma (type : SourceType) : type.displayWith "," = type.display :=
  congrArg String.ofList (charsWith_comma type)

/-- Where no comma is written there is no separator. -/
theorem charsWith_eq_of_comma_not_mem (front back : List Char) : ∀ {type : SourceType},
    ',' ∉ type.charsWith (',' :: front) →
      type.charsWith (',' :: front) = type.charsWith (',' :: back)
  | .declared _ [], _ => rfl
  | .declared name [arg], unlisted => by
    have argUnlisted : ',' ∉ arg.charsWith (',' :: front) := fun listed =>
      unlisted (by simp [listed])
    rw [charsWith_generic, charsWith_eq_of_comma_not_mem front back argUnlisted]
    rfl
  | .declared name (arg :: next :: args), unlisted => absurd (by simp) unlisted
  | .array component, unlisted => by
    have componentUnlisted := fun listed => unlisted (List.mem_append_left _ listed)
    rw [charsWith_array, charsWith_eq_of_comma_not_mem front back componentUnlisted]
    rfl
  | .wildcard bound, unlisted => by
    have boundUnlisted := fun listed => unlisted (List.mem_append_right _ listed)
    rw [charsWith_wildcard, charsWith_eq_of_comma_not_mem front back boundUnlisted]
    rfl
  | .primitive _, _ | .void, _ | .typeVariable _ _, _ | .anyWildcard, _ | .unresolved _, _ => rfl

end SourceType

namespace CodeType

variable {world : Universe}

mutual

/-- A type is written as it is spelled without type variables, with a blank after each comma. -/
theorem chars_ofSource (packaged : world.IsPackaged) : ∀ {type : SourceType} {written : CodeType},
    ofSource world type = .ok written → written.chars = type.resolved.charsWith ", ".toList
  | .primitive _, _, done | .void, _, done | .anyWildcard, _, done => by
    cases done
    rfl
  | .declared name [], _, done => by
    obtain ⟨raw, named, done⟩ := exists_ok_of_bind done
    cases done
    exact congrArg String.toList (packaged.canonical_eq named)
  | .declared name (arg :: args), _, done => by
    obtain ⟨raw, named, done⟩ := exists_ok_of_bind done
    obtain ⟨writtens, allDone, done⟩ := exists_ok_of_bind done
    cases done
    obtain ⟨first, firstDone, allDone⟩ := exists_ok_of_bind allDone
    obtain ⟨others, othersDone, allDone⟩ := exists_ok_of_bind allDone
    cases allDone
    change raw.canonical.toList ++ '<' :: first.chars ++ charsAfter others ++ ['>'] = _
    rw [packaged.canonical_eq named, chars_ofSource packaged firstDone,
      charsAfter_ofSourceAll packaged othersDone]
    rfl
  | .array component, _, done => by
    obtain ⟨read, partDone, done⟩ := exists_ok_of_bind done
    cases done
    exact congrArg (· ++ "[]".toList) (chars_ofSource packaged partDone)
  | .typeVariable _ bound, written, done => by
    have boundDone : ofSource world bound = .ok written := done
    have chars_eq := chars_ofSource packaged boundDone
    exact chars_eq
  | .wildcard bound, _, done => by
    obtain ⟨read, partDone, done⟩ := exists_ok_of_bind done
    cases done
    exact congrArg ("? extends ".toList ++ ·) (chars_ofSource packaged partDone)
  | .unresolved name, _, done => by
    obtain ⟨raw, named, done⟩ := exists_ok_of_bind done
    cases done
    exact congrArg String.toList (ClassName.canonical_of_ofText named)

theorem charsAfter_ofSourceAll (packaged : world.IsPackaged) :
    ∀ {types : List SourceType} {writtens : List CodeType},
      ofSourceAll world types = .ok writtens →
        charsAfter writtens = SourceType.charsAfterWith ", ".toList (SourceType.resolvedAll types)
  | [], _, done => by
    cases done
    rfl
  | type :: types, _, done => by
    obtain ⟨first, firstDone, done⟩ := exists_ok_of_bind done
    obtain ⟨others, othersDone, done⟩ := exists_ok_of_bind done
    cases done
    change ", ".toList ++ first.chars ++ charsAfter others = _
    rw [chars_ofSource packaged firstDone, charsAfter_ofSourceAll packaged othersDone]
    rfl

end

end CodeType
end Companion
