import Companion.Universe.Platform

/-!
# The type universe

Every declared type that is visible to a round, by name and in order of insertion, with the
questions about the hierarchy that bindings ask.  Hierarchies may be cyclic, so every walk keeps
the names that it has not met yet and takes a name off when it meets it.
-/

namespace Companion

/-- The declared types of a round, each under its name. -/
structure Universe where
  /-- The types by name. -/
  table : Table String TypeDecl
  /-- Each type stands under its own name. -/
  named : ∀ entry ∈ table.entries, entry.1 = entry.2.name

/-- Why a declaration cannot be added to a universe. -/
inductive Universe.Refusal where
  | duplicateType (name : String)
  | packageMismatch (name package : String)
  deriving DecidableEq, Repr

/-- The refusal in words. -/
def Universe.Refusal.message : Universe.Refusal → String
  | .duplicateType name => "Type '" ++ name ++ "' is declared more than once in this round"
  | .packageMismatch name package =>
    "Type '" ++ name ++ "' must belong to package '" ++ package ++ "'"

namespace Universe

/-- The universe without types. -/
def empty : Universe := ⟨.empty, by simp [Table.empty]⟩

/-- The universe with a declaration, which replaces one of its name in place. -/
def put (world : Universe) (decl : TypeDecl) : Universe :=
  ⟨world.table.insert decl.name decl, by
    intro entry member
    rcases Table.mem_put member with rfl | old
    · rfl
    · exact world.named entry old⟩

/-- The universe of the platform types. -/
def platform : Universe := Platform.declarations.foldl put empty

/-- The type of a name. -/
def get? (world : Universe) (name : String) : Option TypeDecl := world.table.get? name

/-- All types, in order of insertion. -/
def types (world : Universe) : List TypeDecl := world.table.values

/-- The names of all types. -/
def names (world : Universe) : List String := world.table.keys

/-- The declaration of a type, with an empty package read off the name. -/
def settled (decl : TypeDecl) : TypeDecl :=
  if decl.package = "" then { decl with package := packageOfName decl.name } else decl

/-- Whether the package of a declaration is in front of its name, or is to be read off it. -/
def packageFits (decl : TypeDecl) : Bool :=
  decl.package = "" || (decl.package ++ ".").toList.isPrefixOf decl.name.toList

/-- Whether a declared type may be replaced: only what stands in for a platform type may. -/
def isReplaceable (decl : TypeDecl) : Bool :=
  Platform.isPlatformName decl.name && decl.origin ≠ .source

/-- Add a declaration. -/
def insert (world : Universe) (decl : TypeDecl) : Except Refusal Universe :=
  if packageFits decl then
    match world.get? decl.name with
    | some present =>
      if isReplaceable present then .ok (world.put (settled decl))
      else .error (.duplicateType decl.name)
    | none => .ok (world.put (settled decl))
  else .error (.packageMismatch decl.name decl.package)

/-- Add declarations one by one, up to the first refusal. -/
def insertAll (world : Universe) : List TypeDecl → Except Refusal Universe
  | [] => .ok world
  | decl :: rest => do (← world.insert decl).insertAll rest

/-- The declaration that a type refers to. -/
def lookup (world : Universe) (type : SourceType) : Option TypeDecl :=
  type.declaredName?.bind world.get?

/-- The types of this round's sources. -/
def sourceTypes (world : Universe) : List TypeDecl :=
  world.types.filter fun decl => decl.origin = .source

/-- The members of source types that carry an annotation, with their types. -/
def annotated (world : Universe) (marker : String) : List Site :=
  world.sourceTypes.flatMap fun decl =>
    (decl.members.filter fun member => member.carries marker).map (Site.mk decl)

/-- Whether a type is, or is bounded by, an interface. -/
def isInterface (world : Universe) (type : SourceType) : Bool :=
  (world.lookup type.upperBound).any fun decl => decl.kind = .interfaceType

/-- The declared superclass of a type. -/
def superclassOf? (world : Universe) (decl : TypeDecl) : Option TypeDecl :=
  decl.superclass.bind world.lookup

/-- The superclasses above a type as long as their names are among those left. -/
def climb (world : Universe) (left : List String) (decl : TypeDecl) : List TypeDecl :=
  match world.superclassOf? decl with
  | none => []
  | some superclass =>
    if superclass.name ∈ left then
      superclass :: world.climb (left.erase superclass.name) superclass
    else []
termination_by left.length
decreasing_by
  have member : superclass.name ∈ left := by assumption
  have := List.length_erase_of_mem member
  have := List.length_pos_of_mem member
  omega

/-- The superclasses of a type from the nearest one upward, up to the first that is not in the
universe or was met before. -/
def superclasses (world : Universe) (decl : TypeDecl) : List TypeDecl :=
  world.climb (world.names.erase decl.name) decl

/-- A type with every type argument replaced by the wildcard. -/
def wildcardForm (name : String) (args : List SourceType) : SourceType :=
  .declared name (args.map fun _ => .anyWildcard)

/-- Whether a type is spelled like a given text, as it stands or in its all-wildcard form. -/
def isSpelled (type : SourceType) (other : String) : Bool :=
  type.display = other ||
    match type with
    | .declared name args => !args.isEmpty && (wildcardForm name args).display = other
    | _ => false

/-- The types that the declaration of a type extends and implements. -/
def supertypes (world : Universe) (name : String) : List SourceType :=
  match world.get? name with
  | some decl => decl.superclass.toList ++ decl.interfaces
  | none => []

/-- How many types a search upward can still come to: those at hand, and for each name left one more
than there are above it. -/
def reach (world : Universe) (left : List String) (types : List SourceType) : Nat :=
  (left.flatMap world.supertypes).length + left.length + types.length

theorem reach_erase_lt {world : Universe} {left : List String} {name : String}
    (member : name ∈ left) (type : SourceType) (rest : List SourceType) :
    world.reach (left.erase name) (world.supertypes name ++ rest) <
      world.reach left (type :: rest) := by
  have taken := List.perm_cons_erase member
  have above := (taken.flatMap_right world.supertypes).length_eq
  have length := taken.length_eq
  simp only [List.flatMap_cons, List.length_append, List.length_cons] at above length
  simp only [reach, List.length_append, List.length_cons]
  omega

/-- Whether a search upward from the types at hand meets one with the spelling looked for. -/
def meets (world : Universe) (other : String) (left : List String) :
    List SourceType → Bool
  | [] => false
  | type :: rest =>
    if isSpelled type other then true
    else
      match type.declaredName? with
      | none => world.meets other left rest
      | some name =>
        if name ∈ left then
          world.meets other (left.erase name) (world.supertypes name ++ rest)
        else world.meets other left rest
termination_by types => world.reach left types
decreasing_by
  · simp [reach]
  · have member : name ∈ left := by assumption
    exact reach_erase_lt member type rest
  · simp [reach]

/-- Whether a type is another one, given by its spelling, or inherits from it. -/
def isSubtype (world : Universe) (type : SourceType) (other : String) : Bool :=
  world.meets other world.names [type]

end Universe
end Companion
