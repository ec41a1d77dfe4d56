import Companion.SourceType.Basic
import Companion.Table
import Companion.Text.UpperCase

/-!
# Declarations

Classes and interfaces as a compiler reports them, with their fields and methods and the
annotations on those.
-/

namespace Companion

open Text

/-- A modifier of a declaration. -/
inductive Modifier where
  | publicAccess
  | protectedAccess
  | privateAccess
  | static
  | final
  | abstract
  deriving DecidableEq, Repr

/-- The sort of a type declaration. -/
inductive TypeKind where
  | classType
  | interfaceType
  | enumType
  | annotationType
  deriving DecidableEq, Repr

/-- Where a declaration comes from. -/
inductive Origin where
  /-- The sources compiled in this round. -/
  | source
  /-- A dependency that was compiled earlier. -/
  | classpath
  deriving DecidableEq, Repr

/-- An integer in an annotation, with the constant that it was written as. -/
structure IdValue where
  /-- The number. -/
  value : Int32
  /-- The qualified constant, such as `com.example.R.id.title`. -/
  symbol : Option String
  deriving DecidableEq, Repr

namespace IdValue

/-- A number written out. -/
def literal (value : Int32) : IdValue := ⟨value, none⟩

/-- The constant of an id, cut into index type, category and member. -/
structure SymbolParts where
  /-- The index type, such as `com.example.R`. -/
  indexType : String
  /-- The nested class, such as `id`. -/
  category : String
  /-- The constant in it. -/
  member : String
  deriving DecidableEq, Repr

/-- The parts of the constant, when it has at least three segments. -/
def symbolParts? (id : IdValue) : Option SymbolParts :=
  id.symbol.bind fun symbol =>
    match (segments symbol).reverse with
    | member :: category :: owner :: before =>
      some ⟨dotted (owner :: before).reverse, category, member⟩
    | _ => none

end IdValue

/-- The value of an annotation element. -/
inductive AnnotationValue where
  | flag (value : Bool)
  | id (value : IdValue)
  | ids (values : List IdValue)
  /-- A text or the name of an enum constant. -/
  | text (value : String)
  deriving DecidableEq, Repr

/-- An annotation on a member. -/
structure AnnotationUse where
  /-- The simple or qualified name of the annotation type. -/
  name : String
  /-- The elements that are given, in the order in which they are written. -/
  values : Table String AnnotationValue
  deriving DecidableEq

namespace AnnotationUse

/-- The name of the annotation type without its package. -/
def simpleName (use : AnnotationUse) : String := lastSegment use.name

/-- The ids under a key; a single id counts as a list of one. -/
def ids (use : AnnotationUse) (key : String) : List IdValue :=
  match use.values.get? key with
  | some (.id id) => [id]
  | some (.ids ids) => ids
  | _ => []

/-- The id under a key, when there is exactly one. -/
def id? (use : AnnotationUse) (key : String) : Option IdValue :=
  match use.values.get? key with
  | some (.id id) => some id
  | some (.ids [id]) => some id
  | _ => none

/-- The text under a key. -/
def text? (use : AnnotationUse) (key : String) : Option String :=
  match use.values.get? key with
  | some (.text text) => some text
  | _ => none

end AnnotationUse

/-- What a member is. -/
inductive MemberKind where
  | field (type : SourceType)
  | method (returnType : SourceType) (parameters : List SourceType)
  deriving DecidableEq

/-- A field or method of a type. -/
structure Member where
  /-- The name of the field or method. -/
  name : String
  /-- Its modifiers. -/
  modifiers : List Modifier
  /-- The annotations on it. -/
  annotations : List AnnotationUse
  /-- Whether it is a field or a method, and its types. -/
  kind : MemberKind
  deriving DecidableEq

namespace Member

/-- A field without modifiers and annotations. -/
def field (name : String) (type : SourceType) : Member := ⟨name, [], [], .field type⟩

/-- A method without modifiers and annotations. -/
def method (name : String) (returnType : SourceType) (parameters : List SourceType) : Member :=
  ⟨name, [], [], .method returnType parameters⟩

/-- The member with one more annotation. -/
def annotated (member : Member) (use : AnnotationUse) : Member :=
  { member with annotations := member.annotations ++ [use] }

/-- The member with one more modifier. -/
def withModifier (member : Member) (modifier : Modifier) : Member :=
  { member with modifiers := member.modifiers ++ [modifier] }

/-- Whether the member has a modifier. -/
def has (member : Member) (modifier : Modifier) : Bool := member.modifiers.contains modifier

/-- The first annotation on the member with a simple name. -/
def use? (member : Member) (marker : String) : Option AnnotationUse :=
  member.annotations.find? fun use => use.simpleName = marker

/-- Whether the member carries an annotation with a simple name. -/
def carries (member : Member) (marker : String) : Bool := (member.use? marker).isSome

/-- Whether the member is a field. -/
def isField (member : Member) : Bool :=
  match member.kind with
  | .field _ => true
  | .method _ _ => false

end Member

/-- Whether the first character of a name is upper case. -/
def startsUpper (name : String) : Bool := name.toList.head?.any isUpper

/-- The number of segments before the type names: those before the first one in upper case, or
all but the last. -/
def packageLength (names : List String) : Nat :=
  (names.findIdx? startsUpper).getD (names.length - 1)

/-- The package of a qualified type name, read off its spelling. -/
def packageOfName (name : String) : String :=
  let names := segments name
  dotted (names.take (packageLength names))

/-- A declared class or interface. -/
structure TypeDecl where
  /-- The qualified name, with nested types joined by dots. -/
  name : String
  /-- The package; an empty one is to be read off the name. -/
  package : String
  /-- The sort of the type. -/
  kind : TypeKind
  /-- Its modifiers. -/
  modifiers : List Modifier
  /-- The class that it extends. -/
  superclass : Option SourceType
  /-- The interfaces that it implements. -/
  interfaces : List SourceType
  /-- Its own fields and methods. -/
  members : List Member
  /-- Where it comes from. -/
  origin : Origin
  deriving DecidableEq

namespace TypeDecl

/-- An empty type of some kind in the sources. -/
def ofName (kind : TypeKind) (name : String) : TypeDecl :=
  ⟨name, packageOfName name, kind, [], none, [], [], .source⟩

/-- The type with a superclass. -/
def extending (decl : TypeDecl) (superclass : SourceType) : TypeDecl :=
  { decl with superclass := some superclass }

/-- The type with one more interface. -/
def implementing (decl : TypeDecl) (interface : SourceType) : TypeDecl :=
  { decl with interfaces := decl.interfaces ++ [interface] }

/-- The type with one more member. -/
def withMember (decl : TypeDecl) (member : Member) : TypeDecl :=
  { decl with members := decl.members ++ [member] }

/-- The type with one more modifier. -/
def withModifier (decl : TypeDecl) (modifier : Modifier) : TypeDecl :=
  { decl with modifiers := decl.modifiers ++ [modifier] }

/-- The type as one that was compiled earlier. -/
def onClasspath (decl : TypeDecl) : TypeDecl := { decl with origin := .classpath }

/-- Whether the type has a modifier. -/
def has (decl : TypeDecl) (modifier : Modifier) : Bool := decl.modifiers.contains modifier

/-- The name below the package, or the whole name when the package is not in front of it. -/
def relativeName (decl : TypeDecl) : String :=
  if decl.package = "" then decl.name
  else match (decl.package ++ ".").toList.isPrefixOf? decl.name.toList with
    | some rest => String.ofList rest
    | none => decl.name

/-- The simple names from the outermost type to this one. -/
def simpleNames (decl : TypeDecl) : List String := segments decl.relativeName

/-- The last of the simple names. -/
def simpleName (decl : TypeDecl) : String := lastSegment decl.name

/-- The declared type without type arguments. -/
def asType (decl : TypeDecl) : SourceType := .named decl.name

end TypeDecl

/-- A member together with the type that declares it. -/
structure Site where
  /-- The type. -/
  decl : TypeDecl
  /-- The member. -/
  member : Member
  deriving DecidableEq

namespace Site

/-- The member with its type, as diagnostics name it. -/
def path (site : Site) : String := s!"{site.decl.name}.{site.member.name}"

/-- The path in brackets, as it stands at the end of messages. -/
def location (site : Site) : String := s!"({site.path})"

end Site
end Companion
