import Companion.Declaration.Basic
import Companion.Json.Decode
import Companion.IntLiteral
import Companion.SourceType.Parser

/-!
# Declarations as JSON

Each part of a declaration is written as an object whose keys stand in a fixed order, and read
from an object with its keys in any order.  Absent keys take their defaults and unknown keys are
passed over.  What depends on the kind of a member is read once the member is complete.
-/

namespace Companion

open Json

namespace Modifier

/-- The name of a modifier. -/
def name : Modifier → String
  | .publicAccess => "public"
  | .protectedAccess => "protected"
  | .privateAccess => "private"
  | .static => "static"
  | .final => "final"
  | .abstract => "abstract"

/-- The modifier of a name. -/
def ofName? : String → Option Modifier
  | "public" => some .publicAccess
  | "protected" => some .protectedAccess
  | "private" => some .privateAccess
  | "static" => some .static
  | "final" => some .final
  | "abstract" => some .abstract
  | _ => none

@[simp]
theorem ofName?_name (modifier : Modifier) : ofName? modifier.name = some modifier := by
  cases modifier <;> rfl

end Modifier

namespace TypeKind

/-- The name of a sort of type. -/
def name : TypeKind → String
  | .classType => "class"
  | .interfaceType => "interface"
  | .enumType => "enum"
  | .annotationType => "annotation"

/-- The sort of type of a name. -/
def ofName? : String → Option TypeKind
  | "class" => some .classType
  | "interface" => some .interfaceType
  | "enum" => some .enumType
  | "annotation" => some .annotationType
  | _ => none

@[simp]
theorem ofName?_name (kind : TypeKind) : ofName? kind.name = some kind := by
  cases kind <;> rfl

end TypeKind

namespace Origin

/-- The name of an origin. -/
def name : Origin → String
  | .source => "source"
  | .classpath => "classpath"

/-- The origin of a name. -/
def ofName? : String → Option Origin
  | "source" => some .source
  | "classpath" => some .classpath
  | _ => none

@[simp]
theorem ofName?_name (origin : Origin) : ofName? origin.name = some origin := by
  cases origin <;> rfl

end Origin

/-- A type is written as its full spelling. -/
def SourceType.toJson (type : SourceType) : Json := .text type.spelled

/-- Read a type from its spelling. -/
def SourceType.ofJson? : Json → Option SourceType
  | .text spelling => (SourceType.ofText spelling).toOption
  | _ => none

/-- Decode a type. -/
def SourceType.decode (json : Json) : Decoded SourceType := do
  shaped (SourceType.ofText (← asText json)).toOption

/-- The number of a value in the range of 32 bits. -/
def int32? : Json → Option Int32
  | .integer value => IntLiteral.inRange? value
  | _ => none

namespace IdValue

/-- An id is written as an object, without its constant when it has none. -/
def toJson (id : IdValue) : Json :=
  .ofEntries (("value", .integer id.value.toInt) ::
    match id.symbol with
    | some symbol => [("symbol", .text symbol)]
    | none => [])

/-- Read an id from a number or an object. -/
def ofJson? (json : Json) : Option IdValue :=
  match int32? json with
  | some value => some (.literal value)
  | none => do
    let entries ← json.entries? ["value", "symbol"]
    let value ← field? int32? entries "value"
    let symbol ← fieldOr? (nullable? text?) none entries "symbol"
    return ⟨value, symbol⟩

end IdValue

namespace AnnotationValue

/-- The JSON form of an annotation value. -/
def toJson : AnnotationValue → Json
  | .flag value => .bool value
  | .id value => value.toJson
  | .ids values => .ofList (values.map IdValue.toJson)
  | .text value => .text value

/-- Read an annotation value as a truth value, an id, a list of ids or a text, in this order. -/
def ofJson? (json : Json) : Option AnnotationValue :=
  match json with
  | .bool value => some (.flag value)
  | _ =>
    match IdValue.ofJson? json with
    | some value => some (.id value)
    | none =>
      match json.list? IdValue.ofJson? with
      | some values => some (.ids values)
      | none => json.text?.map .text

/-- Decode an annotation value. -/
def decode (json : Json) : Decoded AnnotationValue := do
  json.check
  shaped (ofJson? json)

end AnnotationValue

namespace AnnotationUse

/-- The JSON form of an annotation. -/
def toJson (use : AnnotationUse) : Json :=
  .ofEntries [("name", .text use.name),
    ("values", .ofEntries (use.values.entries.map fun (key, value) => (key, value.toJson)))]

/-- The keys of an annotation. -/
def keys : List String := ["name", "values"]

/-- The keys of an annotation read so far. -/
structure Draft where
  /-- The name. -/
  name : Option String
  /-- The values. -/
  values : Option (Table String AnnotationValue)

/-- Read one key of an annotation. -/
def Draft.step (draft : Draft) (key : String) (value : Json) : Decoded Draft :=
  match key with
  | "name" => return { draft with name := ← once draft.name asText value }
  | "values" =>
    return { draft with values := ← once draft.values (asTable AnnotationValue.decode) value }
  | _ => do value.skip; return draft

/-- Decode an annotation. -/
def decode (json : Json) : Decoded AnnotationUse := do
  let draft ← json.foldFields keys Draft.step ⟨none, none⟩
  return ⟨← shaped draft.name, draft.values.getD .empty⟩

end AnnotationUse

namespace MemberKind

/-- The keys that tell what a member is. -/
def toEntries : MemberKind → List (String × Json)
  | .field type => [("kind", .text "field"), ("type", type.toJson)]
  | .method returnType parameters =>
    [("kind", .text "method"), ("return_type", returnType.toJson),
      ("parameters", .ofList (parameters.map SourceType.toJson))]

/-- The keys of a field or of a method. -/
inductive Tag where
  | field
  | method

/-- The tag that a checked value names, by its name or its place in the list of tags. -/
def tag? : Json → Option Tag
  | .text "field" => some .field
  | .text "method" => some .method
  | .integer 0 => some .field
  | .integer 1 => some .method
  | _ => none

/-- Read what a member is from the keys that it has of its own. -/
def ofEntries? (entries : List (String × Json)) : Option MemberKind := do
  let _ ← entries? ["kind"] (.ofEntries entries)
  match ← field? tag? entries "kind" with
  | .field =>
    let entries ← entries? ["type"] (.ofEntries entries)
    return .field (← field? SourceType.ofJson? entries "type")
  | .method =>
    let entries ← entries? ["return_type", "parameters"] (.ofEntries entries)
    return .method (← field? SourceType.ofJson? entries "return_type")
      (← fieldOr? (list? SourceType.ofJson?) [] entries "parameters")

end MemberKind

namespace Member

/-- The JSON form of a member. -/
def toJson (member : Member) : Json :=
  .ofEntries ([("name", .text member.name),
    ("modifiers", .ofList (member.modifiers.map fun modifier => .text modifier.name)),
    ("annotations", .ofList (member.annotations.map AnnotationUse.toJson))] ++
    member.kind.toEntries)

/-- The keys of a member read so far, with those that depend on its kind last first. -/
structure Draft where
  /-- The name. -/
  name : Option String
  /-- The modifiers. -/
  modifiers : Option (List Modifier)
  /-- The annotations. -/
  annotations : Option (List AnnotationUse)
  /-- The other keys. -/
  others : List (String × Json)

/-- Read one key of a member. -/
def Draft.step (draft : Draft) (key : String) (value : Json) : Decoded Draft :=
  match key with
  | "name" => return { draft with name := ← once draft.name asText value }
  | "modifiers" =>
    return { draft with
      modifiers := ← once draft.modifiers (asList (asName Modifier.ofName?)) value }
  | "annotations" =>
    return { draft with
      annotations := ← once draft.annotations (asList AnnotationUse.decode) value }
  | _ => do value.check; return { draft with others := (key, value) :: draft.others }

/-- Decode a member. -/
def decode (json : Json) : Decoded Member := do
  let draft ← json.foldEntries Draft.step ⟨none, none, none, []⟩
  return ⟨← shaped draft.name, draft.modifiers.getD [], draft.annotations.getD [],
    ← shaped (MemberKind.ofEntries? draft.others.reverse)⟩

end Member

namespace TypeDecl

/-- The JSON form of a type declaration. -/
def toJson (decl : TypeDecl) : Json :=
  .ofEntries [("name", .text decl.name), ("package", .text decl.package),
    ("kind", .text decl.kind.name),
    ("modifiers", .ofList (decl.modifiers.map fun modifier => .text modifier.name)),
    ("superclass", .ofOption SourceType.toJson decl.superclass),
    ("interfaces", .ofList (decl.interfaces.map SourceType.toJson)),
    ("members", .ofList (decl.members.map Member.toJson)),
    ("origin", .text decl.origin.name)]

/-- The keys of a type declaration. -/
def keys : List String :=
  ["name", "package", "kind", "modifiers", "superclass", "interfaces", "members", "origin"]

/-- The keys of a type declaration read so far. -/
structure Draft where
  /-- The name. -/
  name : Option String
  /-- The package. -/
  package : Option String
  /-- The sort of the type. -/
  kind : Option TypeKind
  /-- The modifiers. -/
  modifiers : Option (List Modifier)
  /-- The superclass. -/
  superclass : Option (Option SourceType)
  /-- The interfaces. -/
  interfaces : Option (List SourceType)
  /-- The members. -/
  members : Option (List Member)
  /-- The origin. -/
  origin : Option Origin

/-- Read one key of a type declaration. -/
def Draft.step (draft : Draft) (key : String) (value : Json) : Decoded Draft :=
  match key with
  | "name" => return { draft with name := ← once draft.name asText value }
  | "package" => return { draft with package := ← once draft.package asText value }
  | "kind" => return { draft with kind := ← once draft.kind (asName TypeKind.ofName?) value }
  | "modifiers" =>
    return { draft with
      modifiers := ← once draft.modifiers (asList (asName Modifier.ofName?)) value }
  | "superclass" =>
    return { draft with superclass := ← once draft.superclass (asOption SourceType.decode) value }
  | "interfaces" =>
    return { draft with interfaces := ← once draft.interfaces (asList SourceType.decode) value }
  | "members" =>
    return { draft with members := ← once draft.members (asList Member.decode) value }
  | "origin" => return { draft with origin := ← once draft.origin (asName Origin.ofName?) value }
  | _ => do value.skip; return draft

/-- Decode a type declaration. -/
def decode (json : Json) : Decoded TypeDecl := do
  let draft ← json.foldFields keys Draft.step ⟨none, none, none, none, none, none, none, none⟩
  return {
    name := ← shaped draft.name
    package := draft.package.getD ""
    kind := draft.kind.getD .classType
    modifiers := draft.modifiers.getD []
    superclass := draft.superclass.getD none
    interfaces := draft.interfaces.getD []
    members := draft.members.getD []
    origin := draft.origin.getD .source }

end TypeDecl
end Companion
