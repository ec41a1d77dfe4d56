import Companion.Declaration.Json
import Companion.ResourceIndex.Basic

/-!
# Resource indices as JSON

An index is an object with its name and its form.  The trees of the source form may be nested to
any depth.
-/

namespace Companion

open Json

namespace SourceField

/-- The JSON form of a field. -/
def toJson (field : SourceField) : Json :=
  .ofEntries [("name", .text field.name), ("type", .text field.type),
    ("modifiers", .ofList (field.modifiers.map fun modifier => .text modifier.name)),
    ("initializer", .ofOption .text field.initializer)]

/-- Read a field. -/
def ofJson? (json : Json) : Option SourceField := do
  let entries ← json.record? ["name", "type", "modifiers", "initializer"]
  return ⟨← field? text? entries "name", ← field? text? entries "type",
    ← fieldOr? (list? (name? Modifier.ofName?)) [] entries "modifiers",
    ← fieldOr? (nullable? text?) none entries "initializer"⟩

end SourceField

namespace SourceClass

mutual

/-- The JSON form of a class. -/
def toJson : SourceClass → Json
  | ⟨name, modifiers, fields, nested⟩ =>
    .ofEntries [("name", .text name),
      ("modifiers", .ofList (modifiers.map fun modifier => .text modifier.name)),
      ("fields", .ofList (fields.map SourceField.toJson)),
      ("nested", .ofList (toJsonAll nested))]

/-- The JSON forms of several classes. -/
def toJsonAll : List SourceClass → List Json
  | [] => []
  | tree :: rest => toJson tree :: toJsonAll rest

end

/-- The keys of a class. -/
def keys : List String := ["name", "modifiers", "fields", "nested"]

/-- A class with the given fields and nested classes. -/
def ofFields? (fields : List (String × Json)) (nested : List SourceClass) : Option SourceClass := do
  return ⟨← field? text? fields "name",
    ← fieldOr? (list? (name? Modifier.ofName?)) [] fields "modifiers",
    ← fieldOr? (list? SourceField.ofJson?) [] fields "fields", nested⟩

mutual

/-- Read a class. -/
def ofJson? : Json → Option SourceClass
  | .object entries stopped => do
    ofFields? (← record? keys (.object entries stopped)) (← nestedIn? entries)
  | .list items stopped => do
    ofFields? (← record? keys (.list items stopped)) (← nestedAt? items)
  | _ => none

/-- Read the nested classes among the entries of a class. -/
def nestedIn? : List (String × Json) → Option (List SourceClass)
  | [] => some []
  | (key, value) :: rest => if key = "nested" then itemsOf? value else nestedIn? rest

/-- Read the nested classes in their place among the fields of a class. -/
def nestedAt? : List Json → Option (List SourceClass)
  | _ :: _ :: _ :: nested :: _ => itemsOf? nested
  | _ => some []

/-- Read a list of classes. -/
def itemsOf? : Json → Option (List SourceClass)
  | .list items _ => all? items
  | _ => none

/-- Read several classes. -/
def all? : List Json → Option (List SourceClass)
  | [] => some []
  | item :: rest => do return (← ofJson? item) :: (← all? rest)

end

end SourceClass

namespace CompiledMember

/-- The JSON form of a constant. -/
def toJson (member : CompiledMember) : Json :=
  .ofEntries [("name", .text member.name),
    ("constant_value", .ofOption (fun value => .integer value.toInt) member.constant)]

/-- Read a constant. -/
def ofJson? (json : Json) : Option CompiledMember := do
  let entries ← json.record? ["name", "constant_value"]
  return ⟨← field? text? entries "name",
    ← fieldOr? (nullable? int32?) none entries "constant_value"⟩

end CompiledMember

namespace CompiledClass

/-- The JSON form of a compiled class. -/
def toJson (compiled : CompiledClass) : Json :=
  .ofEntries [("name", .text compiled.name),
    ("members", .ofList (compiled.members.map CompiledMember.toJson))]

/-- Read a compiled class. -/
def ofJson? (json : Json) : Option CompiledClass := do
  let entries ← json.record? ["name", "members"]
  return ⟨← field? text? entries "name",
    ← fieldOr? (list? CompiledMember.ofJson?) [] entries "members"⟩

end CompiledClass

namespace IndexForm

/-- The keys that tell the form of an index. -/
def toEntries : IndexForm → List (String × Json)
  | .source tree => [("form", .text "source"), ("tree", tree.toJson)]
  | .compiled classes =>
    [("form", .text "compiled"), ("classes", .ofList (classes.map CompiledClass.toJson))]

/-- The two forms. -/
inductive Tag where
  | source
  | compiled

/-- The form that a checked value names, by its name or its place in the list of forms. -/
def tag? : Json → Option Tag
  | .text "source" => some .source
  | .text "compiled" => some .compiled
  | .integer 0 => some .source
  | .integer 1 => some .compiled
  | _ => none

/-- Read the form of an index from the keys that it has of its own. -/
def ofEntries? (entries : List (String × Json)) : Option IndexForm := do
  let _ ← entries? ["form"] (.ofEntries entries)
  match ← field? tag? entries "form" with
  | .source =>
    let entries ← entries? ["tree"] (.ofEntries entries)
    return .source (← field? SourceClass.ofJson? entries "tree")
  | .compiled =>
    let entries ← entries? ["classes"] (.ofEntries entries)
    return .compiled (← fieldOr? (list? CompiledClass.ofJson?) [] entries "classes")

end IndexForm

namespace ResourceIndex

/-- The JSON form of an index. -/
def toJson (index : ResourceIndex) : Json :=
  .ofEntries (("name", .text index.name) :: index.form.toEntries)

/-- The keys of an index read so far, with those that depend on its form last first. -/
structure Draft where
  /-- The name. -/
  name : Option String
  /-- The other keys. -/
  others : List (String × Json)

/-- Read one key of an index. -/
def Draft.step (draft : Draft) (key : String) (value : Json) : Decoded Draft :=
  match key with
  | "name" => return { draft with name := ← once draft.name asText value }
  | _ => do value.check; return { draft with others := (key, value) :: draft.others }

/-- Decode an index. -/
def decode (json : Json) : Decoded ResourceIndex := do
  let draft ← json.foldEntries Draft.step ⟨none, []⟩
  return ⟨← shaped draft.name, ← shaped (IndexForm.ofEntries? draft.others.reverse)⟩

end ResourceIndex
end Companion
