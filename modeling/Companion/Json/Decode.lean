import Companion.Json.Value
import Companion.Table

/-!
# Decoding JSON

Decoders walk a value from left to right and report the first problem they meet.  Some parts of a
value can be understood only once the object around them is complete; such a part is first checked
as a whole, and afterwards every problem in it is one of shape.
-/

namespace Companion
namespace Json

/-- The outcome of decoding. -/
abbrev Decoded (α : Type) := Except Fault α

/-- A problem met with is an error. -/
def refuse : Option Fault → Decoded Unit
  | some cause => .error cause
  | none => .ok ()

/-- Pass over a value, reading its grammar alone. -/
def skip (json : Json) : Decoded Unit := refuse json.skipFault

/-- Read a value in full before it is looked at. -/
def check (json : Json) : Decoded Unit := refuse json.firstFault

/-- Decode a value that has been checked already. -/
def shaped {α : Type} (value : Option α) : Decoded α :=
  match value with
  | some value => .ok value
  | none => .error .mismatch

/-- Decode a text. -/
def asText : Json → Decoded String
  | .text value => .ok value
  | other => .error other.wrongKind

/-- Decode a list item by item. -/
def asList {α : Type} (decode : Json → Decoded α) : Json → Decoded (List α)
  | .list items stopped => do
    let values ← items.mapM decode
    refuse (stopped.map Obstacle.taken)
    return values
  | other => .error other.wrongKind

/-- Decode an object as a table. -/
def asTable {α : Type} (decode : Json → Decoded α) : Json → Decoded (Table String α)
  | .object entries stopped => do
    let values ← entries.mapM fun (key, value) => return (key, ← decode value)
    refuse (stopped.map Obstacle.taken)
    return .ofList values
  | other => .error other.wrongKind

/-- Decode a value that may be `null`. -/
def asOption {α : Type} (decode : Json → Decoded α) : Json → Decoded (Option α)
  | .null => .ok none
  | other => some <$> decode other

/-- The outcome at the end of an object that stands for a name. -/
def nameAt {α : Type} (found : Decoded α) : Option Obstacle → Decoded α
  | none => found
  | some place => .error place.named

/-- Decode one of several names, given as a text or as an object with `null` under the name. -/
def asName {α : Type} (ofName : String → Option α) : Json → Decoded α
  | .text name => shaped (ofName name)
  | .object [] stopped => nameAt (.error .malformed) stopped
  | .object ((name, value) :: more) stopped => do
    let found ← shaped (ofName name)
    match value, more with
    | .null, [] => nameAt (.ok found) stopped
    | .null, _ :: _ => .error .malformed
    | other, _ => .error other.wrongKind
  | .broken place => .error place.named
  | _ => .error .malformed

/-- Fill a field of a record, which may be given only once. -/
def once {α : Type} (field : Option α) (decode : Json → Decoded α) (value : Json) :
    Decoded (Option α) :=
  match field with
  | some _ => .error .mismatch
  | none => some <$> decode value

/-- Walk the entries of an object with the record that they fill. -/
def foldEntries {σ : Type} (step : σ → String → Json → Decoded σ) (start : σ) :
    Json → Decoded σ
  | .object entries stopped => do
    let record ← entries.foldlM (fun record (key, value) => step record key value) start
    refuse (stopped.map Obstacle.taken)
    return record
  | other => .error other.wrongKind

/-- Walk the fields of a record, which may be given as a list in the order of their keys. -/
def foldFields {σ : Type} (keys : List String) (step : σ → String → Json → Decoded σ) (start : σ) :
    Json → Decoded σ
  | .list items stopped => do
    let record ← (keys.zip items).foldlM (fun record (key, value) => step record key value) start
    if keys.length < items.length then .error .malformed
    refuse (stopped.map Obstacle.taken)
    return record
  | json => json.foldEntries step start

/-! ## Checked values

Decoders of a value that has been checked can fail in one way only.
-/

/-- The text that a checked value is. -/
def text? : Json → Option String
  | .text value => some value
  | _ => none

/-- The items of a checked list. -/
def items? : Json → Option (List Json)
  | .list items _ => some items
  | _ => none

/-- The entries of a checked object in which no known key stands twice. -/
def entries? (known : List String) : Json → Option (List (String × Json))
  | .object entries _ =>
    if ((entries.map Prod.fst).filter known.contains).Nodup then some entries else none
  | _ => none

/-- The fields of a checked record, which may be given as a list in the order of their keys. -/
def record? (known : List String) : Json → Option (List (String × Json))
  | .list items _ => if items.length ≤ known.length then some (known.zip items) else none
  | json => json.entries? known

/-- A field that must be given. -/
def field? {α : Type} (decode : Json → Option α) (entries : List (String × Json)) (key : String) :
    Option α :=
  (entries.lookup key).bind decode

/-- A field with a default. -/
def fieldOr? {α : Type} (decode : Json → Option α) (default : α)
    (entries : List (String × Json)) (key : String) : Option α :=
  match entries.lookup key with
  | none => some default
  | some value => decode value

/-- A value that may be `null`. -/
def nullable? {α : Type} (decode : Json → Option α) : Json → Option (Option α)
  | .null => some none
  | other => some <$> decode other

/-- A list in which every item decodes. -/
def list? {α : Type} (decode : Json → Option α) (json : Json) : Option (List α) :=
  json.items?.bind fun items => items.mapM decode

/-- A checked value that names one of several things, alone or over `null` or an empty object. -/
def name? {α : Type} (ofName : String → Option α) : Json → Option α
  | .text name => ofName name
  | .object [(name, .null)] _ => ofName name
  | .object [(name, .object [] _)] _ => ofName name
  | _ => none

end Json
end Companion
