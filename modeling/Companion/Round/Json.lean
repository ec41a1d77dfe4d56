import Companion.Json.Reader
import Companion.ResourceIndex.Json
import Companion.Round.Basic

/-!
# Rounds as JSON

A round is written with all its keys.  It is read from the text of an object, or of a list of its
fields in order; a key or a place that is left out has its default.
-/

namespace Companion
namespace Round

open Json

/-- The JSON form of a round. -/
def toJson (round : Round) : Json :=
  .ofEntries
    [("options", .ofEntries (round.options.entries.map fun (key, value) => (key, .text value))),
      ("types", .ofList (round.types.map TypeDecl.toJson)),
      ("resource_indices", .ofList (round.indices.map ResourceIndex.toJson))]

/-- The keys of a round. -/
def keys : List String := ["options", "types", "resource_indices"]

/-- The keys of a round read so far. -/
structure Draft where
  /-- The options. -/
  options : Option (Table String String)
  /-- The types. -/
  types : Option (List TypeDecl)
  /-- The resource indices. -/
  indices : Option (List ResourceIndex)

/-- Read one key of a round. -/
def Draft.step (draft : Draft) (key : String) (value : Json) : Decoded Draft :=
  match key with
  | "options" => return { draft with options := ← once draft.options (asTable asText) value }
  | "types" => return { draft with types := ← once draft.types (asList TypeDecl.decode) value }
  | "resource_indices" =>
    return { draft with indices := ← once draft.indices (asList ResourceIndex.decode) value }
  | _ => do value.skip; return draft

/-- The round with the keys read. -/
def Draft.round (draft : Draft) : Round :=
  ⟨draft.options.getD .empty, draft.types.getD [], draft.indices.getD []⟩

/-- Decode a round. -/
def decode (json : Json) : Decoded Round := do
  return (← json.foldFields keys Draft.step ⟨none, none, none⟩).round

/-- Read the text of a round. -/
def ofText (text : String) : Decoded Round := do
  let document := Json.read text
  let round ← decode document.root
  refuse document.trailing
  return round

end Round
end Companion
