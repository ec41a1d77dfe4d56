/-!
# JSON values

A JSON text is read as far as it is well formed, and what stops the reading is kept where it was
met.  A decoder that walks the value from left to right therefore meets the first problem of the
text, whether it lies in the grammar or in the shape of the value.  A value that no one asks for is
only passed over, and what passes there need not be fit to be taken.
-/

namespace Companion

/-- Why a JSON text is refused. -/
inductive Json.Fault
  /-- The text ends too early. -/
  | cutShort
  /-- The text is not JSON. -/
  | malformed
  /-- The text is JSON of another shape than the one asked for. -/
  | mismatch
  deriving DecidableEq, Repr

/-- A place where a text cannot be read on, with the fault for each way of reading there. -/
structure Json.Obstacle where
  /-- The fault for one who takes what stands there. -/
  taken : Json.Fault
  /-- The fault for one who passes over it, if there is any. -/
  skipped : Option Json.Fault
  /-- The fault for one who expects the name of a constant. -/
  named : Json.Fault
  deriving DecidableEq, Repr

/-- A JSON value, or as much of one as could be read. -/
inductive Json where
  | null
  | bool (value : Bool)
  /-- A number written without fraction and exponent. -/
  | integer (value : Int)
  /-- Any other number; no field takes one. -/
  | decimal
  | text (value : String)
  /-- A list, and what stopped its reading. -/
  | list (items : List Json) (stopped : Option Json.Obstacle)
  /-- An object in the order of its keys, and what stopped its reading. -/
  | object (entries : List (String × Json)) (stopped : Option Json.Obstacle)
  /-- A value that could not be read. -/
  | broken (place : Json.Obstacle)
  deriving Inhabited

namespace Json

/-- A place that is the same fault in every way of reading. -/
def Obstacle.plain (cause : Fault) : Obstacle := ⟨cause, some cause, cause⟩

/-- Something that is not to be taken; passing over it is a fault only where one is given. -/
def Obstacle.untaken (skipped : Option Fault) : Obstacle := ⟨.malformed, skipped, .malformed⟩

/-- A complete list. -/
abbrev ofList (items : List Json) : Json := .list items none

/-- A complete object. -/
abbrev ofEntries (entries : List (String × Json)) : Json := .object entries none

/-- The value under a key of an object. -/
def get? (json : Json) (key : String) : Option Json :=
  match json with
  | .object entries _ => entries.lookup key
  | _ => none

/-- An optional value, with `null` for none. -/
def ofOption {α : Type} (encode : α → Json) : Option α → Json
  | none => .null
  | some value => encode value

/-- The fault of a value that is not of the kind asked for. -/
def wrongKind : Json → Fault
  | .broken place => place.taken
  | _ => .mismatch

mutual

/-- The first problem met when the value is taken with all its parts. -/
def firstFault : Json → Option Fault
  | .list items stopped => (firstFaultIn items).or (stopped.map Obstacle.taken)
  | .object entries stopped => (firstFaultUnder entries).or (stopped.map Obstacle.taken)
  | .broken place => some place.taken
  | _ => none

/-- `firstFault` along a list. -/
def firstFaultIn : List Json → Option Fault
  | [] => none
  | item :: rest => (firstFault item).or (firstFaultIn rest)

/-- `firstFault` along the entries of an object. -/
def firstFaultUnder : List (String × Json) → Option Fault
  | [] => none
  | (_, value) :: rest => (firstFault value).or (firstFaultUnder rest)

end

mutual

/-- The first problem met when the value is passed over. -/
def skipFault : Json → Option Fault
  | .list items stopped => (skipFaultIn items).or (stopped.bind Obstacle.skipped)
  | .object entries stopped => (skipFaultUnder entries).or (stopped.bind Obstacle.skipped)
  | .broken place => place.skipped
  | _ => none

/-- `skipFault` along a list. -/
def skipFaultIn : List Json → Option Fault
  | [] => none
  | item :: rest => (skipFault item).or (skipFaultIn rest)

/-- `skipFault` along the entries of an object. -/
def skipFaultUnder : List (String × Json) → Option Fault
  | [] => none
  | (_, value) :: rest => (skipFault value).or (skipFaultUnder rest)

end

end Json
end Companion
