import Companion.Json.Token

/-!
# Reading JSON

One pass over the tokens of a text builds its value.  The containers that are still open are kept
on a stack, innermost first.  When the reading stops, every open container ends at the place that
stopped it.
-/

namespace Companion
namespace Json

/-- How many containers may lie in one another when the innermost is to be taken. -/
def depthLimit : Nat := 127

/-- A container at a given depth, which cannot be taken when it lies too deep. -/
def atDepth (depth : Nat) (json : Json) : Json :=
  if depth ≤ depthLimit then json else .broken (.untaken json.skipFault)

/-- A list that is still open. -/
structure OpenList where
  /-- How many open containers there are with this one. -/
  depth : Nat
  /-- The items so far, last first. -/
  done : List Json

/-- The list with one item more. -/
def OpenList.add (items : OpenList) (item : Json) : OpenList :=
  { items with done := item :: items.done }

/-- The list with its end. -/
def OpenList.close (items : OpenList) (stopped : Option Obstacle) : Json :=
  atDepth items.depth (.list items.done.reverse stopped)

/-- An object that is still open. -/
structure OpenObject where
  /-- How many open containers there are with this one. -/
  depth : Nat
  /-- The entries so far, last first. -/
  done : List (String × Json)
  /-- The values, last first, from the first key on that cannot be taken, if there is one. -/
  untaken : Option (List Json)

/-- The object with an entry more. -/
def OpenObject.add (fields : OpenObject) (key : String) (value : Json) : OpenObject :=
  match fields.untaken with
  | none => { fields with done := (key, value) :: fields.done }
  | some values => { fields with untaken := some (value :: values) }

/-- The object from whose next key on nothing can be taken. -/
def OpenObject.barred (fields : OpenObject) : OpenObject :=
  { fields with untaken := some (fields.untaken.getD []) }

/-- The object with its end. -/
def OpenObject.close (fields : OpenObject) (stopped : Option Obstacle) : Json :=
  let stopped := match fields.untaken with
    | none => stopped
    | some values =>
      some (.untaken ((skipFaultIn values.reverse).or (stopped.bind Obstacle.skipped)))
  atDepth fields.depth (.object fields.done.reverse stopped)

/-- A container whose next value is being read. -/
inductive Frame where
  | list (items : OpenList)
  | object (fields : OpenObject) (key : String)

/-- How many containers are open. -/
def depthOf : List Frame → Nat
  | [] => 0
  | .list items :: _ => items.depth
  | .object fields _ :: _ => fields.depth

/-- The container that ends with a value. -/
def Frame.close (frame : Frame) (value : Json) (stopped : Option Obstacle) : Json :=
  match frame with
  | .list items => (items.add value).close stopped
  | .object fields key => (fields.add key value).close stopped

/-- What the next token has to be. -/
inductive Due where
  /-- The start of a value. -/
  | value
  /-- The start of an item, or the end of the list just opened. -/
  | item (isFirst : Bool) (items : OpenList)
  /-- A key, or the end of the object just opened. -/
  | key (isFirst : Bool) (fields : OpenObject)
  /-- The colon after a key. -/
  | colon (fields : OpenObject) (key : String)
  /-- What follows a complete value. -/
  | next (value : Json)

/-- What is wrong with a token where a value is due. -/
def Token.asValue : Token → Obstacle
  | .brokenText place => place
  | .broken place => place
  | _ => .plain .malformed

/-- What is wrong with a token where a key is due; only a text in quotes can be a key. -/
def Token.asKey : Token → Obstacle
  | .brokenText place => place
  | _ => .plain .malformed

/-- The place where a token is not the one that is due; no object stands for a name that goes on
after a comma. -/
def obstacleAt (due : Due) (token : Option Token) : Obstacle :=
  match due, token with
  | .value, some token => token.asValue
  | .item _ _, some token => token.asValue
  | .key true _, some token => token.asKey
  | .key false _, some token => { token.asKey with named := .malformed }
  | .key false _, none => { Obstacle.plain .cutShort with named := .malformed }
  | _, some _ => .plain .malformed
  | _, none => .plain .cutShort

/-- End all open containers around the place where the reading stops. -/
def stopAround (place : Obstacle) : Json → List Frame → Json
  | value, [] => value
  | value, frame :: outer => stopAround place (frame.close value (some place)) outer

/-- The value that results when the reading stops. -/
def stop (place : Obstacle) (due : Due) (frames : List Frame) : Json :=
  match due, frames with
  | .value, _ => stopAround place (.broken place) frames
  | .item _ items, _ => stopAround place ((items.add (.broken place)).close none) frames
  | .key _ fields, _ => stopAround place (fields.close (some place)) frames
  | .colon fields key, _ => stopAround place ((fields.add key (.broken place)).close none) frames
  | .next value, [] => value
  | .next value, frame :: outer => stopAround place (frame.close value (some place)) outer

/-- A text read as JSON: its value, and the fault of what follows the value. -/
structure Document where
  /-- The value at the start of the text. -/
  root : Json
  /-- What is wrong after it. -/
  trailing : Option Fault

/-- What is due after the first token of a value, if the token is one. -/
def start? (frames : List Frame) : Token → Option Due
  | .openList => some (.item true ⟨depthOf frames + 1, []⟩)
  | .openObject => some (.key true ⟨depthOf frames + 1, [], none⟩)
  | .text value => some (.next (.text value))
  | .unpairedText => some (.next (.broken (.untaken none)))
  | .scalar value => some (.next value)
  | _ => none

/-- What is due after a token, and the containers around it, if the token is one that was due. -/
def advance? (due : Due) (frames : List Frame) (token : Token) : Option (Due × List Frame) :=
  match due, frames, token with
  | .value, _, _ => (start? frames token).map (·, frames)
  | .item true items, _, .closeList => some (.next (items.close none), frames)
  | .item _ items, _, _ => (start? (.list items :: frames) token).map (·, .list items :: frames)
  | .key true fields, _, .closeObject => some (.next (fields.close none), frames)
  | .key _ fields, _, .text key => some (.colon fields key, frames)
  | .key _ fields, _, .unpairedText => some (.colon fields.barred "", frames)
  | .colon fields key, _, .colon => some (.value, .object fields key :: frames)
  | .next value, .list items :: outer, .comma => some (.item false (items.add value), outer)
  | .next value, .list items :: outer, .closeList =>
    some (.next ((items.add value).close none), outer)
  | .next value, .object fields key :: outer, .comma =>
    some (.key false (fields.add key value), outer)
  | .next value, .object fields key :: outer, .closeObject =>
    some (.next ((fields.add key value).close none), outer)
  | _, _, _ => none

/-- Read on with the tokens left. -/
def build (due : Due) (frames : List Frame) : List Token → Document
  | [] => ⟨stop (obstacleAt due none) due frames, none⟩
  | token :: rest =>
    match advance? due frames token with
    | some (due, frames) => build due frames rest
    | none =>
      ⟨stop (obstacleAt due (some token)) due frames,
        match due, frames with
        | .next _, [] => some .malformed
        | _, _ => none⟩

/-- Read a text. -/
def read (text : String) : Document := build .value [] (tokens text.toList)

/-- The value of a text that is JSON throughout. -/
def parse? (text : String) : Option Json :=
  let document := read text
  if (document.root.firstFault.or document.trailing).isNone then some document.root else none

end Json
end Companion
