import Companion.ResourceIndex.Basic
import Companion.Universe.Basic

/-!
# Rounds

One round of processing: the options of the host, the types that it compiles or knows, and the
resource indices that ids may refer to.
-/

namespace Companion

/-- The description of a round. -/
structure Round where
  /-- The options of the host. -/
  options : Table String String
  /-- The declared types. -/
  types : List TypeDecl
  /-- The resource indices. -/
  indices : List ResourceIndex

/-- What can be asked while a round is processed. -/
structure Environment where
  /-- The types, with those of the platform. -/
  world : Universe
  /-- The options of the host. -/
  options : Table String String
  /-- The resource indices by name. -/
  indices : Table String ResourceIndex

namespace Round

/-- The round without options, types and indices. -/
def empty : Round := ⟨.empty, [], []⟩

/-- The environment of a round. -/
def environment (round : Round) : Except Universe.Refusal Environment := do
  let world ← Universe.platform.insertAll round.types
  return ⟨world, round.options, .ofList (round.indices.map fun index => (index.name, index))⟩

end Round

namespace Environment

/-- The environment with one more resource index. -/
def withIndex (environment : Environment) (index : ResourceIndex) : Environment :=
  { environment with indices := environment.indices.insert index.name index }

/-- The resource index of a name. -/
def index? (environment : Environment) (name : String) : Option ResourceIndex :=
  environment.indices.get? name

end Environment
end Companion
