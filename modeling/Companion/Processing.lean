import Companion.Code.Unit
import Companion.Collection.Round
import Companion.Linking
import Companion.Output.File

/-!
# Processing a round

A round is collected and linked, and one companion is written for each target.  What goes wrong
with one companion is reported for its target, and the others are still written.
-/

namespace Companion
namespace Processing

/-- The linked targets of a round, and what was reported on the way. -/
structure Bindings where
  /-- The targets, in the order of linking. -/
  targets : LinkedTargets
  /-- The reports, in order. -/
  diagnostics : List Diagnostic

/-- Link the targets that were collected. -/
def bindingsOf (world : Universe) (kinds : List ListenerKind) (progress : Collection.Progress) :
    Bindings :=
  match Linking.link world kinds progress.collected with
  | .ok targets => ⟨targets, progress.diagnostics⟩
  | .error stalled =>
    ⟨.empty, progress.diagnostics ++ [⟨.error, stalled.message, none⟩]⟩

/-- Collect and link the targets of a round. -/
def collect (environment : Environment) (kinds : List ListenerKind) : Bindings :=
  bindingsOf environment.world kinds (Collection.collect environment kinds)

/-- What a round produced. -/
structure Outcome where
  /-- The linked targets. -/
  targets : LinkedTargets
  /-- The qualified names of the companions that were written. -/
  written : List String
  /-- The reports, in order. -/
  diagnostics : List Diagnostic

namespace Outcome

/-- Whether something was reported as an error. -/
def hasErrors (outcome : Outcome) : Bool := Diagnostic.anyError outcome.diagnostics

/-- The outcome after a companion was written. -/
def addWritten (outcome : Outcome) (name : String) : Outcome :=
  { outcome with written := outcome.written ++ [name] }

/-- The outcome after the companion of a target failed. -/
def addFailure (outcome : Outcome) (target message : String) : Outcome :=
  { outcome with
    diagnostics := outcome.diagnostics ++
      [.error target s!"Unable to write binding for type {target}: {message}"] }

/-- The outcome with reports in front of its own. -/
def after (outcome : Outcome) (diagnostics : List Diagnostic) : Outcome :=
  { outcome with diagnostics := diagnostics ++ outcome.diagnostics }

end Outcome

/-- The file of a target's companion. -/
def outputFile (settings : CodeSettings) (target : LinkedTarget) : Generated OutputFile := do
  return ⟨target.companion.package, target.companion.simpleName, ← generate settings target⟩

variable {m : Type → Type} [Monad m]

/-- Write the companion of one target. -/
def writeTarget (write : OutputFile → m (Option WriteFault)) (settings : CodeSettings)
    (outcome : Outcome) (entry : String × LinkedTarget) : m Outcome :=
  match outputFile settings entry.2 with
  | .error error => return outcome.addFailure entry.1 error.message
  | .ok file => do
    match ← write file with
    | none => return outcome.addWritten file.qualifiedName
    | some fault => return outcome.addFailure entry.1 fault.message

/-- Process a round with given options, with a way to write files. -/
def process (write : OutputFile → m (Option WriteFault)) (options : Options)
    (environment : Environment) : m Outcome :=
  let bindings := collect environment ListenerKind.standard
  bindings.targets.entries.foldlM (writeTarget write (.ofOptions options))
    ⟨bindings.targets, [], bindings.diagnostics⟩

/-- Process a round with the options that it gives itself. -/
def processRound (write : OutputFile → m (Option WriteFault)) (environment : Environment) :
    m Outcome := do
  let (options, reports) := Options.ofTable environment.options
  return (← process write options environment).after reports

end Processing
end Companion
