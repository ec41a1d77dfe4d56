import Companion.CommandLine.Arguments
import Companion.Output.Directory
import Companion.Processing
import Companion.Round.Json

/-!
# Running the program

A run reads its files, does what it was asked to and ends with a report.  Diagnostics and faults
go to the errors of the report, everything else to its output.
-/

namespace Companion
namespace CommandLine

/-- How a run ended. -/
structure Report where
  /-- The exit code. -/
  exit : Nat
  /-- What is printed as output. -/
  output : String
  /-- What is printed as errors. -/
  errors : String
  deriving DecidableEq, Repr

/-- Why a file could not be used. -/
inductive FileFault where
  /-- The settings cannot be read. -/
  | unreadConfig (path : String)
  /-- The settings are wrong. -/
  | invalidConfig (path : String)
  /-- The round cannot be read. -/
  | unreadRound (path : String)
  /-- The round is wrong. -/
  | invalidRound (path : String)
  deriving DecidableEq, Repr

/-- The fault in words. -/
def FileFault.message : FileFault → String
  | .unreadConfig path => s!"failed to read config file {path}"
  | .invalidConfig path => s!"invalid config file {path}"
  | .unreadRound path => s!"failed to read round file {path}"
  | .invalidRound path => s!"invalid round file {path}"

namespace Report

/-- The report of a run that only prints. -/
def ofOutput (output : String) : Report := ⟨0, output, ""⟩

/-- The report of a run that cannot use a file. -/
def ofFault (fault : FileFault) : Report := ⟨1, "", s!"Error: {fault.message}\n"⟩

/-- The report of a run that stops at its arguments. -/
def ofStop : Stop → Report
  | .usage => ⟨2, "", s!"Usage: {programName} [COMMAND]\n\nFor more information, try '--help'.\n"⟩
  | .page content => ofOutput content

/-- The report on a round: what was written, what went wrong, and if nothing did, a last line. -/
def ofRound (written : List String) (diagnostics : List Diagnostic) (summary : String) : Report :=
  let isFailed := Diagnostic.anyError diagnostics
  { exit := if isFailed then 1 else 0
    output := String.join (written.map fun name => s!"Generated {name}\n") ++
      if isFailed then "" else s!"{summary}\n"
    errors := String.join (diagnostics.map fun diagnostic => s!"{diagnostic.text}\n") }

end Report

variable {m : Type → Type} [Monad m]

/-- Read the settings file, if there is one. -/
def loadSettings (storage : Storage m) : Option String → ExceptT FileFault m Settings
  | none => return .empty
  | some path => do
    let some source ← storage.read path | throw (.unreadConfig path)
    let some settings := Settings.ofText? source | throw (.invalidConfig path)
    return settings

/-- Read the file of a round. -/
def loadRound (storage : Storage m) (path : String) : ExceptT FileFault m Environment := do
  let some source ← storage.read path | throw (.unreadRound path)
  let .ok round := Round.ofText source | throw (.invalidRound path)
  let .ok environment := round.environment | throw (.invalidRound path)
  return environment

/-- Write the companions of a round. -/
def runGenerate (storage : Storage m) (path : String) (arguments : Arguments) :
    ExceptT FileFault m Report := do
  let settings ← loadSettings storage arguments.config
  let environment ← loadRound storage path
  let (options, reports) := effectiveOptions environment.options settings arguments.overrides
  let directory := arguments.overrides.outputDirectory settings
  let outcome ←
    (Processing.process (storage.writeBelow directory) options environment : m Processing.Outcome)
  return .ofRound outcome.written (reports ++ outcome.diagnostics)
    s!"Wrote {outcome.written.length} binding class(es) to {directory}"

/-- Check a round. -/
def runCheck (storage : Storage m) (path : String) (arguments : Arguments) :
    ExceptT FileFault m Report := do
  let _ ← loadSettings storage arguments.config
  let environment ← loadRound storage path
  let (_, reports) := Options.ofTable environment.options
  let bindings := Processing.collect environment ListenerKind.standard
  return .ofRound [] (reports ++ bindings.diagnostics)
    s!"{bindings.targets.size} target(s) bound, no errors"

/-- Do what a request asks for. -/
def runRequest (storage : Storage m) : Request → ExceptT FileFault m Report
  | .generate round arguments => runGenerate storage round arguments
  | .check round arguments => runCheck storage round arguments
  | .version => return .ofOutput s!"{programName} 0.1.0\n"
  | .nothing => return .ofOutput s!"{overview}\n"

/-- Run the program with arguments. -/
def run (storage : Storage m) (arguments : List String) : m Report := do
  match Request.ofArguments arguments with
  | .error stop => return .ofStop stop
  | .ok request =>
    match ← (runRequest storage request).run with
    | .error fault => return .ofFault fault
    | .ok report => return report

end CommandLine
end Companion
