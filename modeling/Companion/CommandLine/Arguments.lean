import Companion.CommandLine.Form
import Companion.Settings
import Companion.Text.Digits

/-!
# Arguments

The arguments of the program are read from left to right; the first one that is wrong or asks for
an explanation ends the reading.
-/

namespace Companion
namespace CommandLine

/-- Why the reading of arguments ends early. -/
inductive Stop where
  /-- An argument is wrong, or one is missing. -/
  | usage
  /-- A page is asked for. -/
  | page (content : String)
  deriving DecidableEq, Repr

/-- The arguments of a subcommand. -/
structure Arguments where
  /-- The file of the round. -/
  round : Option String
  /-- What is set for this run. -/
  overrides : Overrides
  /-- The settings file. -/
  config : Option String
  /-- Whether details of the processing are asked for. -/
  verbose : Bool
  deriving DecidableEq, Repr

/-- What the program is asked to do. -/
inductive Request where
  /-- Write the companions of a round. -/
  | generate (round : String) (arguments : Arguments)
  /-- Check a round. -/
  | check (round : String) (arguments : Arguments)
  /-- Show the version. -/
  | version
  /-- Nothing. -/
  | nothing
  deriving DecidableEq, Repr

/-- Arguments read, or the reason to stop. -/
abbrev Outcome := Except Stop

namespace Arguments

/-- No argument. -/
def none : Arguments := ⟨.none, .none, .none, false⟩

/-- The path that a text is; an empty one is none. -/
def path (value : String) : Outcome String := if value = "" then .error .usage else .ok value

/-- The API level that a text is; a minus sign is possible in front of zero alone. -/
def level (value : String) : Outcome Nat :=
  let number := match value.toList with
    | '-' :: digits => (Text.numeral? 10 digits).filter (· = 0)
    | digits => Text.signedNumeral? 10 digits
  match number.filter (· < UInt32.size) with
  | some level => .ok level
  | .none => .error .usage

/-- Set what was not set before. -/
def once {α : Type} (present : Option α) (value : α) : Outcome (Option α) :=
  if present.isSome then .error .usage else .ok (some value)

/-- Raise a flag that was not raised before. -/
def raise (present : Bool) : Outcome Bool := if present then .error .usage else .ok true

/-- Set an option that takes a value. -/
def setValue (arguments : Arguments) (key : OptionKey) (value : String) : Outcome Arguments := do
  let overrides := arguments.overrides
  match key with
  | .output => do
    let directory ← once overrides.directory (← path value)
    return { arguments with overrides := { overrides with directory } }
  | .minSdk => do
    let minSdk ← once overrides.minSdk (← level value)
    return { arguments with overrides := { overrides with minSdk } }
  | .config => return { arguments with config := ← once arguments.config (← path value) }
  | _ => .error .usage

/-- Set an option that takes no value. -/
def setFlag (form : CommandForm) (arguments : Arguments) (key : OptionKey) : Outcome Arguments := do
  match key with
  | .release => do
    let release ← raise arguments.overrides.release
    return { arguments with overrides := { arguments.overrides with release } }
  | .verbose => return { arguments with verbose := ← raise arguments.verbose }
  | .help => .error (.page form.page)
  | _ => .error .usage

/-- Take an argument that is no option. -/
def setArgument (form : CommandForm) (arguments : Arguments) (value : String) :
    Outcome Arguments := do
  if form.argument.isNone then .error .usage
  else return { arguments with round := ← once arguments.round (← path value) }

/-- An argument as the start of an option. -/
inductive Shape where
  /-- Two dashes alone: no option follows. -/
  | last
  /-- Two dashes and a name, and a value after an equals sign. -/
  | named (name : String) (value : Option String)
  /-- A dash and letters. -/
  | letters (letters : List Char)
  /-- No option. -/
  | value

/-- The shape of an argument. -/
def shapeOf (argument : String) : Shape :=
  match argument.toList with
  | ['-', '-'] => .last
  | '-' :: '-' :: rest =>
    let name := String.ofList (rest.takeWhile (· ≠ '='))
    match rest.dropWhile (· ≠ '=') with
    | _ :: value => .named name (some (String.ofList value))
    | [] => .named name .none
  | ['-'] => .value
  | '-' :: letters => .letters letters
  | _ => .value

/-- Read a row of option letters.  The first option that takes a value takes what follows its
letter, or if nothing does, waits for the next argument. -/
def readLetters (form : CommandForm) (arguments : Arguments) :
    List Char → Outcome (Arguments × Option OptionKey)
  | [] => .ok (arguments, .none)
  | letter :: rest =>
    match form.options.find? fun option => option.letter = some letter with
    | .none => .error .usage
    | some option =>
      if option.value.isNone then do
        readLetters form (← arguments.setFlag form option.key) rest
      else match rest with
        | [] => .ok (arguments, some option.key)
        | '=' :: value => do return (← arguments.setValue option.key (String.ofList value), .none)
        | value => do return (← arguments.setValue option.key (String.ofList value), .none)

/-- Read the name of an option, and its value if that is part of the same argument. -/
def readName (form : CommandForm) (arguments : Arguments) (name : String) (value : Option String) :
    Outcome (Arguments × Option OptionKey) :=
  match form.options.find? fun option => option.name = name with
  | .none => .error .usage
  | some option =>
    match option.value, value with
    | .none, .none => do return (← arguments.setFlag form option.key, .none)
    | .none, some _ => .error .usage
    | some _, some value => do return (← arguments.setValue option.key value, .none)
    | some _, .none => .ok (arguments, some option.key)

/-- Read the arguments of a subcommand; an option may wait for its value. -/
def readFrom (form : CommandForm) (arguments : Arguments) :
    Option OptionKey → List String → Outcome Arguments
  | some _, [] => .error .usage
  | .none, [] => .ok arguments
  | waiting, argument :: rest =>
    match shapeOf argument, waiting with
    | .value, some key => do readFrom form (← arguments.setValue key argument) .none rest
    | _, some _ => .error .usage
    | .value, .none => do readFrom form (← arguments.setArgument form argument) .none rest
    | .last, .none => rest.foldlM (setArgument form) arguments
    | .named name value, .none => do
      let (arguments, waiting) ← readName form arguments name value
      readFrom form arguments waiting rest
    | .letters letters, .none => do
      let (arguments, waiting) ← readLetters form arguments letters
      readFrom form arguments waiting rest

/-- Read the arguments of a subcommand. -/
def read (form : CommandForm) (arguments : List String) : Outcome Arguments :=
  readFrom form .none .none arguments

/-- The file of the round, which may not be missing. -/
def needRound (arguments : Arguments) : Outcome String :=
  match arguments.round with
  | some round => .ok round
  | .none => .error .usage

end Arguments

namespace Request

/-- The page that names of subcommands ask for. -/
def pageOf : List String → Stop
  | [] => .page overview
  | [name] => match form? name with
    | some form => .page form.page
    | none => .usage
  | _ => .usage

/-- What arguments ask for, when they start with no name of a subcommand. -/
def ofOption (first : String) (rest : List String) : Outcome Request :=
  match Arguments.shapeOf first with
  | .last => if rest.isEmpty then .ok .nothing else .error .usage
  | .named name none => .error (if name = helpOption.name then .page overview else .usage)
  | .letters ('h' :: _) => .error (.page overview)
  | _ => .error .usage

/-- What arguments ask for. -/
def ofArguments : List String → Outcome Request
  | [] => .ok .nothing
  | "generate" :: rest => do
    let arguments ← Arguments.read generateForm rest
    return .generate (← arguments.needRound) arguments
  | "check" :: rest => do
    let arguments ← Arguments.read checkForm rest
    return .check (← arguments.needRound) arguments
  | "version" :: rest => do
    let _ ← Arguments.read versionForm rest
    return .version
  | "help" :: names => .error (pageOf names)
  | first :: rest => ofOption first rest

/-- Whether details of the processing are asked for. -/
def isVerbose : Request → Bool
  | .generate _ arguments => arguments.verbose
  | .check _ arguments => arguments.verbose
  | _ => false

end Request
end CommandLine
end Companion
