import Companion.Text.Pieces

/-!
# Forms of the command line

What each subcommand accepts, and the pages that explain it.
-/

namespace Companion
namespace CommandLine

/-- What an option is about. -/
inductive OptionKey where
  | output
  | minSdk
  | release
  | config
  | verbose
  | help
  deriving DecidableEq, Repr

/-- How an option is written. -/
structure OptionForm where
  /-- What it is about. -/
  key : OptionKey
  /-- Its letter. -/
  letter : Option Char
  /-- Its name. -/
  name : String
  /-- The name of its value, if it takes one. -/
  value : Option String
  /-- What it does. -/
  about : String
  deriving Repr

/-- How a subcommand is written. -/
structure CommandForm where
  /-- Its name. -/
  name : String
  /-- What it does. -/
  about : String
  /-- The argument that it takes, if any, and what that is. -/
  argument : Option (String × String)
  /-- Its options. -/
  options : List OptionForm
  deriving Repr

/-- The option that asks for an explanation. -/
def helpOption : OptionForm := ⟨.help, some 'h', "help", none, "Print help"⟩

/-- The option that names a settings file. -/
def configOption : OptionForm :=
  ⟨.config, none, "config", some "CONFIG", "Settings file (viewbind.toml)"⟩

/-- The option that asks for details of the processing. -/
def verboseOption : OptionForm := ⟨.verbose, some 'v', "verbose", none, "Log processing details"⟩

/-- The argument that names a round. -/
def roundArgument : String × String := ("<ROUND>", "Round description (JSON)")

/-- Writing the companions of a round. -/
def generateForm : CommandForm where
  name := "generate"
  about := "Process a round and write the generated Java sources"
  argument := some roundArgument
  options :=
    [⟨.output, some 'o', "output", some "OUTPUT", "Output directory for .java files"⟩,
      ⟨.minSdk, none, "min-sdk", some "MIN_SDK", "Lowest API level the generated code targets"⟩,
      ⟨.release, none, "release", none, "Emit plain lookups and casts without runtime checks"⟩,
      configOption, verboseOption, helpOption]

/-- Checking a round. -/
def checkForm : CommandForm where
  name := "check"
  about := "Validate a round without writing anything"
  argument := some roundArgument
  options := [configOption, verboseOption, helpOption]

/-- Showing the version. -/
def versionForm : CommandForm := ⟨"version", "Show version information", none, [helpOption]⟩

/-- Explaining a subcommand. -/
def helpForm : CommandForm :=
  ⟨"help", "Print this message or the help of the given subcommand(s)",
    some ("[COMMAND]...", "Print help for the subcommand(s)"), []⟩

/-- All subcommands. -/
def forms : List CommandForm := [generateForm, checkForm, versionForm, helpForm]

/-- The subcommand of a name. -/
def form? (name : String) : Option CommandForm := forms.find? fun form => form.name = name

/-- The name of the program. -/
def programName : String := "viewbind"

/-- A text with blanks after it up to a width. -/
def padded (width : Nat) (text : String) : String :=
  text ++ String.ofList (List.replicate (width - text.length) ' ')

/-- Rows of two columns. -/
def columns (rows : List (String × String)) : String :=
  let width := rows.foldl (fun width (left, _) => max width left.length) 0
  String.join (rows.map fun (left, right) => s!"  {padded width left}  {right}\n")

/-- Rows under a heading, if there are any. -/
def block (heading : String) (rows : List (String × String)) : String :=
  if rows.isEmpty then "" else s!"\n{heading}:\n{columns rows}"

/-- The row of an option. -/
def OptionForm.row (option : OptionForm) : String × String :=
  let letter := match option.letter with
    | some letter => s!"-{letter}, "
    | none => "    "
  let value := match option.value with
    | some value => s!" <{value}>"
    | none => ""
  (s!"{letter}--{option.name}{value}", option.about)

/-- The page that explains a subcommand. -/
def CommandForm.page (form : CommandForm) : String :=
  let options := if form.options.any fun option => option.key ≠ .help then ["[OPTIONS]"] else []
  let usage := Text.joined " " ([programName, form.name] ++ options ++
    form.argument.toList.map Prod.fst)
  s!"{form.about}\n\nUsage: {usage}\n" ++ block "Arguments" form.argument.toList ++
    block "Options" (form.options.map OptionForm.row)

/-- The page that explains the program. -/
def overview : String :=
  s!"Generates _ViewBinding companions for annotated Android classes\n\nUsage: {programName} [COMMAND]\n" ++
    block "Commands" (forms.map fun form => (form.name, form.about)) ++
    block "Options" [helpOption.row]

end CommandLine
end Companion
