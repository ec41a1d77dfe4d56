import Companion.Options
import Companion.Toml.Reader

/-!
# Settings

A settings file and the command line each may set options over those of a round and name the
directory of the output.  The command line wins over the file.
-/

namespace Companion

/-- What a settings file sets. -/
structure Settings where
  /-- The lowest API level. -/
  minSdk : Option Nat
  /-- Whether generated code has checks. -/
  debuggable : Option Bool
  /-- The directory of the output. -/
  directory : Option String
  deriving DecidableEq, Repr

/-- What the command line sets. -/
structure Overrides where
  /-- The lowest API level. -/
  minSdk : Option Nat
  /-- Whether the generated code is for release, without checks. -/
  release : Bool
  /-- The directory of the output. -/
  directory : Option String
  deriving DecidableEq, Repr

namespace Settings

/-- The settings of an empty file. -/
def empty : Settings := ⟨none, none, none⟩

/-- Set the API level. -/
def setMinSdk (settings : Settings) : Toml → Option Settings
  | .integer value =>
    if 0 ≤ value ∧ value < UInt32.size then some { settings with minSdk := some value.toNat }
    else none
  | _ => none

/-- Set whether generated code has checks. -/
def setDebuggable (settings : Settings) : Toml → Option Settings
  | .boolean value => some { settings with debuggable := some value }
  | _ => none

/-- Set the directory. -/
def setDirectory (settings : Settings) : Toml → Option Settings
  | .text value => some { settings with directory := some value }
  | _ => none

/-- Sets one key of a section. -/
abbrev Setter := Settings → Toml → Option Settings

/-- The keys of the section on processing, in order. -/
def processorKeys : List (String × Setter) :=
  [("min_sdk", setMinSdk), ("debuggable", setDebuggable)]

/-- The keys of the section on output, in order. -/
def outputKeys : List (String × Setter) := [("dir", setDirectory)]

/-- Set the entries of a table, whose keys have to be known. -/
def setEntries (keys : List (String × Setter)) (settings : Settings)
    (entries : List (String × Toml)) : Option Settings :=
  entries.foldlM (fun settings (key, value) => do (← keys.lookup key) settings value) settings

/-- Set a section.  A list gives the values of the keys in their order. -/
def setSection (keys : List (String × Setter)) (settings : Settings) : Toml → Option Settings
  | .table _ entries => setEntries keys settings entries
  | .inline entries => setEntries keys settings entries
  | .list items =>
    (keys.zip items).foldlM (fun settings ((_, set), value) => set settings value) settings
  | _ => none

/-- The sections of a file. -/
def sections : List (String × Setter) :=
  [("processor", setSection processorKeys), ("output", setSection outputKeys)]

/-- Read the text of a settings file. -/
def ofText? (source : String) : Option Settings := do
  setEntries sections empty (← Toml.ofText? source)

/-- Set the options that a file sets. -/
def apply (settings : Settings) (options : Options) : Options :=
  ⟨settings.minSdk.getD options.minSdk, settings.debuggable.getD options.debuggable⟩

end Settings

namespace Overrides

/-- The command line that sets nothing. -/
def none : Overrides := ⟨.none, false, .none⟩

/-- Set the options that the command line sets. -/
def apply (overrides : Overrides) (options : Options) : Options :=
  ⟨overrides.minSdk.getD options.minSdk, !overrides.release && options.debuggable⟩

/-- The directory of the output when none is named. -/
def defaultDirectory : String := "generated"

/-- The directory of the output. -/
def outputDirectory (overrides : Overrides) (settings : Settings) : String :=
  (overrides.directory.or settings.directory).getD defaultDirectory

end Overrides

/-- The options of a round under a settings file and the command line. -/
def effectiveOptions (options : Table String String) (settings : Settings)
    (overrides : Overrides) : Options × List Diagnostic :=
  let (options, diagnostics) := Options.ofTable options
  (overrides.apply (settings.apply options), diagnostics)

end Companion
