import Companion.Diagnostic
import Companion.Table
import Companion.Text.Blank
import Companion.Text.Digits

/-!
# Options

The switches of the host that have an effect on generated code.
-/

namespace Companion

/-- The options of a round. -/
structure Options where
  /-- The lowest API level that generated code must run on. -/
  minSdk : Nat
  /-- Whether lookups and casts are checked with descriptive messages. -/
  debuggable : Bool
  deriving DecidableEq, Repr

namespace Options

/-- The options of a host that gives none. -/
def default : Options := ⟨1, true⟩

/-- The key of the API level. -/
def minSdkKey : String := "butterknife.minSdk"

/-- The key of the checks. -/
def debuggableKey : String := "butterknife.debuggable"

/-- The API level that a text stands for. -/
def level? (text : String) : Option Nat :=
  (Text.signedNumeral? 10 (Text.trim text.toList)).filter (· < UInt32.size)

/-- Read the options of a host.  An API level that cannot be read is reported and passed over. -/
def ofTable (options : Table String String) : Options × List Diagnostic :=
  let debuggable := options.get? debuggableKey ≠ some "false"
  match options.get? minSdkKey with
  | none => (⟨default.minSdk, debuggable⟩, [])
  | some text =>
    match level? text with
    | some level => (⟨level, debuggable⟩, [])
    | none =>
      (⟨default.minSdk, debuggable⟩, [.warning
        s!"Unable to parse supplied minSdk option '{text}'. Falling back to API 1 support."])

end Options
end Companion
