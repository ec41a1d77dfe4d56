/-!
# Diagnostics

Messages about a round, each with its severity and the element that it concerns.
-/

namespace Companion

/-- How severe a message is. -/
inductive Severity where
  | error
  | warning
  | note
  deriving DecidableEq, Repr

/-- The word for a severity. -/
def Severity.word : Severity → String
  | .error => "error"
  | .warning => "warning"
  | .note => "note"

/-- A message about a round. -/
structure Diagnostic where
  /-- How severe it is. -/
  severity : Severity
  /-- The message. -/
  message : String
  /-- The type or the member that it concerns, if any. -/
  element : Option String
  deriving DecidableEq, Repr

namespace Diagnostic

/-- An error about an element. -/
def error (element message : String) : Diagnostic := ⟨.error, message, some element⟩

/-- A note about an element. -/
def note (element message : String) : Diagnostic := ⟨.note, message, some element⟩

/-- A warning about the round. -/
def warning (message : String) : Diagnostic := ⟨.warning, message, none⟩

/-- Whether the message is an error. -/
def isError (diagnostic : Diagnostic) : Bool := diagnostic.severity = .error

/-- The message on one line with its severity and element. -/
def text (diagnostic : Diagnostic) : String :=
  match diagnostic.element with
  | some element => s!"{diagnostic.severity.word}: [{element}] {diagnostic.message}"
  | none => s!"{diagnostic.severity.word}: {diagnostic.message}"

/-- Whether some message is an error. -/
def anyError (diagnostics : List Diagnostic) : Bool := diagnostics.any isError

/-- The messages of one severity, in order. -/
def messages (severity : Severity) (diagnostics : List Diagnostic) : List String :=
  (diagnostics.filter fun diagnostic => diagnostic.severity = severity).map Diagnostic.message

@[simp]
theorem anyError_append (left right : List Diagnostic) :
    anyError (left ++ right) = (anyError left || anyError right) := by
  simp [anyError]

end Diagnostic
end Companion
