import Companion.Text.Pieces

/-!
# Source text

Source text grows line by line.  Lines are indented by level; the further lines of a statement
stand two levels deeper than its first.
-/

namespace Companion

/-- Source text under construction. -/
structure SourceText where
  /-- The text so far. -/
  content : String
  /-- The level of indentation of the next line. -/
  level : Nat
  /-- The indentation of one level. -/
  indentation : String
  deriving DecidableEq, Repr

namespace SourceText

/-- Empty text. -/
def empty (indentation : String) : SourceText := ⟨"", 0, indentation⟩

/-- The indentation of some level. -/
def margin (source : SourceText) (level : Nat) : String :=
  String.join (List.replicate level source.indentation)

/-- Add a line at some level. -/
def lineAt (source : SourceText) (level : Nat) (text : String) : SourceText :=
  { source with content := source.content ++ source.margin level ++ text ++ "\n" }

/-- Add a line. -/
def line (source : SourceText) (text : String) : SourceText := source.lineAt source.level text

/-- Add a line without indentation and text. -/
def blank (source : SourceText) : SourceText := { source with content := source.content ++ "\n" }

/-- Add text as it is. -/
def push (source : SourceText) (text : String) : SourceText :=
  { source with content := source.content ++ text }

/-- The levels by which the further lines of a statement are indented more than the first. -/
def continuationLevels : Nat := 2

/-- End the last of several lines with a semicolon. -/
def closed : List String → List String
  | [] => []
  | [last] => [last ++ ";"]
  | text :: rest => text :: closed rest

/-- Add a statement, which may have several lines. -/
def statement (source : SourceText) (code : String) : SourceText :=
  match closed (Text.lines code) with
  | [] => source
  | first :: rest =>
    rest.foldl (fun source text => source.lineAt (source.level + continuationLevels) text)
      (source.line first)

/-- Indent the following lines by one more level. -/
def indent (source : SourceText) : SourceText := { source with level := source.level + 1 }

/-- Indent the following lines by one level less. -/
def dedent (source : SourceText) : SourceText := { source with level := source.level - 1 }

/-- Open a block with a header. -/
def begin (source : SourceText) (header : String) : SourceText :=
  (source.line (header ++ " \x7b")).indent

/-- Close a block. -/
def close (source : SourceText) : SourceText := source.dedent.line "\x7d"

/-- Drop blank lines at the end of a reversed text. -/
def dropBlankLines : List Char → List Char
  | '\n' :: '\n' :: rest => dropBlankLines ('\n' :: rest)
  | rest => rest

/-- Drop blank lines at the end. -/
def trimmed (source : SourceText) : SourceText :=
  { source with
    content := String.ofList (dropBlankLines source.content.toList.reverse).reverse }

/-- Whether there is nothing but blanks. -/
def isBlank (source : SourceText) : Bool := Text.trim source.content.toList = []

end SourceText
end Companion
