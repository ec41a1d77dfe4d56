/-!
# String literals

A text as a literal in source text.
-/

namespace Companion
namespace Literal

/-- A text with others in place of a character, wherever it stands. -/
def replace (old : Char) (new : List Char) (text : List Char) : List Char :=
  text.flatMap fun c => if c = old then new else [c]

/-- The characters that cannot stand for themselves in a literal, or would be hard to see there,
with the letters of their escapes.  The backslash comes first, as the other escapes have one. -/
def escapes : List (Char × Char) :=
  [('\\', '\\'), ('"', '"'), ('\n', 'n'), ('\r', 'r'), ('\t', 't')]

/-- Replace characters by their escapes, in one pass over the text for each of them. -/
def escapeAll (escapes : List (Char × Char)) (text : List Char) : List Char :=
  escapes.foldl (fun text (c, letter) => replace c ['\\', letter] text) text

/-- The literal of a text. -/
def ofText (text : String) : String :=
  String.ofList ('"' :: escapeAll escapes text.toList ++ ['"'])

end Literal
end Companion
