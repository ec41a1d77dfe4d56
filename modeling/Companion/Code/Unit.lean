import Companion.Code.OfTarget
import Companion.Code.Printer

/-!
# Compilation units

A compilation unit is a file of source text: a comment, the package, the imports and the types.
-/

namespace Companion

/-- How code is generated. -/
structure CodeSettings where
  /-- The indentation of one level. -/
  indentation : String
  /-- The options of the round. -/
  options : Options
  /-- The comment at the top of each file. -/
  fileComment : Option String
  deriving DecidableEq, Repr

namespace CodeSettings

/-- The settings for some options. -/
def ofOptions (options : Options) : CodeSettings :=
  ⟨"  ", options, some "Generated code from Butter Knife. Do not modify!"⟩

/-- The settings for a host that gives no options. -/
def default : CodeSettings := ofOptions Options.default

end CodeSettings

/-- A file of source text. -/
structure CompilationUnit where
  /-- The comment at the top. -/
  comment : Option String
  /-- The package, unless it is the unnamed one. -/
  package : Option String
  /-- The canonical names that are imported. -/
  imports : List String
  /-- The texts of the types. -/
  types : List String
  deriving DecidableEq, Repr

namespace CompilationUnit

/-- The text of the file. -/
def text (unit : CompilationUnit) (indentation : String) : String :=
  let source := SourceText.empty indentation
  let source := source.each (fun source line => source.line s!"// {line}")
    ((unit.comment.map Text.lines).getD [])
  let source := match unit.package with
    | some package => (source.line s!"package {package};").blank
    | none => source
  let source := if unit.imports = [] then source else
    (source.each (fun source name => source.line s!"import {name};") unit.imports).blank
  (source.separated SourceText.push unit.types).content

/-- The file of a companion. -/
def ofCompanion (settings : CodeSettings) (companion : CompanionCode) : CompilationUnit where
  comment := settings.fileComment
  package := if companion.name.package = "" then none else some companion.name.package
  imports := companion.imports.names
  types := [companion.declaration settings.indentation]

end CompilationUnit

/-- The source text of the companion of a target. -/
def generate (settings : CodeSettings) (target : LinkedTarget) : Generated String := do
  let companion ← CompanionCode.ofTarget settings.options target
  return (CompilationUnit.ofCompanion settings companion).text settings.indentation

end Companion
