import Companion.Output.Path

/-!
# Output files

Companions are written one file each.  In memory, a file is known by its qualified name and may be
written once.
-/

namespace Companion

/-- A companion as a file of source text. -/
structure OutputFile where
  /-- The package of the companion. -/
  package : String
  /-- Its simple name. -/
  simpleName : String
  /-- The source text. -/
  source : String
  deriving DecidableEq, Repr

namespace OutputFile

/-- The qualified name of the companion. -/
def qualifiedName (file : OutputFile) : String :=
  if file.package = "" then file.simpleName else s!"{file.package}.{file.simpleName}"

/-- The path of the file: a directory for each segment of the package. -/
def relativePath (file : OutputFile) : String :=
  Path.ofComponents
    ((Text.segments file.package).filter (· ≠ "") ++ [s!"{file.simpleName}.java"])

end OutputFile

/-- Why a file could not be written. -/
inductive WriteFault where
  /-- A file of that name was written before. -/
  | alreadyWritten (name : String)
  /-- The file system refuses a path. -/
  | refused (path cause : String)
  deriving DecidableEq, Repr

/-- The fault in words. -/
def WriteFault.message : WriteFault → String
  | .alreadyWritten name => s!"{name} was already written this round"
  | .refused path cause => s!"{path}: {cause}"

/-- Files in memory, in the order in which they were written. -/
structure MemoryFiles where
  /-- The files. -/
  files : List OutputFile
  deriving DecidableEq, Repr

namespace MemoryFiles

/-- No file. -/
def empty : MemoryFiles := ⟨[]⟩

/-- The file of a qualified name. -/
def get? (memory : MemoryFiles) (name : String) : Option OutputFile :=
  memory.files.find? fun file => file.qualifiedName = name

/-- Write a file, unless one of its name was written before. -/
def write (file : OutputFile) : StateM MemoryFiles (Option WriteFault) := fun memory =>
  let name := file.qualifiedName
  if (memory.get? name).isSome then (some (.alreadyWritten name), memory)
  else (none, ⟨memory.files ++ [file]⟩)

end MemoryFiles
end Companion
