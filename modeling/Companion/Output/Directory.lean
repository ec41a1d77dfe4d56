import Companion.Output.File

/-!
# Files below a directory

Companions are written below a directory, with the directories that are missing.  What the files
are kept on is a parameter: anything that can read, write and make directories will do.
-/

namespace Companion

/-- Why an operation on a path was refused. -/
inductive PathFault where
  /-- Nothing is there. -/
  | absent
  /-- Something is there already. -/
  | present
  /-- What should be a directory is none. -/
  | notDirectory
  /-- What should be a file is a directory. -/
  | directory
  /-- Anything else. -/
  | other (cause : String)
  deriving DecidableEq, Repr

/-- The fault in words. -/
def PathFault.message : PathFault → String
  | .absent => "No such file or directory (os error 2)"
  | .present => "File exists (os error 17)"
  | .notDirectory => "Not a directory (os error 20)"
  | .directory => "Is a directory (os error 21)"
  | .other cause => cause

/-- What files can be kept on. -/
structure Storage (m : Type → Type) where
  /-- The text of a file, if it can be read. -/
  read : String → m (Option String)
  /-- Make one directory. -/
  makeDirectory : String → m (Option PathFault)
  /-- Whether a path leads to a directory. -/
  isDirectory : String → m Bool
  /-- Make a file with a text, or replace the text of one. -/
  write : String → String → m (Option PathFault)

namespace Storage

variable {m : Type → Type} [Monad m]

/-- What becomes of a fault when a directory is made: one that is there already will do. -/
def forgive (storage : Storage m) (path : String) : Option PathFault → m (Option PathFault)
  | none => return none
  | some fault => return if ← storage.isDirectory path then none else some fault

/-- Make a directory and those above it that are missing. -/
def makeDirectories (storage : Storage m) (path : String) : m (Option PathFault) := do
  if path = "" then return none
  else match ← storage.makeDirectory path with
    | some .absent =>
      match _above : Path.parent? path with
      | none => return some .absent
      | some parent =>
        match ← storage.makeDirectories parent with
        | some fault => return some fault
        | none => storage.forgive path (← storage.makeDirectory path)
    | result => storage.forgive path result
termination_by path.length
decreasing_by exact Path.length_of_parent? _above

/-- Write the file of a companion below a directory. -/
def writeBelow (storage : Storage m) (root : String) (file : OutputFile) :
    m (Option WriteFault) := do
  let path := Path.push root file.relativePath
  let parent := (Path.parent? path).getD ""
  match ← storage.makeDirectories parent with
  | some fault => return some (.refused parent fault.message)
  | none =>
    match ← storage.write path file.source with
    | some fault => return some (.refused path fault.message)
    | none => return none

end Storage
end Companion
