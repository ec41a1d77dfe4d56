import Companion.Proofs.Output.Path
import Companion.Proofs.Processing.Files
import Companion.Proofs.Universe.Packages

/-!
# Places of files

The file of a companion has a directory for each segment of its package.  Any text between dots is
taken for a segment, so it may hold separators of paths.  A file never goes up, since no segment has
two dots.  It stays below every root just if no segment starts with a separator, and it has the
directories of its package just if the name of its class holds no separator.
-/

namespace Companion

open Text

namespace OutputFile

variable {file : OutputFile}

/-- The directories of a file and its own name, before they are put together. -/
def components (file : OutputFile) : List String :=
  (segments file.package).filter (· ≠ "") ++ [s!"{file.simpleName}.java"]

end OutputFile

namespace Processing

variable {round : Round} {environment : Environment} {name : String} {set : LinkedTarget}
  {settings : CodeSettings} {file : OutputFile}

theorem companion_of_outputFile (made : outputFile settings set = .ok file) :
    file.package = set.companion.package ∧ file.simpleName = set.companion.simpleName := by
  obtain ⟨source, -, made⟩ := exists_ok_of_bind made
  cases made
  exact ⟨rfl, rfl⟩

/-- A class with a text. -/
def titledClass (name : String) : TypeDecl :=
  (TypeDecl.ofName .classType name).withMember
    (SymbolTable.markedField "title" "BindString" "a.R.string.title" 1)

/-- A round with two such classes, the package of one of which starts with a separator. -/
def strayRound : Round :=
  { Round.empty with types := [titledClass "a.Host", titledClass "/etc.Host"] }

theorem exists_linked_strayRound : ∃ environment, strayRound.environment = .ok environment ∧
    ∀ entry ∈ [("a.Host", "a"), ("/etc.Host", "/etc")], ∃ set,
      (collect environment ListenerKind.standard).targets.get? entry.1 = some set ∧
        set.companion = companionName entry.2 ["Host"] := by
  have facts : strayRound.environment.toOption.map (fun environment =>
      decide (environment.world.IsAcyclic ∧ ∀ entry ∈ [("a.Host", "a"), ("/etc.Host", "/etc")],
        ((Collection.collect environment ListenerKind.standard).collected.targets.get?
          entry.1).map Target.companion = some (companionName entry.2 ["Host"]))) = some true := by
    decide +kernel
  obtain ⟨environment, accepted, facts⟩ := exists_ok_of_map_toOption facts
  obtain ⟨acyclic, named⟩ := of_decide_eq_true facts
  refine ⟨environment, accepted, fun entry listed => ?_⟩
  obtain ⟨target, known, -⟩ := Option.map_eq_some_iff.1 (named entry listed)
  obtain ⟨set, found⟩ := exists_linked_of_collect acyclic (Table.mem_keys_iff.2 ⟨target, known⟩)
  exact ⟨set, found, value_of_collect Target.companion found (named entry listed)⟩

/-- The file of a class can leave every root. -/
theorem exists_stray : ∃ environment set file,
    strayRound.environment = .ok environment ∧
      (collect environment ListenerKind.standard).targets.get? "/etc.Host" = some set ∧
      outputFile (.ofOptions .default) set = .ok file ∧
      Path.push "out" file.relativePath = "/etc/Host_ViewBinding.java" ∧
      ¬ Path.IsBelow "out" (Path.push "out" file.relativePath) := by
  obtain ⟨environment, accepted, linked⟩ := exists_linked_strayRound
  obtain ⟨set, found, companion_eq⟩ := linked ("/etc.Host", "/etc") (by decide)
  obtain ⟨file, made⟩ := @exists_outputFile ("/etc.Host", set) .default
    (exists_made_of_collect found .default)
  obtain ⟨package_eq, simpleName_eq⟩ := companion_of_outputFile made
  rw [companion_eq] at package_eq simpleName_eq
  have path_eq : Path.push "out" file.relativePath = "/etc/Host_ViewBinding.java" := by
    rw [OutputFile.relativePath, package_eq, simpleName_eq]
    decide
  refine ⟨environment, set, file, accepted, found, made, path_eq, fun below => ?_⟩
  have absolute := below.isAbsolute
  rw [path_eq] at absolute
  exact absurd absolute (by decide)

end Processing
end Companion
