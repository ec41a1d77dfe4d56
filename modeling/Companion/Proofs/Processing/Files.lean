import Companion.Proofs.Listing
import Companion.Proofs.Processing.Companions
import Mathlib.Data.List.Induction

/-!
# Files of a round

Every companion of a round is made, so only its name can keep it from being written.  The first
target of each name gets the file, and every later one is reported.
-/

namespace Companion

namespace Listing

variable {α κ : Type} [DecidableEq κ] {key : α → κ}

/-- The items of a list, each with those before it. -/
def withEarlier (items : List α) : List (List α × α) :=
  items.zipIdx.map fun (item, place) => (items.take place, item)

/-- The items whose key no earlier item has. -/
def firsts (key : α → κ) (items : List α) : List α :=
  ((withEarlier items).filter fun (earlier, item) => key item ∉ earlier.map key).map Prod.snd

/-- The items whose key some earlier item has. -/
def repeats (key : α → κ) (items : List α) : List α :=
  ((withEarlier items).filter fun (earlier, item) => key item ∈ earlier.map key).map Prod.snd

theorem withEarlier_append_singleton (items : List α) (item : α) :
    withEarlier (items ++ [item]) = withEarlier items ++ [(items, item)] := by
  rw [withEarlier, withEarlier, List.zipIdx_append, List.map_append]
  congr 1
  · refine List.map_congr_left ?_
    rintro ⟨other, place⟩ listed
    obtain ⟨-, inRange, -⟩ := List.mem_zipIdx listed
    rw [Nat.zero_add] at inRange
    exact congrArg (·, other) (List.take_append_of_le_length inRange.le)
  · simp

theorem firsts_append_singleton (items : List α) (item : α) :
    firsts key (items ++ [item]) =
      if key item ∈ items.map key then firsts key items else firsts key items ++ [item] := by
  rw [firsts, withEarlier_append_singleton, List.filter_append, List.map_append]
  split
  · rename_i known
    rw [List.filter_cons_of_neg (by simpa using known)]
    exact List.append_nil _
  · rename_i new
    rw [List.filter_cons_of_pos (by simpa using new)]
    rfl

theorem repeats_append_singleton (items : List α) (item : α) :
    repeats key (items ++ [item]) =
      if key item ∈ items.map key then repeats key items ++ [item] else repeats key items := by
  rw [repeats, withEarlier_append_singleton, List.filter_append, List.map_append]
  split
  · rename_i known
    rw [List.filter_cons_of_pos (by simpa using known)]
    rfl
  · rename_i new
    rw [List.filter_cons_of_neg (by simpa using new)]
    exact List.append_nil _

theorem mem_map_firsts_iff {items : List α} {value : κ} :
    value ∈ (firsts key items).map key ↔ value ∈ items.map key := by
  induction items using List.reverseRecOn with
  | nil => rfl
  | append_singleton items item ih =>
      rw [firsts_append_singleton, List.map_append, List.mem_append]
      split
      · rename_i known
        rw [ih]
        refine ⟨Or.inl, fun either => either.elim id fun last => ?_⟩
        rw [List.map_singleton, List.mem_singleton] at last
        exact last ▸ known
      · rw [List.map_append, List.mem_append, ih]

end Listing

namespace Processing

open Listing

/-- The qualified name of the companion of an entry, by which its file is known. -/
def fileName (entry : String × LinkedTarget) : String :=
  OutputFile.qualifiedName ⟨entry.2.companion.package, entry.2.companion.simpleName, ""⟩

/-- The report for an entry whose file was written for another one. -/
def clashReport (entry : String × LinkedTarget) : Diagnostic :=
  .error entry.1
    s!"Unable to write binding for type {entry.1}: {fileName entry} was already written this round"

variable {settings : CodeSettings} {bindings : Bindings} {entry : String × LinkedTarget}
  {file : OutputFile} {outcome : Outcome} {memory : MemoryFiles}

theorem exists_outputFile {options : Options}
    (makes : ∃ code, CompanionCode.ofTarget options entry.2 = .ok code) :
    ∃ file, outputFile (.ofOptions options) entry.2 = .ok file :=
  exists_ok_bind (exists_ok_bind makes fun _ _ => ⟨_, rfl⟩) fun _ _ => ⟨_, rfl⟩

theorem qualifiedName_of_outputFile (made : outputFile settings entry.2 = .ok file) :
    file.qualifiedName = fileName entry := by
  obtain ⟨source, -, made⟩ := exists_ok_of_bind made
  cases made
  rfl

theorem addFailure_alreadyWritten (outcome : Outcome) (entry : String × LinkedTarget) :
    outcome.addFailure entry.1 (WriteFault.alreadyWritten (fileName entry)).message =
      { outcome with diagnostics := outcome.diagnostics ++ [clashReport entry] } := by
  simp [Outcome.addFailure, clashReport, WriteFault.message, String.append_assoc, toString]

theorem get?_isSome_iff {name : String} :
    (memory.get? name).isSome = true ↔ name ∈ memory.files.map OutputFile.qualifiedName := by
  simp [MemoryFiles.get?, List.find?_isSome]

/-- A new name is written, and the file is kept. -/
theorem writeTarget_of_new (made : outputFile settings entry.2 = .ok file)
    (new : fileName entry ∉ memory.files.map OutputFile.qualifiedName) :
    writeTarget MemoryFiles.write settings outcome entry memory =
      (outcome.addWritten (fileName entry), ⟨memory.files ++ [file]⟩) := by
  have name_eq := qualifiedName_of_outputFile made
  have written : MemoryFiles.write file memory = (none, ⟨memory.files ++ [file]⟩) := by
    refine if_neg ?_
    rwa [name_eq, get?_isSome_iff]
  rw [writeTarget, made, ← name_eq]
  change (do let fault ← MemoryFiles.write file; _) memory = _
  simp only [bind, StateT.bind, written]
  rfl

/-- A name that was written before is reported, and nothing is kept. -/
theorem writeTarget_of_known (made : outputFile settings entry.2 = .ok file)
    (known : fileName entry ∈ memory.files.map OutputFile.qualifiedName) :
    writeTarget MemoryFiles.write settings outcome entry memory =
      ({ outcome with diagnostics := outcome.diagnostics ++ [clashReport entry] }, memory) := by
  have name_eq := qualifiedName_of_outputFile made
  have refused : MemoryFiles.write file memory =
      (some (.alreadyWritten file.qualifiedName), memory) := by
    refine if_pos ?_
    rwa [name_eq, get?_isSome_iff]
  rw [writeTarget, made]
  change (do let fault ← MemoryFiles.write file; _) memory = _
  simp only [bind, StateT.bind, refused, name_eq, addFailure_alreadyWritten]
  rfl

/-- What a run over some entries leaves: a file for the first entry of each name, in order, and a
report for every other one. -/
structure IsWritten (settings : CodeSettings) (bindings : Bindings)
    (entries : List (String × LinkedTarget)) (outcome : Outcome) (memory : MemoryFiles) : Prop where
  /-- Every companion is made. -/
  made : ∀ entry ∈ entries, ∃ file, outputFile settings entry.2 = .ok file
  /-- Each file is the one of the first entry of its name. -/
  files : List.Forall₂ (fun entry file => outputFile settings entry.2 = .ok file)
    (firsts fileName entries) memory.files
  /-- The names of the files are listed in order. -/
  written : outcome.written = (firsts fileName entries).map fileName
  /-- Only entries whose name is taken are reported. -/
  diagnostics : outcome.diagnostics =
    bindings.diagnostics ++ (repeats fileName entries).map clashReport
  /-- The targets are those of the round. -/
  targets : outcome.targets = bindings.targets

namespace IsWritten

variable {entries : List (String × LinkedTarget)}

theorem names_files (isWritten : IsWritten settings bindings entries outcome memory) :
    memory.files.map OutputFile.qualifiedName = (firsts fileName entries).map fileName := by
  have named : List.Forall₂ (fun entry file => fileName entry = OutputFile.qualifiedName file)
      (firsts fileName entries) memory.files :=
    isWritten.files.imp fun _ _ made => (qualifiedName_of_outputFile made).symm
  have mapped := List.forall₂_map_left_iff.2 (List.forall₂_map_right_iff.2 named)
  rw [List.forall₂_eq_eq_eq] at mapped
  exact mapped.symm

theorem empty :
    IsWritten settings bindings [] ⟨bindings.targets, [], bindings.diagnostics⟩ .empty :=
  ⟨by simp, .nil, rfl, (List.append_nil _).symm, rfl⟩

theorem snoc (isWritten : IsWritten settings bindings entries outcome memory)
    (made : outputFile settings entry.2 = .ok file) :
    IsWritten settings bindings (entries ++ [entry])
      (writeTarget MemoryFiles.write settings outcome entry memory).1
      (writeTarget MemoryFiles.write settings outcome entry memory).2 := by
  have allMade : ∀ other ∈ entries ++ [entry], ∃ file, outputFile settings other.2 = .ok file := by
    intro other listed
    rcases List.mem_append.1 listed with earlier | last
    · exact isWritten.made other earlier
    · rw [List.mem_singleton.1 last]
      exact ⟨file, made⟩
  have known_iff : fileName entry ∈ memory.files.map OutputFile.qualifiedName ↔
      fileName entry ∈ entries.map fileName := by
    rw [isWritten.names_files, mem_map_firsts_iff]
  by_cases known : fileName entry ∈ entries.map fileName
  · have firsts_eq := (firsts_append_singleton entries entry).trans (if_pos known)
    have repeats_eq := (repeats_append_singleton entries entry).trans (if_pos known)
    rw [writeTarget_of_known made (known_iff.2 known)]
    refine ⟨allMade, ?_, ?_, ?_, isWritten.targets⟩
    · rw [firsts_eq]
      exact isWritten.files
    · rw [firsts_eq]
      exact isWritten.written
    · rw [repeats_eq, List.map_append, ← List.append_assoc, ← isWritten.diagnostics]
      rfl
  · have firsts_eq := (firsts_append_singleton entries entry).trans (if_neg known)
    have repeats_eq := (repeats_append_singleton entries entry).trans (if_neg known)
    rw [writeTarget_of_new made fun listed => known (known_iff.1 listed)]
    refine ⟨allMade, ?_, ?_, ?_, isWritten.targets⟩
    · rw [firsts_eq]
      exact List.rel_append isWritten.files (.cons made .nil)
    · rw [firsts_eq, List.map_append, ← isWritten.written]
      rfl
    · rw [repeats_eq]
      exact isWritten.diagnostics

theorem run (bindings : Bindings)
    (makes : ∀ entry ∈ entries, ∃ file, outputFile settings entry.2 = .ok file) :
    ∃ outcome memory, entries.foldlM (writeTarget MemoryFiles.write settings)
        ⟨bindings.targets, [], bindings.diagnostics⟩ MemoryFiles.empty = (outcome, memory) ∧
      IsWritten settings bindings entries outcome memory := by
  induction entries using List.reverseRecOn with
  | nil => exact ⟨_, _, rfl, empty⟩
  | append_singleton entries entry ih =>
      obtain ⟨outcome, memory, run_eq, isWritten⟩ := ih fun other listed =>
        makes other (List.mem_append_left _ listed)
      obtain ⟨file, made⟩ := makes entry (by simp)
      refine ⟨_, _, ?_, isWritten.snoc made⟩
      rw [List.foldlM_append]
      simp only [bind, StateT.bind, run_eq]
      rfl

end IsWritten

/-- A nested class and a class whose name has the separator in it share a companion's name. -/
example : companionName "a" ["Host", "Part"] = companionName "a" ["Host$Part"] := by decide

end Processing
end Companion
