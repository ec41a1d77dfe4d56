import Companion.Output.File
import Companion.Proofs.ClassName
import Companion.Proofs.Text.Pieces

/-!
# Where paths lead

A path goes through the names between its separators.  Pushing a relative path appends its names,
while pushing an absolute one drops the names before it.  So a path stays below every root exactly
if it is relative, names something and never goes up.
-/

namespace Companion
namespace Path

variable {path component name : String} {components : List String}

/-- The names that a path goes through.  A single dot stays in place and counts for none. -/
def names (path : String) : List String :=
  ((path.toList.splitOn '/').map String.ofList).filter fun name => name ≠ "" ∧ name ≠ "."

theorem mem_names_iff : name ∈ names path ↔
    name.toList ∈ path.toList.splitOn '/' ∧ name ≠ "" ∧ name ≠ "." := by
  rw [names, List.mem_filter, decide_eq_true_eq, List.mem_map]
  refine and_congr_left fun _ => ⟨?_, fun piece => ⟨_, piece, String.ofList_toList⟩⟩
  rintro ⟨piece, listed, rfl⟩
  rwa [String.toList_ofList]

/-- Whether a text can be the name of a file or directory. -/
structure IsName (name : String) : Prop where
  /-- It has no separators. -/
  slashFree : '/' ∉ name.toList
  /-- It is not empty. -/
  filled : name ≠ ""
  /-- It does not stay in place. -/
  moves : name ≠ "."

theorem IsName.names_eq (isName : IsName name) : names name = [name] := by
  rw [names, List.splitOn_eq_singleton isName.slashFree, List.map_singleton, String.ofList_toList]
  exact List.filter_cons_of_pos (by simp [isName.filled, isName.moves])

/-- A path with a character other than separators and dots has a name. -/
theorem names_ne_nil {c : Char} (listed : c ∈ path.toList) (notSlash : c ≠ '/')
    (notDot : c ≠ '.') : names path ≠ [] := by
  obtain ⟨piece, cutOff, inside⟩ := Text.exists_mem_splitOn '/' listed notSlash
  rw [← String.toList_ofList (l := piece)] at cutOff inside
  refine List.ne_nil_of_mem (mem_names_iff.2 ⟨cutOff, ?_, ?_⟩)
  · intro blank
    rw [blank] at inside
    cases inside
  · intro idle
    rw [idle] at inside
    exact notDot (List.mem_singleton.1 inside)

/-- Whether a path goes on from a root, strictly and never up. -/
structure IsBelow (root path : String) : Prop where
  /-- It starts where the root does. -/
  isAbsolute : isAbsolute path = isAbsolute root
  /-- It goes through the names of the root and on to others. -/
  names : ∃ more, more ≠ [] ∧ ".." ∉ more ∧ names path = names root ++ more

end Path
end Companion
