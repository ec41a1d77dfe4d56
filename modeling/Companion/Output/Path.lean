import Companion.Text.Pieces

/-!
# Paths

Paths are texts whose components are separated by slashes.  Pushing an absolute path replaces what
was there.
-/

namespace Companion
namespace Path

/-- Whether a path starts at the root. -/
def isAbsolute (path : String) : Bool := path.toList.head? = some '/'

/-- A path with another one below it. -/
def push (path component : String) : String :=
  if isAbsolute component then component
  else if path = "" || path.toList.getLast? = some '/' then path ++ component
  else path ++ "/" ++ component

/-- The path of components pushed one after the other. -/
def ofComponents (components : List String) : String := components.foldl push ""

/-- Drop the separators at the front of a reversed path, and the components there that stay in
place. -/
def dropIdle : List Char → List Char
  | ['/'] => ['/']
  | '/' :: rest => dropIdle rest
  | '.' :: '/' :: rest => if rest = [] then ['/'] else dropIdle rest
  | rest => rest

/-- The path without its last component; a path with none below has no parent. -/
def parent? (path : String) : Option String :=
  match dropIdle path.toList.reverse with
  | [] => none
  | ['/'] => none
  | reversed => some (String.ofList (dropIdle (reversed.dropWhile (· ≠ '/'))).reverse)

theorem length_dropIdle_le (reversed : List Char) :
    (dropIdle reversed).length ≤ reversed.length := by
  fun_induction dropIdle reversed <;> simp_all <;> omega

theorem head?_dropIdle {reversed rest : List Char} (slash : dropIdle reversed = '/' :: rest) :
    rest = [] := by
  fun_induction dropIdle reversed <;> simp_all

/-- The path above another one is shorter. -/
theorem length_of_parent? {path parent : String} (found : parent? path = some parent) :
    parent.length < path.length := by
  have idle_le := length_dropIdle_le path.toList.reverse
  rw [List.length_reverse, String.length_toList] at idle_le
  unfold parent? at found
  split at found
  · simp at found
  · simp at found
  · rename_i nonempty notRoot
    obtain rfl := Option.some.inj found
    cases shape : dropIdle path.toList.reverse with
    | nil => exact absurd shape nonempty
    | cons c rest =>
      have named : c ≠ '/' := by
        rintro rfl
        exact notRoot (by rw [shape, head?_dropIdle shape])
      have rest_le := (List.dropWhile_sublist (· ≠ '/') (l := rest)).length_le
      have left_le := length_dropIdle_le (rest.dropWhile (· ≠ '/'))
      simp only [ne_eq] at rest_le left_le
      simp only [shape, List.length_cons] at idle_le
      simp only [List.dropWhile_cons, named, ne_eq, not_false_eq_true, decide_true, if_true,
        String.length_ofList, List.length_reverse]
      omega

end Path
end Companion
