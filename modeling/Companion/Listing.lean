/-!
# Lists searched by a test

A list may hold at most one item for each thing that its items describe.  Such a list is changed
at the item that a test finds, or at its end when there is none.
-/

namespace Companion
namespace Listing

variable {α : Type}

/-- Change the first item that a test finds, or put a changed fresh item at the end. -/
def alter (found : α → Bool) (change : α → α) (fresh : α) : List α → List α
  | [] => [change fresh]
  | item :: rest =>
    if found item then change item :: rest else item :: alter found change fresh rest

/-- Add an item at the end, unless the list has it already. -/
def addNew [DecidableEq α] (item : α) (items : List α) : List α :=
  if item ∈ items then items else items ++ [item]

@[simp]
theorem mem_addNew [DecidableEq α] {item other : α} {items : List α} :
    other ∈ addNew item items ↔ other ∈ items ∨ other = item := by
  unfold addNew
  split
  · rename_i present
    exact ⟨Or.inl, fun either => either.elim id fun same => same ▸ present⟩
  · simp

end Listing
end Companion
