import Companion.ClassName

/-!
# Resource ids

An id as generated code writes it: as a plain number, or as a constant of a resource index.  Two
references mean the same resource when they name the same constant, whatever number it has.
-/

namespace Companion

/-- A resource id. -/
inductive ResourceId where
  /-- A plain number. -/
  | constant (value : Int32)
  /-- A constant of a class inside an index, with its number. -/
  | reference (owner : ClassName) (member : String) (value : Int32)
  deriving DecidableEq, Repr

namespace ResourceId

/-- The id that stands for the bound object itself. -/
def rootValue : Int32 := -1

/-- The number of an id. -/
def value : ResourceId → Int32
  | .constant value => value
  | .reference _ _ value => value

/-- Whether the id is written as a constant of an index. -/
def isReference : ResourceId → Bool
  | .constant _ => false
  | .reference _ _ _ => true

/-- Whether the id stands for the bound object itself. -/
def isRoot (id : ResourceId) : Bool := id.value = rootValue

/-- Whether two ids mean the same resource. -/
def same : ResourceId → ResourceId → Bool
  | .constant left, .constant right => left = right
  | .reference leftOwner leftMember _, .reference rightOwner rightMember _ =>
    leftOwner = rightOwner && leftMember = rightMember
  | _, _ => false

@[simp]
theorem same_self (id : ResourceId) : id.same id = true := by
  cases id <;> simp [same]

theorem same_comm (left right : ResourceId) : left.same right = right.same left := by
  cases left <;> cases right <;> simp [same, eq_comm]

theorem same_trans {left middle right : ResourceId} (first : left.same middle = true)
    (second : middle.same right = true) : left.same right = true := by
  cases left <;> cases middle <;> cases right <;> simp_all [same]

end ResourceId
end Companion
