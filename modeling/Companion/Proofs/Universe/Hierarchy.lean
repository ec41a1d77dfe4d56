import Companion.Proofs.Universe.Superclasses
import Mathlib.Logic.Relation

/-!
# Acyclic hierarchies

When no class is above itself, the walk upward from a class never meets a name twice.  Then the
superclasses of a class are its superclass and the superclasses of that one, and facts about
classes are proved from the facts about the classes above them.
-/

namespace Companion
namespace Universe

variable {world : Universe}

/-- Whether a class extends another one of the universe, by their names. -/
def Extends (world : Universe) (child parent : String) : Prop :=
  ∃ decl superclass, world.get? child = some decl ∧ world.superclassOf? decl = some superclass ∧
    superclass.name = parent

/-- Whether no class is above itself. -/
def IsAcyclic (world : Universe) : Prop := ∀ name, ¬Relation.TransGen world.Extends name name

/-- The superclasses of the class of a name, from the nearest one upward. -/
def superclassesOf (world : Universe) (name : String) : List TypeDecl :=
  ((world.get? name).map world.superclasses).getD []

theorem superclassesOf_of_get? {name : String} {decl : TypeDecl}
    (known : world.get? name = some decl) :
    world.superclassesOf name = world.superclasses decl := by
  simp [superclassesOf, known]

theorem get?_name_of_mem_superclassesOf {name : String} {ancestor : TypeDecl}
    (above : ancestor ∈ world.superclassesOf name) :
    world.get? ancestor.name = some ancestor := by
  cases known : world.get? name with
  | none => simp [superclassesOf, known] at above
  | some decl =>
      rw [superclassesOf_of_get? known] at above
      exact get?_name_of_mem_superclasses above

theorem extends_of_superclassOf? {decl superclass : TypeDecl}
    (known : world.get? decl.name = some decl)
    (found : world.superclassOf? decl = some superclass) :
    world.Extends decl.name superclass.name :=
  ⟨decl, superclass, known, found, rfl⟩

theorem mem_names_of_transGen {child parent : String}
    (above : Relation.TransGen world.Extends child parent) : parent ∈ world.names := by
  obtain ⟨_, -, decl, superclass, -, found, rfl⟩ := Relation.TransGen.tail'_iff.1 above
  exact Table.mem_keys_of_get? (get?_name_of_superclassOf? found)

/-- A walk that has all names above a class left does not depend on what else it has left. -/
private theorem climb_congr (acyclic : world.IsAcyclic) {left other : List String}
    {decl : TypeDecl} (known : world.get? decl.name = some decl)
    (inLeft : ∀ name, Relation.TransGen world.Extends decl.name name → name ∈ left)
    (inOther : ∀ name, Relation.TransGen world.Extends decl.name name → name ∈ other) :
    world.climb left decl = world.climb other decl := by
  fun_induction climb world left decl generalizing other with
  | case1 left decl top => rw [climb, top]
  | case2 left decl superclass found member ih =>
      have step := Relation.TransGen.single (extends_of_superclassOf? known found)
      have above : ∀ names : List String,
          (∀ name, Relation.TransGen world.Extends decl.name name → name ∈ names) →
          ∀ name, Relation.TransGen world.Extends superclass.name name →
            name ∈ names.erase superclass.name := by
        intro names listed name further
        refine (List.mem_erase_of_ne ?_).2 (listed name (step.trans further))
        rintro rfl
        exact acyclic _ further
      rw [climb.eq_def world other decl, found]
      simp only [inOther _ step, if_true]
      rw [ih (get?_name_of_superclassOf? found) (above left inLeft) (above other inOther)]
  | case3 left decl superclass found absent =>
      exact absurd (inLeft _ (.single (extends_of_superclassOf? known found))) absent

theorem superclasses_of_top {decl : TypeDecl} (top : world.superclassOf? decl = none) :
    world.superclasses decl = [] := by
  rw [superclasses, climb, top]

theorem superclasses_of_superclassOf? (acyclic : world.IsAcyclic) {decl superclass : TypeDecl}
    (known : world.get? decl.name = some decl)
    (found : world.superclassOf? decl = some superclass) :
    world.superclasses decl = superclass :: world.superclasses superclass := by
  have step := Relation.TransGen.single (extends_of_superclassOf? known found)
  have listed : ∀ name, Relation.TransGen world.Extends decl.name name →
      name ∈ world.names.erase decl.name := by
    intro name above
    refine (List.mem_erase_of_ne ?_).2 (mem_names_of_transGen above)
    rintro rfl
    exact acyclic _ above
  rw [superclasses, climb, found]
  simp only [listed _ step, if_true]
  congr 1
  refine climb_congr acyclic (get?_name_of_superclassOf? found) ?_ ?_
  all_goals
    intro name further
    refine (List.mem_erase_of_ne ?_).2 ?_
    · rintro rfl
      exact acyclic _ further
  · exact listed name (step.trans further)
  · exact mem_names_of_transGen further

theorem superclasses_of_cons (acyclic : world.IsAcyclic) {decl ancestor : TypeDecl}
    {above : List TypeDecl} (known : world.get? decl.name = some decl)
    (chain_eq : world.superclasses decl = ancestor :: above) :
    world.superclasses ancestor = above := by
  cases found : world.superclassOf? decl with
  | none => simp [superclasses_of_top found] at chain_eq
  | some superclass =>
      rw [superclasses_of_superclassOf? acyclic known found] at chain_eq
      obtain ⟨rfl, above_eq⟩ := List.cons.inj chain_eq
      exact above_eq

/-- Above a superclass stand the superclasses that come after it. -/
theorem superclasses_of_append (acyclic : world.IsAcyclic) {decl ancestor : TypeDecl}
    {below above : List TypeDecl} (known : world.get? decl.name = some decl)
    (chain_eq : world.superclasses decl = below ++ ancestor :: above) :
    world.superclasses ancestor = above := by
  induction below generalizing decl with
  | nil => exact superclasses_of_cons acyclic known chain_eq
  | cons first below ih =>
      have member : first ∈ world.superclasses decl := by simp [chain_eq]
      exact ih (get?_name_of_mem_superclasses member)
        (superclasses_of_cons acyclic known chain_eq)

theorem superclassesOf_of_append (acyclic : world.IsAcyclic) {name : String}
    {ancestor : TypeDecl} {below above : List TypeDecl}
    (split : world.superclassesOf name = below ++ ancestor :: above) :
    world.superclassesOf ancestor.name = above := by
  cases known : world.get? name with
  | none => simp [superclassesOf, known] at split
  | some decl =>
      have member : ancestor ∈ world.superclassesOf name := by rw [split]; simp
      rw [superclassesOf_of_get? (get?_name_of_mem_superclassesOf member)]
      rw [superclassesOf_of_get? known] at split
      have self : world.get? decl.name = some decl := by rwa [name_of_get? known]
      exact superclasses_of_append acyclic self split

/-- What holds of a class as soon as it holds of all classes above it holds of every class. -/
theorem IsAcyclic.induction (acyclic : world.IsAcyclic) {motive : String → Prop}
    (step : ∀ name, (∀ ancestor ∈ world.superclassesOf name, motive ancestor.name) → motive name)
    (name : String) : motive name := by
  induction height : (world.superclassesOf name).length using Nat.strongRecOn generalizing name with
  | ind height ih =>
      refine step name fun ancestor member => ?_
      obtain ⟨below, above, split⟩ := List.append_of_mem member
      have above_eq := superclassesOf_of_append acyclic split
      refine ih _ ?_ ancestor.name rfl
      rw [← height, split, above_eq]
      simp only [List.length_append, List.length_cons]
      omega

/-- A hierarchy in which a rank falls from each class to its superclass is acyclic. -/
theorem isAcyclic_of_rank {rank : String → Nat}
    (falls : ∀ child parent, world.Extends child parent → rank parent < rank child) :
    world.IsAcyclic := by
  have falls_above : ∀ child parent, Relation.TransGen world.Extends child parent →
      rank parent < rank child := by
    intro child parent above
    induction above with
    | single step => exact falls _ _ step
    | tail _ step ih => exact Nat.lt_trans (falls _ _ step) ih
  exact fun name above => Nat.lt_irrefl _ (falls_above name name above)

theorem isAcyclic_iff :
    world.IsAcyclic ↔ ∀ decl ∈ world.types, (world.superclassOf? decl).all fun superclass =>
      (world.superclasses superclass).length < (world.superclasses decl).length := by
  constructor
  · intro acyclic decl member
    rw [Option.all_eq_true]
    intro superclass found
    have known := get?_name_of_mem_types member
    rw [superclasses_of_superclassOf? acyclic known found]
    simp
  · intro falls
    refine @isAcyclic_of_rank world (fun name => (world.superclassesOf name).length) ?_
    rintro child _ ⟨decl, superclass, known, found, rfl⟩
    have member : decl ∈ world.types := Table.mem_values_iff.2 ⟨child, known⟩
    have shorter := (Option.all_eq_true _ _).1 (falls decl member) superclass found
    rw [superclassesOf_of_get? known,
      superclassesOf_of_get? (get?_name_of_superclassOf? found)]
    exact of_decide_eq_true shorter

instance (world : Universe) : Decidable world.IsAcyclic := decidable_of_iff _ isAcyclic_iff.symm

end Universe
end Companion
