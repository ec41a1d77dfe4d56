import Companion.Proofs.Universe.Hierarchy

/-!
# Classes compiled earlier

The universe that a later round sees: some classes of the sources have become compiled ones.  Only
their origin changes, so all walks upward meet the same classes in the same order.
-/

namespace Companion

/-- The declaration, as one compiled earlier when it is among those of some names. -/
def TypeDecl.compiledAmong (names : List String) (decl : TypeDecl) : TypeDecl :=
  if decl.name ∈ names then decl.onClasspath else decl

namespace TypeDecl

variable {names : List String} {decl : TypeDecl}

theorem compiledAmong_of_mem (member : decl.name ∈ names) :
    decl.compiledAmong names = decl.onClasspath := if_pos member

theorem compiledAmong_of_not_mem (absent : decl.name ∉ names) : decl.compiledAmong names = decl :=
  if_neg absent

@[simp]
theorem name_compiledAmong : (decl.compiledAmong names).name = decl.name := by
  unfold compiledAmong
  split <;> rfl

@[simp]
theorem superclass_compiledAmong :
    (decl.compiledAmong names).superclass = decl.superclass := by
  unfold compiledAmong
  split <;> rfl

@[simp]
theorem members_compiledAmong : (decl.compiledAmong names).members = decl.members := by
  unfold compiledAmong
  split <;> rfl

end TypeDecl

namespace Universe

variable {world : Universe} {names : List String}

/-- The universe in which the classes of some names were compiled earlier. -/
def withCompiled (world : Universe) (names : List String) : Universe :=
  ⟨world.table.mapValues (TypeDecl.compiledAmong names), by
    intro entry member
    obtain ⟨old, listed, rfl⟩ := List.mem_map.1 member
    simpa using world.named old listed⟩

theorem get?_withCompiled (name : String) :
    (world.withCompiled names).get? name =
      (world.get? name).map (TypeDecl.compiledAmong names) :=
  Table.get?_mapValues _ _ _

theorem superclassOf?_withCompiled (decl : TypeDecl) :
    (world.withCompiled names).superclassOf? (decl.compiledAmong names) =
      (world.superclassOf? decl).map (TypeDecl.compiledAmong names) := by
  rw [superclassOf?, superclassOf?, TypeDecl.superclass_compiledAmong, Option.map_bind]
  congr 1
  funext type
  rw [Function.comp_apply, lookup, lookup, Option.map_bind]
  congr 1
  funext name
  exact get?_withCompiled name

theorem climb_withCompiled (left : List String) (decl : TypeDecl) :
    (world.withCompiled names).climb left (decl.compiledAmong names) =
      (world.climb left decl).map (TypeDecl.compiledAmong names) := by
  fun_induction climb world left decl with
  | case1 left decl top => rw [climb, superclassOf?_withCompiled, top]; rfl
  | case2 left decl superclass found member ih =>
      rw [climb, superclassOf?_withCompiled, found]
      simp only [Option.map_some, TypeDecl.name_compiledAmong, member, if_true, List.map_cons, ih]
  | case3 left decl superclass found absent =>
      rw [climb, superclassOf?_withCompiled, found]
      simp only [Option.map_some, TypeDecl.name_compiledAmong, absent, if_false, List.map_nil]

theorem superclassesOf_withCompiled (name : String) :
    (world.withCompiled names).superclassesOf name =
      (world.superclassesOf name).map (TypeDecl.compiledAmong names) := by
  have names_eq : (world.withCompiled names).names = world.names := Table.keys_mapValues _ _
  rw [superclassesOf, superclassesOf, get?_withCompiled]
  cases world.get? name with
  | none => rfl
  | some decl =>
      simp only [Option.map_some, Option.getD_some]
      rw [superclasses, superclasses, names_eq, TypeDecl.name_compiledAmong, climb_withCompiled]

theorem extends_of_withCompiled {child parent : String}
    (step : (world.withCompiled names).Extends child parent) : world.Extends child parent := by
  obtain ⟨_, _, known, found, rfl⟩ := step
  rw [get?_withCompiled] at known
  obtain ⟨decl, isDecl, rfl⟩ := Option.map_eq_some_iff.1 known
  rw [superclassOf?_withCompiled] at found
  obtain ⟨superclass, isSuperclass, rfl⟩ := Option.map_eq_some_iff.1 found
  exact ⟨decl, superclass, isDecl, isSuperclass, TypeDecl.name_compiledAmong.symm⟩

theorem IsAcyclic.withCompiled (acyclic : world.IsAcyclic) :
    (world.withCompiled names).IsAcyclic :=
  fun name above =>
    acyclic name (Relation.TransGen.mono (fun _ _ => extends_of_withCompiled) _ _ above)

end Universe
end Companion
