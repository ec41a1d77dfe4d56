import Companion.Proofs.Table
import Companion.Universe.Basic

/-!
# Types found in a universe

A type is found by its name and by no other, so the superclasses of a type are the declarations
that the universe has under their names.
-/

namespace Companion
namespace Universe

variable {world : Universe}

theorem name_of_get? {name : String} {decl : TypeDecl} (found : world.get? name = some decl) :
    decl.name = name :=
  (world.named _ (Table.get?_eq_some_iff.1 found)).symm

theorem get?_name_of_mem_types {decl : TypeDecl} (member : decl ∈ world.types) :
    world.get? decl.name = some decl := by
  obtain ⟨name, found⟩ := Table.mem_values_iff.1 member
  rw [name_of_get? found]
  exact found

theorem get?_name_of_mem_sourceTypes {decl : TypeDecl} (member : decl ∈ world.sourceTypes) :
    world.get? decl.name = some decl :=
  get?_name_of_mem_types (List.mem_filter.1 member).1

theorem get?_name_of_superclassOf? {decl superclass : TypeDecl}
    (found : world.superclassOf? decl = some superclass) :
    world.get? superclass.name = some superclass := by
  obtain ⟨type, -, found⟩ := Option.bind_eq_some_iff.1 found
  obtain ⟨name, -, found⟩ := Option.bind_eq_some_iff.1 found
  rw [name_of_get? found]
  exact found

private theorem get?_name_of_mem_climb {left : List String} {decl ancestor : TypeDecl}
    (member : ancestor ∈ world.climb left decl) : world.get? ancestor.name = some ancestor := by
  fun_induction climb world left decl with
  | case1 => simp at member
  | case2 left decl superclass found _ ih =>
      rcases List.mem_cons.1 member with rfl | above
      · exact get?_name_of_superclassOf? found
      · exact ih above
  | case3 => simp at member

theorem get?_name_of_mem_superclasses {decl ancestor : TypeDecl}
    (member : ancestor ∈ world.superclasses decl) : world.get? ancestor.name = some ancestor :=
  get?_name_of_mem_climb member

end Universe
end Companion
