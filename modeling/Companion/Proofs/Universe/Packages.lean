import Companion.CodeType.OfSource
import Companion.Proofs.ClassName
import Companion.Proofs.Round.Environment

/-!
# Packages of declared types

A declaration has its package in front of its name, or none.  That is checked when the package is
given, and holds of a package that is read off the name.  So the class name of a declaration, made
of its package and of what follows it, is spelled as the declaration's own name.
-/

namespace Companion

open Text

theorem Text.packageLength_lt {names : List String} (filled : names ≠ []) :
    packageLength names < names.length := by
  cases found : names.findIdx? startsUpper with
  | some index =>
      rw [packageLength, found, Option.getD_some]
      exact (List.findIdx?_eq_some_iff_getElem.1 found).1
  | none =>
      rw [packageLength, found, Option.getD_none]
      exact Nat.sub_lt (List.length_pos_iff.2 filled) Nat.one_pos

/-- A package that is read off a name stands in front of it, if there is one. -/
theorem packageOfName_eq_or (name : String) :
    packageOfName name = "" ∨ ∃ rest, name = packageOfName name ++ "." ++ rest := by
  have filled : segments name ≠ [] :=
    mt List.map_eq_nil_iff.1 (List.splitOn_ne_nil '.' name.toList)
  by_cases front_eq : (segments name).take (packageLength (segments name)) = []
  · left
    rw [packageOfName, front_eq]
    rfl
  · have back_ne : (segments name).drop (packageLength (segments name)) ≠ [] :=
      List.ne_nil_of_length_pos (by
        rw [List.length_drop]
        exact Nat.sub_pos_of_lt (packageLength_lt filled))
    have joined := String.intercalate_append_of_ne_nil (s := ".") front_eq back_ne
    rw [List.take_append_drop] at joined
    exact .inr ⟨_, (dotted_segments name).symm.trans joined⟩

namespace Universe

variable {world extended : Universe} {types : List TypeDecl}

theorem hasItsPackage_settled {decl : TypeDecl} (fits : decl.HasItsPackage) :
    (settled decl).HasItsPackage := by
  rw [settled]
  split
  · exact packageOfName_eq_or decl.name
  · exact fits

/-- Whether every declared type has its package in front of its name, or none. -/
def IsPackaged (world : Universe) : Prop := ∀ decl ∈ world.types, decl.HasItsPackage

theorem package_of_mem_declarations : ∀ decl ∈ Platform.declarations,
    decl.package = packageOfName decl.name := by
  simp only [Platform.declarations, Platform.plainClass, Platform.subclass,
    Platform.genericSubclass, Platform.interface, TypeDecl.ofName, TypeDecl.extending,
    TypeDecl.implementing, TypeDecl.onClasspath, List.forall_mem_cons, List.not_mem_nil,
    false_implies, implies_true, and_true]

theorem isPackaged_platform : platform.IsPackaged := by
  intro decl listed
  have package_eq := package_of_mem_declarations decl (mem_declarations_of_mem_types listed)
  rw [TypeDecl.HasItsPackage, package_eq]
  exact packageOfName_eq_or decl.name

theorem IsPackaged.insert {decl : TypeDecl} (packaged : world.IsPackaged)
    (accepted : world.insert decl = .ok extended) : extended.IsPackaged := by
  obtain ⟨fits, -, rfl⟩ := insert_eq_ok_iff.1 accepted
  intro other listed
  rcases mem_types_put listed with old | rfl
  · exact packaged other old
  · exact hasItsPackage_settled (packageFits_iff.1 fits)

theorem IsPackaged.insertAll (packaged : world.IsPackaged)
    (accepted : world.insertAll types = .ok extended) : extended.IsPackaged := by
  induction types generalizing world with
  | nil =>
      cases accepted
      exact packaged
  | cons decl rest ih =>
      obtain ⟨next, inserted, accepted⟩ := exists_ok_of_bind accepted
      exact ih (packaged.insert inserted) accepted

end Universe

/-- The class name of a declaration that has its package is spelled as the declaration's name. -/
theorem TypeDecl.HasItsPackage.canonical_eq {decl : TypeDecl} (fits : decl.HasItsPackage)
    {name : ClassName} (named : decl.className = .ok name) : name.canonical = decl.name := by
  obtain ⟨-, package_eq, names_eq⟩ := ClassName.ofNames_eq_ok_iff.1 named
  have dotted_eq : dotted name.names = decl.relativeName := by
    rw [names_eq, simpleNames, dotted_segments]
  rw [ClassName.canonical, ClassName.inPackage, dotted_eq, package_eq, relativeName]
  rcases fits with unpackaged | ⟨rest, name_eq⟩
  · rw [if_pos unpackaged, if_pos unpackaged]
  · by_cases unpackaged : decl.package = ""
    · rw [if_pos unpackaged, if_pos unpackaged]
    · have found :
          (decl.package ++ ".").toList.isPrefixOf? decl.name.toList = some rest.toList := by
        rw [List.isPrefixOf?_eq_some_iff_append_eq, name_eq]
        exact String.toList_append.symm
      rw [if_neg unpackaged, if_neg unpackaged, found]
      dsimp only
      rw [String.ofList_toList]
      exact name_eq.symm

/-- A qualified name refers to the class of that name, whether it is declared or not. -/
theorem Universe.IsPackaged.canonical_eq {world : Universe} (packaged : world.IsPackaged)
    {name : String} {raw : ClassName} (named : world.className name = .ok raw) :
    raw.canonical = name := by
  rw [className] at named
  split at named
  · rename_i decl found
    have listed : decl ∈ world.types := Table.mem_values_iff.2 ⟨name, found⟩
    rw [(packaged decl listed).canonical_eq named, name_of_get? found]
  · exact ClassName.canonical_of_ofText named

end Companion
