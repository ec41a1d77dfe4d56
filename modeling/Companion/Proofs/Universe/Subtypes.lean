import Companion.Proofs.Universe.Superclasses
import Mathlib.Logic.Relation

/-!
# Subtypes

The search upward from a type enters each name once, but looks at every type that it comes to.  A
type that inherits from the one looked for is found even so: after the last entry of a name, the way
up does not need that name any more.
-/

namespace Companion
namespace Universe

variable {world : Universe} {text : String}

/-- Whether a type is declared to extend or to implement another one. -/
def IsBelow (world : Universe) (type above : SourceType) : Prop :=
  ∃ name args decl, type = .declared name args ∧ world.get? name = some decl ∧
    (decl.superclass = some above ∨ above ∈ decl.interfaces)

/-- Whether a text stands for a type: it is its spelling, or its spelling with the wildcard in
place of every type argument. -/
def StandsFor (text : String) (type : SourceType) : Prop :=
  type.display = text ∨ ∃ name args, type = .declared name args ∧ args ≠ [] ∧
    (wildcardForm name args).display = text

theorem isSpelled_iff {type : SourceType} : isSpelled type text = true ↔ StandsFor text type := by
  cases type with
  | declared name args =>
      rw [isSpelled, StandsFor, Bool.or_eq_true, decide_eq_true_iff, Bool.and_eq_true,
        decide_eq_true_iff]
      refine or_congr_right ⟨?_, ?_⟩
      · rintro ⟨notNil, same⟩
        exact ⟨name, args, rfl, by simpa using notNil, same⟩
      · rintro ⟨_, _, ⟨⟩, notNil, same⟩
        exact ⟨by simpa using notNil, same⟩
  | _ => simp [isSpelled, StandsFor]

theorem mem_supertypes_iff {name : String} {above : SourceType} :
    above ∈ world.supertypes name ↔ ∃ decl, world.get? name = some decl ∧
      (decl.superclass = some above ∨ above ∈ decl.interfaces) := by
  rw [supertypes]
  cases world.get? name with
  | none => simp
  | some decl => simp

/-- One step up from a type whose name is among those left. -/
def Climbs (world : Universe) (left : List String) (type above : SourceType) : Prop :=
  ∃ name ∈ left, type.declaredName? = some name ∧ above ∈ world.supertypes name

/-- Whether a text stands for a type that some types come to through the names left. -/
def ComesTo (world : Universe) (text : String) (left : List String)
    (types : List SourceType) : Prop :=
  ∃ type ∈ types, ∃ above, Relation.ReflTransGen (world.Climbs left) type above ∧
    StandsFor text above

theorem climbs_names_iff {type above : SourceType} :
    world.Climbs world.names type above ↔ world.IsBelow type above := by
  constructor
  · rintro ⟨name, -, declared, listed⟩
    obtain ⟨decl, known, inherits⟩ := mem_supertypes_iff.1 listed
    cases type with
    | declared _ args =>
        cases declared
        exact ⟨name, args, decl, rfl, known, inherits⟩
    | _ => cases declared
  · rintro ⟨name, args, decl, rfl, known, inherits⟩
    exact ⟨name, Table.mem_keys_of_get? known, rfl, mem_supertypes_iff.2 ⟨decl, known, inherits⟩⟩

theorem Climbs.of_erase {left : List String} {name : String} {type above : SourceType}
    (step : world.Climbs (left.erase name) type above) : world.Climbs left type above := by
  obtain ⟨entered, listed, step⟩ := step
  exact ⟨entered, List.mem_of_mem_erase listed, step⟩

/-- A way up can do without a name, or it can once it has left that name for the last time. -/
theorem climbs_erase_or {left : List String} (name : String) {type above : SourceType}
    (way : Relation.ReflTransGen (world.Climbs left) type above) :
    Relation.ReflTransGen (world.Climbs (left.erase name)) type above ∨
      ∃ first ∈ world.supertypes name,
        Relation.ReflTransGen (world.Climbs (left.erase name)) first above := by
  induction way with
  | refl => exact .inl .refl
  | @tail below above _ step ih =>
      obtain ⟨entered, listed, declared, inherits⟩ := step
      by_cases here : entered = name
      · subst here
        exact .inr ⟨above, inherits, .refl⟩
      · have step : world.Climbs (left.erase name) below above :=
          ⟨entered, (List.mem_erase_of_ne here).2 listed, declared, inherits⟩
        rcases ih with direct | ⟨first, above, way⟩
        · exact .inl (direct.tail step)
        · exact .inr ⟨first, above, way.tail step⟩

theorem comesTo_cons_iff {left : List String} {type : SourceType} {rest : List SourceType} :
    world.ComesTo text left (type :: rest) ↔
      world.ComesTo text left [type] ∨ world.ComesTo text left rest := by
  simp [ComesTo]

/-- A type from which no step leads up comes to itself only. -/
theorem comesTo_singleton_of_top {left : List String} {type : SourceType}
    (top : ∀ above, ¬world.Climbs left type above) :
    world.ComesTo text left [type] ↔ StandsFor text type := by
  constructor
  · rintro ⟨_, listed, above, way, stands⟩
    cases List.mem_singleton.1 listed
    rcases way.cases_head with rfl | ⟨next, step, -⟩
    · exact stands
    · exact absurd step (top next)
  · exact fun stands => ⟨type, List.mem_singleton_self type, type, .refl, stands⟩

/-- Types come through the names left to what they, or the types above a name, come to through the
other names. -/
theorem comesTo_erase_iff {left : List String} {name : String} {type : SourceType}
    {rest : List SourceType} (other : ¬StandsFor text type)
    (declared : type.declaredName? = some name) (listed : name ∈ left) :
    world.ComesTo text left (type :: rest) ↔
      world.ComesTo text (left.erase name) (world.supertypes name ++ rest) := by
  constructor
  · rintro ⟨start, startListed, above, way, stands⟩
    rcases climbs_erase_or name way with direct | ⟨first, inherits, way⟩
    · rcases List.mem_cons.1 startListed with rfl | startListed
      · rcases direct.cases_head with rfl | ⟨next, ⟨entered, member, entered_eq, inherits⟩, way⟩
        · exact absurd stands other
        · cases declared.symm.trans entered_eq
          exact ⟨next, List.mem_append_left rest inherits, above, way, stands⟩
      · exact ⟨start, List.mem_append_right _ startListed, above, direct, stands⟩
    · exact ⟨first, List.mem_append_left rest inherits, above, way, stands⟩
  · rintro ⟨start, startListed, above, way, stands⟩
    have way := Relation.ReflTransGen.mono (fun _ _ => Climbs.of_erase) _ _ way
    rcases List.mem_append.1 startListed with inherits | startListed
    · exact ⟨type, List.mem_cons_self, above, .head ⟨name, listed, declared, inherits⟩ way, stands⟩
    · exact ⟨start, List.mem_cons_of_mem type startListed, above, way, stands⟩

/-- The search meets a type that a text stands for if the types at hand come to one. -/
theorem meets_iff {left : List String} {types : List SourceType} :
    world.meets text left types = true ↔ world.ComesTo text left types := by
  fun_induction meets world text left types with
  | case1 left => simp [ComesTo]
  | case2 left type rest spelled =>
      exact iff_of_true rfl ⟨type, List.mem_cons_self, type, .refl, isSpelled_iff.1 spelled⟩
  | case3 left type rest other anonymous ih =>
      have top : ∀ above, ¬world.Climbs left type above := by
        rintro above ⟨name, -, declared, -⟩
        cases anonymous.symm.trans declared
      rw [ih, comesTo_cons_iff, comesTo_singleton_of_top top, ← isSpelled_iff,
        or_iff_right other]
  | case4 left type rest other name declared listed ih =>
      rw [ih, comesTo_erase_iff (mt isSpelled_iff.2 other) declared listed]
  | case5 left type rest other name declared unlisted ih =>
      have top : ∀ above, ¬world.Climbs left type above := by
        rintro above ⟨entered, listed, entered_eq, -⟩
        cases declared.symm.trans entered_eq
        exact unlisted listed
      rw [ih, comesTo_cons_iff, comesTo_singleton_of_top top, ← isSpelled_iff,
        or_iff_right other]

/-- A type is a subtype of another one if some steps up, or none, lead from it to a type that the
spelling of the other one stands for. -/
theorem isSubtype_iff (world : Universe) (type : SourceType) (text : String) :
    world.isSubtype type text = true ↔ ∃ above,
      Relation.ReflTransGen world.IsBelow type above ∧ StandsFor text above := by
  have same : world.Climbs world.names = world.IsBelow := by
    funext type above
    exact propext climbs_names_iff
  rw [isSubtype, meets_iff, ComesTo, same]
  simp

end Universe
end Companion
