import Companion.Proofs.ClassName
import Companion.Proofs.Code.Imports
import Companion.Proofs.Success

/-!
# Classes that are written alike

Two classes that one unit refers to are written in the same way only if they are the same class, or
if one is in the unnamed package and so has no other name than the simple names of the other.
-/

namespace Companion
namespace Imports

variable {imports : Imports} {own first second : ClassName} {names : List ClassName}

/-- Refer to several classes one after the other: each with what is written for it. -/
def referenceAll (imports : Imports) : List ClassName → List (ClassName × String)
  | [] => []
  | name :: rest =>
    let (later, text) := imports.reference name
    (name, text) :: later.referenceAll rest

/-- Whether the outermost class of a class owns its simple name. -/
def Owns (imports : Imports) (name : ClassName) : Prop :=
  imports.owners.get? name.outer = some name.topLevel

/-- Whether a class is the first of several to claim its simple name for its outermost class, and
another one, in the unnamed package, has the same simple names. -/
structure Shadows (claims : List ClassName) (shown hidden : ClassName) : Prop where
  /-- The other one is in the unnamed package. -/
  unnamed : hidden.package = ""
  /-- The class itself is not. -/
  named : shown.package ≠ ""
  /-- Their simple names are the same. -/
  names : hidden.names = shown.names
  /-- The first class with that simple name has the same outermost class. -/
  first : (claims.find? fun claim => claim.outer = shown.outer).map ClassName.topLevel =
    some shown.topLevel

theorem get?_owners_claim (imports : Imports) (name : ClassName) (simple : String) :
    (imports.claim name).owners.get? simple =
      (imports.owners.get? simple).or
        (if name.outer = simple then some name.topLevel else none) := by
  cases owned : imports.owners.get? name.outer with
  | some owner =>
      rw [claim_of_owned owned]
      split
      · rename_i same
        rw [← same, owned, Option.some_or]
      · rw [Option.or_none]
  | none =>
      rw [claim_of_free owned, Table.get?_insert]
      split
      · rename_i same
        rw [same, owned, if_pos rfl, Option.none_or]
      · rename_i other
        rw [if_neg (Ne.symm other), Option.or_none]

theorem get?_owners_claimAll (imports : Imports) (names : List ClassName) (simple : String) :
    (imports.claimAll names).owners.get? simple =
      (imports.owners.get? simple).or
        ((names.find? fun name => name.outer = simple).map ClassName.topLevel) := by
  induction names generalizing imports with
  | nil => exact (Option.or_none).symm
  | cons name rest ih =>
      have step := ih (imports.claim name)
      rw [get?_owners_claim, Option.or_assoc] at step
      refine step.trans (congrArg _ ?_)
      by_cases same : name.outer = simple <;> simp [same]

/-- The owner of a simple name is the first one of that name among the class of the unit and those
that claim their names. -/
theorem get?_owners_claimAll_ofOwn (own : ClassName) (names : List ClassName) (simple : String) :
    ((ofOwn own).claimAll names).owners.get? simple =
      ((own :: names).find? fun name => name.outer = simple).map ClassName.topLevel := by
  rw [get?_owners_claimAll, ofOwn, Table.get?_insert]
  by_cases same : own.outer = simple
  · simp [same]
  · rw [if_neg (Ne.symm same), List.find?_cons_of_neg (by simpa using same)]
    rfl

theorem Owns.spell_eq (owns : imports.Owns first) :
    imports.spell first = Text.dotted first.names :=
  if_pos owns

theorem spell_of_not_owns (other : ¬imports.Owns first) :
    imports.spell first = first.canonical :=
  if_neg other

/-- A class that is written like one that owns its simple name is that class, or it has the same
simple names in the unnamed package. -/
theorem Owns.eq_or_unnamed (owns : imports.Owns first) (firstNamed : first.IsNamed)
    (secondNamed : second.IsNamed) (same : imports.spell first = imports.spell second) :
    first = second ∨
      second.package = "" ∧ first.package ≠ "" ∧ second.names = first.names := by
  rw [owns.spell_eq] at same
  by_cases alsoOwns : imports.Owns second
  · rw [alsoOwns.spell_eq] at same
    have names_eq : first.names = second.names := by
      rw [← firstNamed.segments_dotted, same, secondNamed.segments_dotted]
    have topLevel_eq : first.topLevel = second.topLevel := by
      have outer_eq : first.outer = second.outer := (List.cons.inj names_eq).1
      rw [Owns, outer_eq] at owns
      exact Option.some.inj (owns.symm.trans alsoOwns)
    have package_eq := ClassName.package_eq_of_topLevel_eq topLevel_eq
    exact .inl (ClassName.eq_of_package_eq_of_names_eq package_eq names_eq)
  · rw [spell_of_not_owns alsoOwns] at same
    obtain ⟨unnamed, names_eq⟩ := firstNamed.of_canonical_eq_dotted secondNamed same.symm
    by_cases firstUnnamed : first.package = ""
    · exact .inl (ClassName.eq_of_package_eq_of_names_eq
        (firstUnnamed.trans unnamed.symm) names_eq.symm)
    · exact .inr ⟨unnamed, firstUnnamed, names_eq⟩

/-- A class in the unnamed package is written like the owner of its simple name. -/
theorem Owns.spell_eq_of_unnamed (owns : imports.Owns first) (unnamed : second.package = "")
    (named : first.package ≠ "") (names_eq : second.names = first.names) :
    imports.spell first = imports.spell second := by
  have other : ¬imports.Owns second := by
    intro alsoOwns
    have outer_eq : second.outer = first.outer := (List.cons.inj names_eq).1
    rw [Owns, outer_eq] at alsoOwns
    have topLevel_eq := Option.some.inj (owns.symm.trans alsoOwns)
    exact named ((ClassName.package_eq_of_topLevel_eq topLevel_eq).trans unnamed)
  rw [owns.spell_eq, spell_of_not_owns other, ClassName.canonical, ClassName.inPackage,
    if_pos unnamed, names_eq]

theorem spell_eq_spell_iff (firstNamed : first.IsNamed) (secondNamed : second.IsNamed) :
    imports.spell first = imports.spell second ↔
      first.canonical = second.canonical ∨
        (imports.Owns first ∧ second.package = "" ∧ first.package ≠ "" ∧
          second.names = first.names) ∨
        (imports.Owns second ∧ first.package = "" ∧ second.package ≠ "" ∧
          first.names = second.names) := by
  constructor
  · intro same
    by_cases owns : imports.Owns first
    · rcases owns.eq_or_unnamed firstNamed secondNamed same with rfl | hides
      · exact .inl rfl
      · exact .inr (.inl ⟨owns, hides⟩)
    · by_cases alsoOwns : imports.Owns second
      · rcases alsoOwns.eq_or_unnamed secondNamed firstNamed same.symm with rfl | hides
        · exact .inl rfl
        · exact .inr (.inr ⟨alsoOwns, hides⟩)
      · rw [spell_of_not_owns owns, spell_of_not_owns alsoOwns] at same
        exact .inl same
  · rintro (same | ⟨owns, unnamed, named, names_eq⟩ | ⟨owns, unnamed, named, names_eq⟩)
    · rw [firstNamed.eq_of_canonical_eq secondNamed same]
    · exact owns.spell_eq_of_unnamed unnamed named names_eq
    · exact (owns.spell_eq_of_unnamed unnamed named names_eq).symm

/-- What is written for a class is how it is spelled after all claims. -/
theorem referenceAll_eq (imports : Imports) (names : List ClassName) :
    imports.referenceAll names =
      names.map fun name => (name, (imports.claimAll names).spell name) := by
  induction names generalizing imports with
  | nil => rfl
  | cons name rest ih =>
      obtain ⟨owner, owned⟩ := exists_owner_claim imports name
      have settled := (precedes_claimAll (imports.claim name) rest).spell_eq owned
      calc
        imports.referenceAll (name :: rest) =
            (name, (imports.claim name).spell name) ::
              (imports.claim name).referenceAll rest := rfl
        _ = (name, ((imports.claim name).claimAll rest).spell name) ::
              rest.map fun later => (later, ((imports.claim name).claimAll rest).spell later) := by
          rw [ih, settled]

theorem mem_referenceAll {written : ClassName × String}
    (listed : written ∈ imports.referenceAll names) :
    written.1 ∈ names ∧ written.2 = (imports.claimAll names).spell written.1 := by
  rw [referenceAll_eq] at listed
  obtain ⟨name, member, rfl⟩ := List.mem_map.1 listed
  exact ⟨member, rfl⟩

theorem owns_and_unnamed_iff_shadows :
    (((ofOwn own).claimAll names).Owns first ∧ second.package = "" ∧ first.package ≠ "" ∧
      second.names = first.names) ↔ Shadows (own :: names) first second := by
  rw [Owns, get?_owners_claimAll_ofOwn]
  constructor
  · rintro ⟨claimed, unnamed, named, names_eq⟩
    exact ⟨unnamed, named, names_eq, claimed⟩
  · rintro ⟨unnamed, named, names_eq, claimed⟩
    exact ⟨claimed, unnamed, named, names_eq⟩

/-- Two classes that a unit refers to are written in the same way if they have the same canonical
name, or if one shadows the other. -/
theorem text_eq_iff_of_isNamed (own : ClassName) {names : List ClassName}
    (named : ∀ name ∈ names, name.IsNamed) :
    ∀ first ∈ (ofOwn own).referenceAll names, ∀ second ∈ (ofOwn own).referenceAll names,
      first.2 = second.2 ↔ first.1.canonical = second.1.canonical ∨
        Shadows (own :: names) first.1 second.1 ∨ Shadows (own :: names) second.1 first.1 := by
  intro first firstListed second secondListed
  obtain ⟨firstMember, firstText⟩ := mem_referenceAll firstListed
  obtain ⟨secondMember, secondText⟩ := mem_referenceAll secondListed
  rw [firstText, secondText, spell_eq_spell_iff (named _ firstMember) (named _ secondMember),
    owns_and_unnamed_iff_shadows, owns_and_unnamed_iff_shadows]

/-- A class of the package `a`. -/
def hostBinding : ClassName := .ofOuter "a" "Host_ViewBinding"

/-- Classes with one simple name, one of them in the unnamed package. -/
def stringClasses : List ClassName :=
  [.ofOuter "java.lang" "String", .ofOuter "" "String", .ofOuter "b" "String"]

theorem isNamed_stringClasses : ∀ name ∈ stringClasses, name.IsNamed := by
  have read : ∀ name ∈ stringClasses,
      (ClassName.ofText name.canonical).toOption.map id = some name := by
    decide +kernel
  intro name listed
  obtain ⟨_, named, rfl⟩ := exists_ok_of_map_toOption (read name listed)
  exact ⟨_, named⟩

theorem exists_written_alike :
    (∀ name ∈ stringClasses, name.IsNamed) ∧
      ∃ first ∈ (ofOwn hostBinding).referenceAll stringClasses,
        ∃ second ∈ (ofOwn hostBinding).referenceAll stringClasses,
          first.2 = second.2 ∧ first.1.canonical ≠ second.1.canonical := by
  refine ⟨isNamed_stringClasses, (.ofOuter "java.lang" "String", "String"), ?_,
    (.ofOuter "" "String", "String"), ?_, rfl, ?_⟩
  all_goals decide +kernel

theorem text_eq_iff_stringClasses :
    (∀ name ∈ stringClasses, name.IsNamed) ∧
      ∀ first ∈ (ofOwn hostBinding).referenceAll stringClasses,
        ∀ second ∈ (ofOwn hostBinding).referenceAll stringClasses,
          first.2 = second.2 ↔ first.1.canonical = second.1.canonical ∨
            Shadows (hostBinding :: stringClasses) first.1 second.1 ∨
            Shadows (hostBinding :: stringClasses) second.1 first.1 :=
  ⟨isNamed_stringClasses, text_eq_iff_of_isNamed hostBinding isNamed_stringClasses⟩

end Imports
end Companion
