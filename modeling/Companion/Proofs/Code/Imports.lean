import Companion.Code.Imports
import Companion.Proofs.Table

/-!
# Simple names and imports

A simple name goes to the first outermost class that claims it and stays with that class.  A class
is therefore written in the same way however often it is asked for, and the imports are at any time
those of the owners that need one.
-/

namespace Companion

namespace CodeType

mutual

theorem write_congr {spell other : ClassName → String} : ∀ type : CodeType,
    (∀ name ∈ type.classes, spell name = other name) → type.write spell = type.write other
  | .void, _ => rfl
  | .primitive _, _ => rfl
  | .classType name, same => same name (by simp [classes])
  | .parameterized raw args, same => by
    have rawSame := same raw (by simp [classes])
    have argsSame := writeAll_congr args fun name listed =>
      same name (by simp [classes, listed])
    rw [write, write, rawSame, argsSame]
  | .array component, same => by
    rw [write, write, write_congr component same]
  | .anyWildcard, _ => rfl
  | .wildcard bound, same => by
    rw [write, write, write_congr bound same]

theorem writeAll_congr {spell other : ClassName → String} : ∀ types : List CodeType,
    (∀ name ∈ classesOfAll types, spell name = other name) →
      writeAll spell types = writeAll other types
  | [], _ => rfl
  | type :: rest, same => by
    have here := write_congr type fun name listed =>
      same name (by simp [classesOfAll, listed])
    have later := writeAll_congr rest fun name listed =>
      same name (by simp [classesOfAll, listed])
    rw [writeAll, writeAll, here, later]

end

end CodeType

namespace Imports

variable {imports later : Imports} {own name owner : ClassName} {simple : String}

theorem mem_insertName {text : String} {names : List String} {added : String} :
    text ∈ insertName added names ↔ text = added ∨ text ∈ names := by
  induction names with
  | nil => simp [insertName]
  | cons present rest ih =>
      rw [insertName]
      split
      · rw [List.mem_cons]
      · split
        · rename_i same
          simp [same]
        · rw [List.mem_cons, ih, List.mem_cons, or_left_comm]

theorem ascending_insertName {names : List String} (ascending : names.Pairwise (· < ·))
    (added : String) : (insertName added names).Pairwise (· < ·) := by
  induction names with
  | nil => exact List.pairwise_singleton _ _
  | cons present rest ih =>
      obtain ⟨least, ascending⟩ := List.pairwise_cons.1 ascending
      rw [insertName]
      split
      · rename_i before
        refine List.pairwise_cons.2 ⟨?_, List.pairwise_cons.2 ⟨least, ascending⟩⟩
        rintro text (_ | ⟨_, listed⟩)
        · exact before
        · exact String.lt_trans before (least text listed)
      · rename_i notBefore
        split
        · exact List.pairwise_cons.2 ⟨least, ascending⟩
        · rename_i different
          have after : present < added :=
            Std.lt_of_le_of_ne (String.not_lt.1 notBefore) (Ne.symm different)
          refine List.pairwise_cons.2 ⟨fun text listed => ?_, ih ascending⟩
          rcases mem_insertName.1 listed with rfl | listed
          · exact after
          · exact least text listed

/-- A state comes before another when the other keeps its owners and its imports. -/
structure Precedes (imports later : Imports) : Prop where
  /-- The unit is the same. -/
  package : later.package = imports.package
  /-- Owners stay. -/
  owner : ∀ simple owner, imports.owners.get? simple = some owner →
    later.owners.get? simple = some owner
  /-- Imports stay. -/
  listed : ∀ text ∈ imports.names, text ∈ later.names

theorem Precedes.refl (imports : Imports) : imports.Precedes imports :=
  ⟨rfl, fun _ _ found => found, fun _ listed => listed⟩

theorem Precedes.trans {last : Imports} (first : imports.Precedes later)
    (second : later.Precedes last) : imports.Precedes last where
  package := second.package.trans first.package
  owner simple owner found := second.owner simple owner (first.owner simple owner found)
  listed text listed := second.listed text (first.listed text listed)

theorem claim_of_owned (owned : imports.owners.get? name.outer = some owner) :
    imports.claim name = imports :=
  if_pos (Table.contains_iff.2 (Table.mem_keys_of_get? owned))

theorem claim_of_free (free : imports.owners.get? name.outer = none) :
    imports.claim name =
      { imports with
        owners := imports.owners.insert name.outer name.topLevel
        names := if imports.isVisible name then imports.names
          else insertName name.topLevel.canonical imports.names } := by
  refine if_neg fun claimed => Table.get?_eq_none_iff.1 free ?_
  exact Table.contains_iff.1 claimed

theorem precedes_claim (imports : Imports) (name : ClassName) :
    imports.Precedes (imports.claim name) := by
  cases owned : imports.owners.get? name.outer with
  | some owner =>
      rw [claim_of_owned owned]
      exact .refl imports
  | none =>
      rw [claim_of_free owned]
      refine ⟨rfl, fun simple owner found => ?_, fun text listed => ?_⟩
      · rw [Table.get?_insert, if_neg, found]
        rintro rfl
        cases owned.symm.trans found
      · dsimp only
        split
        · exact listed
        · exact mem_insertName.2 (.inr listed)

theorem exists_owner_claim (imports : Imports) (name : ClassName) :
    ∃ owner, (imports.claim name).owners.get? name.outer = some owner := by
  cases owned : imports.owners.get? name.outer with
  | some owner =>
      rw [claim_of_owned owned]
      exact ⟨owner, owned⟩
  | none =>
      rw [claim_of_free owned]
      exact ⟨name.topLevel, by rw [Table.get?_insert, if_pos rfl]⟩

/-- The owner of a claimed simple name is the class that claims it or was the owner before. -/
theorem owned_of_claim_of_ne (other : owner ≠ name.topLevel)
    (owned : (imports.claim name).owners.get? name.outer = some owner) :
    imports.owners.get? name.outer = some owner := by
  cases before : imports.owners.get? name.outer with
  | some first =>
      rw [claim_of_owned before] at owned
      exact before.symm.trans owned
  | none =>
      rw [claim_of_free before, Table.get?_insert, if_pos rfl] at owned
      exact absurd (Option.some.inj owned).symm other

/-- The spelling of a class is settled once its simple name has an owner. -/
theorem Precedes.spell_eq (precedes : imports.Precedes later)
    (owned : imports.owners.get? name.outer = some owner) :
    later.spell name = imports.spell name := by
  rw [spell, spell, owned, precedes.owner _ _ owned]

theorem precedes_claimAll (imports : Imports) (names : List ClassName) :
    imports.Precedes (imports.claimAll names) := by
  induction names generalizing imports with
  | nil => exact .refl imports
  | cons name names ih => exact (precedes_claim imports name).trans (ih _)

theorem claimAll_append (imports : Imports) (names others : List ClassName) :
    imports.claimAll (names ++ others) = (imports.claimAll names).claimAll others :=
  List.foldl_append

theorem exists_owner_claimAll {names : List ClassName} (listed : name ∈ names)
    (imports : Imports) :
    ∃ owner, (imports.claimAll names).owners.get? name.outer = some owner := by
  induction names generalizing imports with
  | nil => cases listed
  | cons first names ih =>
      rcases List.mem_cons.1 listed with rfl | listed
      · obtain ⟨owner, owned⟩ := exists_owner_claim imports name
        exact ⟨owner, (precedes_claimAll _ names).owner _ _ owned⟩
      · exact ih listed _

mutual

/-- Write a type and refer to each of its classes when it is reached. -/
def render (imports : Imports) : CodeType → Imports × String
  | .void => (imports, "void")
  | .primitive kind => (imports, kind.keyword)
  | .classType name => imports.reference name
  | .parameterized raw args =>
    let (imports, raw) := imports.reference raw
    let (imports, args) := renderAll imports args
    (imports, raw ++ "<" ++ Text.joined ", " args ++ ">")
  | .array component =>
    let (imports, component) := render imports component
    (imports, component ++ "[]")
  | .anyWildcard => (imports, "?")
  | .wildcard bound =>
    let (imports, bound) := render imports bound
    (imports, "? extends " ++ bound)

/-- `render` for several types, in order. -/
def renderAll (imports : Imports) : List CodeType → Imports × List String
  | [] => (imports, [])
  | type :: rest =>
    let (imports, text) := render imports type
    let (imports, texts) := renderAll imports rest
    (imports, text :: texts)

end

/-- What was written when some classes were claimed would be written in the same way later. -/
theorem Precedes.write_eq {type : CodeType}
    (precedes : (imports.claimAll type.classes).Precedes later) :
    type.write later.spell = (imports.typeText type).2 := by
  refine CodeType.write_congr _ fun name listed => ?_
  obtain ⟨owner, owned⟩ := exists_owner_claimAll listed imports
  exact precedes.spell_eq owned

mutual

/-- Claims that come later do not change what is written, so the order does not matter. -/
theorem render_eq (imports : Imports) : ∀ type : CodeType,
    imports.render type = imports.typeText type
  | .void => rfl
  | .primitive _ => rfl
  | .classType _ => rfl
  | .parameterized raw args => by
    obtain ⟨owner, owned⟩ := exists_owner_claim imports raw
    have settled := (precedes_claimAll _ (CodeType.classesOfAll args)).spell_eq owned
    simp only [render, reference, renderAll_eq _ args]
    rw [← settled]
    rfl
  | .array component => by
    rw [render, render_eq imports component]
    rfl
  | .anyWildcard => rfl
  | .wildcard bound => by
    rw [render, render_eq imports bound]
    rfl

theorem renderAll_eq (imports : Imports) : ∀ types : List CodeType,
    imports.renderAll types = (imports.claimAll (CodeType.classesOfAll types),
      CodeType.writeAll (imports.claimAll (CodeType.classesOfAll types)).spell types)
  | [] => rfl
  | type :: rest => by
    have settled := (precedes_claimAll (imports.claimAll type.classes)
      (CodeType.classesOfAll rest)).write_eq
    simp only [renderAll, render_eq imports type, renderAll_eq _ rest, CodeType.classesOfAll,
      claimAll_append, CodeType.writeAll, settled, typeText]

end

/-- A request to write a class or a type. -/
inductive Request where
  | name (name : ClassName)
  | type (type : CodeType)

/-- Write what is requested. -/
def serve (imports : Imports) : Request → Imports × String
  | .name name => imports.reference name
  | .type type => imports.typeText type

/-- The claims after several requests, in order. -/
def serveAll (imports : Imports) (requests : List Request) : Imports :=
  requests.foldl (fun imports request => (imports.serve request).1) imports

theorem precedes_serveAll (imports : Imports) (requests : List Request) :
    imports.Precedes (imports.serveAll requests) := by
  induction requests generalizing imports with
  | nil => exact .refl imports
  | cons request requests ih =>
      refine Precedes.trans ?_ (ih _)
      cases request with
      | name name => exact precedes_claim imports name
      | type type => exact precedes_claimAll imports type.classes

/-! ## What holds at any time -/

/-- The classes that are imported: the owners that need an import. -/
def imported (imports : Imports) : List ClassName :=
  imports.owners.values.filter fun owner => !imports.isVisible owner

/-- The claims belong to a unit for a class, and the imports to the claims. -/
structure IsSound (own : ClassName) (imports : Imports) : Prop where
  /-- The unit lies in the package of its class. -/
  package : imports.package = own.package
  /-- The class owns its simple name. -/
  own : imports.owners.get? own.outer = some own.topLevel
  /-- An owner is an outermost class of the name that it owns. -/
  owner : ∀ simple owner, imports.owners.get? simple = some owner →
    owner = .ofOuter owner.package simple
  /-- The imports are in ascending order. -/
  ascending : imports.names.Pairwise (· < ·)
  /-- They are those of the owners that need one. -/
  listed : ∀ text, text ∈ imports.names ↔ ∃ owner ∈ imports.imported, owner.canonical = text

theorem mem_imported_iff : owner ∈ imports.imported ↔
    (∃ simple, imports.owners.get? simple = some owner) ∧ imports.isVisible owner = false := by
  rw [imported, List.mem_filter, Table.mem_values_iff, Bool.not_eq_true']

theorem isSound_ofOwn (own : ClassName) : IsSound own (ofOwn own) where
  package := rfl
  own := by rw [ofOwn, Table.get?_insert, if_pos rfl]
  owner simple owner found := by
    rw [ofOwn, Table.get?_insert] at found
    split at found
    · rename_i same
      cases found
      rw [same]
      rfl
    · cases found
  ascending := .nil
  listed text := by
    refine ⟨fun member => (List.not_mem_nil member).elim, ?_⟩
    rintro ⟨owner, member, -⟩
    obtain ⟨⟨simple, found⟩, hidden⟩ := mem_imported_iff.1 member
    rw [ofOwn, Table.get?_insert] at found
    split at found
    · cases found
      simp [isVisible, ofOwn, ClassName.topLevel] at hidden
    · cases found

/-- The imports after a simple name without owner is claimed. -/
theorem IsSound.listed_claim (sound : IsSound own imports)
    (free : imports.owners.get? name.outer = none) (text : String) :
    text ∈ (imports.claim name).names ↔
      ∃ owner ∈ (imports.claim name).imported, owner.canonical = text := by
  have owners_iff (owner : ClassName) :
      (∃ simple, (imports.claim name).owners.get? simple = some owner) ↔
        owner = name.topLevel ∨ ∃ simple, imports.owners.get? simple = some owner := by
    rw [claim_of_free free, ← Table.mem_values_iff, ← Table.mem_values_iff]
    exact Table.mem_values_insert (Table.get?_eq_none_iff.1 free)
  have visible_eq (owner : ClassName) :
      (imports.claim name).isVisible owner = imports.isVisible owner := by
    rw [claim_of_free free]
    rfl
  have imported_iff (owner : ClassName) : owner ∈ (imports.claim name).imported ↔
      owner = name.topLevel ∧ imports.isVisible name = false ∨ owner ∈ imports.imported := by
    rw [mem_imported_iff, owners_iff, visible_eq, mem_imported_iff, or_and_right]
    refine or_congr_left (and_congr_right ?_)
    rintro rfl
    rfl
  have names_iff : text ∈ (imports.claim name).names ↔
      name.topLevel.canonical = text ∧ imports.isVisible name = false ∨ text ∈ imports.names := by
    rw [claim_of_free free]
    cases visible : imports.isVisible name
    · simp [mem_insertName, eq_comm]
    · simp
  rw [names_iff, sound.listed]
  constructor
  · rintro (⟨same, hidden⟩ | ⟨owner, member, same⟩)
    · exact ⟨_, (imported_iff _).2 (.inl ⟨rfl, hidden⟩), same⟩
    · exact ⟨owner, (imported_iff _).2 (.inr member), same⟩
  · rintro ⟨owner, member, same⟩
    rcases (imported_iff _).1 member with ⟨rfl, hidden⟩ | member
    · exact .inl ⟨same, hidden⟩
    · exact .inr ⟨owner, member, same⟩

theorem IsSound.claim (sound : IsSound own imports) (name : ClassName) :
    IsSound own (imports.claim name) := by
  cases owned : imports.owners.get? name.outer with
  | some owner =>
      rw [claim_of_owned owned]
      exact sound
  | none =>
      have precedes := precedes_claim imports name
      refine ⟨precedes.package.trans sound.package, precedes.owner _ _ sound.own, ?_, ?_,
        sound.listed_claim owned⟩
      · intro simple owner found
        rw [claim_of_free owned, Table.get?_insert] at found
        split at found
        · rename_i same
          cases found
          rw [same]
          rfl
        · exact sound.owner simple owner found
      · rw [claim_of_free owned]
        dsimp only
        split
        · exact sound.ascending
        · exact ascending_insertName sound.ascending _

theorem IsSound.claimAll (sound : IsSound own imports) (names : List ClassName) :
    IsSound own (imports.claimAll names) := by
  induction names generalizing imports with
  | nil => exact sound
  | cons name names ih => exact ih (sound.claim name)

theorem isSound_serveAll (sound : IsSound own imports) (requests : List Request) :
    IsSound own (imports.serveAll requests) := by
  induction requests generalizing imports with
  | nil => exact sound
  | cons request requests ih =>
      apply ih
      cases request with
      | name name => exact sound.claim name
      | type type => exact sound.claimAll type.classes

/-- The owner of a simple name is visible, or it is imported. -/
theorem IsSound.visible_or_listed (sound : IsSound own imports)
    (owned : imports.owners.get? simple = some owner) :
    owner.package = own.package ∨ owner.package = "java.lang" ∨
      owner.canonical ∈ imports.names := by
  cases visible : imports.isVisible owner with
  | true => simpa [isVisible, sound.package, or_assoc] using Or.inl visible
  | false =>
      have member := mem_imported_iff.2 ⟨⟨simple, owned⟩, visible⟩
      exact .inr (.inr ((sound.listed _).2 ⟨owner, member, rfl⟩))

theorem IsSound.foreign (sound : IsSound own imports) (member : owner ∈ imports.imported) :
    owner.outer ≠ own.outer ∧ owner.package ≠ own.package ∧ owner.package ≠ "java.lang" := by
  obtain ⟨⟨simple, owned⟩, hidden⟩ := mem_imported_iff.1 member
  simp only [isVisible, Bool.or_eq_false_iff, decide_eq_false_iff_not, sound.package] at hidden
  refine ⟨fun same => hidden.1 ?_, hidden⟩
  have outer_eq : owner.outer = simple := by rw [sound.owner simple owner owned]; rfl
  rw [← outer_eq, same, sound.own] at owned
  cases owned
  rfl

theorem IsSound.nodup_outer (sound : IsSound own imports) :
    (imports.imported.map ClassName.outer).Nodup := by
  have keys_eq : imports.owners.values.map ClassName.outer = imports.owners.keys := by
    rw [Table.values, Table.keys, List.map_map]
    refine List.map_congr_left fun entry listed => ?_
    have found := Table.get?_eq_some_iff.2 listed
    rw [Function.comp, sound.owner _ _ found]
    rfl
  refine (List.filter_sublist.map ClassName.outer).nodup ?_
  rw [keys_eq]
  exact imports.owners.nodup

/-- How a class is written from the moment on when it is asked for. -/
structure Settles (own : ClassName) (imports : Imports) (name : ClassName) : Prop where
  /-- The simple name of its outermost class has an owner. -/
  owned : ∃ owner, (imports.reference name).1.owners.get? name.outer = some owner
  /-- When that is its own outermost class, it is written by its simple names, and the outermost
  class stays visible or imported. -/
  short : (imports.reference name).1.owners.get? name.outer = some name.topLevel →
    (imports.reference name).2 = Text.dotted name.names ∧
      ∀ later, name.package = own.package ∨ name.package = "java.lang" ∨
        name.topLevel.canonical ∈ ((imports.reference name).1.serveAll later).names
  /-- Otherwise it is written in full, and nothing changes. -/
  full : (imports.reference name).1.owners.get? name.outer ≠ some name.topLevel →
    imports.reference name = (imports, name.canonical)
  /-- It is written in the same way ever after. -/
  again : ∀ later, (((imports.reference name).1.serveAll later).reference name).2 =
    (imports.reference name).2

/-- The claims and imports of a unit for a class, now and after any further requests. -/
structure IsConsistent (own : ClassName) (imports : Imports) : Prop where
  /-- The imports are in ascending order, each once. -/
  ascending : imports.names.Pairwise (· < ·)
  /-- They are the names of the imported classes. -/
  listed : ∀ text, text ∈ imports.names ↔ ∃ owner ∈ imports.imported, owner.canonical = text
  /-- No two imported classes have the same simple name. -/
  distinct : (imports.imported.map ClassName.outer).Nodup
  /-- None has the simple name of the class's outermost class, and none is visible anyway. -/
  foreign : ∀ owner ∈ imports.imported,
    owner.outer ≠ own.outer ∧ owner.package ≠ own.package ∧ owner.package ≠ "java.lang"
  /-- A simple name is owned by an outermost class of that name, for good. -/
  owner : ∀ simple owner, imports.owners.get? simple = some owner →
    owner = .ofOuter owner.package simple ∧
      ∀ later, (imports.serveAll later).owners.get? simple = some owner
  /-- Every class that is asked for is settled. -/
  settles : ∀ name, imports.Settles own name
  /-- A type is written class by class, as each of its classes is at any later time. -/
  type : ∀ type, imports.typeText type = imports.render type ∧
    ∀ later, (imports.typeText type).2 =
      type.write fun name => (((imports.typeText type).1.serveAll later).reference name).2

theorem IsSound.settles (sound : IsSound own imports) (name : ClassName) :
    imports.Settles own name where
  owned := exists_owner_claim imports name
  short owned := by
    refine ⟨if_pos owned, fun later => ?_⟩
    have kept := (precedes_serveAll (imports.claim name) later).owner _ _ owned
    exact (isSound_serveAll (sound.claim name) later).visible_or_listed kept
  full other := by
    obtain ⟨owner, owned⟩ := exists_owner_claim imports name
    have different : owner ≠ name.topLevel := by
      rintro rfl
      exact other owned
    have unchanged := claim_of_owned (owned_of_claim_of_ne different owned)
    exact Prod.ext unchanged (if_neg other)
  again later := by
    obtain ⟨owner, owned⟩ := exists_owner_claim imports name
    have precedes := precedes_serveAll (imports.claim name) later
    have unchanged := claim_of_owned (precedes.owner _ _ owned)
    rw [reference, reference, unchanged]
    exact precedes.spell_eq owned

theorem typeText_eq_write (imports : Imports) (type : CodeType) (later : List Request) :
    (imports.typeText type).2 =
      type.write fun name => (((imports.typeText type).1.serveAll later).reference name).2 := by
  have precedes := precedes_serveAll (imports.claimAll type.classes) later
  refine precedes.write_eq.symm.trans (CodeType.write_congr _ fun name listed => ?_)
  obtain ⟨owner, owned⟩ := exists_owner_claimAll listed imports
  have unchanged := claim_of_owned (precedes.owner _ _ owned)
  exact congrArg (fun imports => imports.spell name) unchanged.symm

/-- Whatever classes and types have been written in a unit, in any order, its claims and imports
are consistent. -/
theorem isConsistent_serveAll (own : ClassName) (requests : List Request) :
    IsConsistent own ((ofOwn own).serveAll requests) := by
  have sound := isSound_serveAll (isSound_ofOwn own) requests
  refine ⟨sound.ascending, sound.listed, sound.nodup_outer, fun owner => sound.foreign, ?_,
    sound.settles, fun type => ⟨(render_eq _ type).symm, typeText_eq_write _ type⟩⟩
  intro simple owner owned
  exact ⟨sound.owner simple owner owned, fun later =>
    (precedes_serveAll _ later).owner simple owner owned⟩

end Imports
end Companion
