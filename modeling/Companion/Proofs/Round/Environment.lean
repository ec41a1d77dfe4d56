import Companion.Proofs.Universe.Without

/-!
# Declarations of a round

A declaration goes into the universe if its package fits its name and the type stored under that
name may be replaced.  Whether it may is judged by what is stored last, so a name of the platform
can be declared again and again as long as no declaration before the last one is in the sources.
-/

namespace Companion

/-- Whether a declaration has its package in front of its name, or leaves it to be read off. -/
def TypeDecl.HasItsPackage (decl : TypeDecl) : Prop :=
  decl.package = "" ∨ ∃ rest, decl.name = decl.package ++ "." ++ rest

/-- Whether a declaration makes room for a later one: unless that has another name, it is one of a
platform type and not in the sources. -/
def TypeDecl.MakesRoomFor (earlier later : TypeDecl) : Prop :=
  earlier.name = later.name → Platform.isPlatformName earlier.name = true ∧
    earlier.origin ≠ .source

namespace Universe

variable {world extended : Universe} {types : List TypeDecl}

/-- Whether nothing is stored under the name of a declaration that has to stay. -/
def HasRoomFor (world : Universe) (decl : TypeDecl) : Prop :=
  ∀ present, world.get? decl.name = some present → isReplaceable present = true

/-- What is found under each name in the universe of a round with some declared types. -/
structure IsDeclaredBy (world : Universe) (types : List TypeDecl) : Prop where
  /-- The last declaration of a name is found; an empty package is read off the name. -/
  last : ∀ before decl after, types = before ++ decl :: after →
    decl.name ∉ after.map TypeDecl.name → world.get? decl.name = some (settled decl)
  /-- A type of the platform that is not declared is found as it was. -/
  stub : ∀ stub ∈ Platform.declarations, stub.name ∉ types.map TypeDecl.name →
    world.get? stub.name = some stub
  /-- Nothing else is found. -/
  only : ∀ name, name ∉ types.map TypeDecl.name → Platform.isPlatformName name = false →
    world.get? name = none

theorem packageFits_iff {decl : TypeDecl} : packageFits decl = true ↔ decl.HasItsPackage := by
  rw [packageFits, Bool.or_eq_true, decide_eq_true_iff, List.isPrefixOf_iff_prefix]
  refine or_congr Iff.rfl ⟨?_, ?_⟩
  · rintro ⟨rest, name_eq⟩
    refine ⟨String.ofList rest, String.toList_inj.1 ?_⟩
    rw [String.toList_append, String.toList_ofList, name_eq]
  · rintro ⟨rest, name_eq⟩
    refine ⟨rest.toList, ?_⟩
    rw [name_eq]
    exact String.toList_append.symm

theorem isReplaceable_iff {decl : TypeDecl} : isReplaceable decl = true ↔
    Platform.isPlatformName decl.name = true ∧ decl.origin ≠ .source := by
  rw [isReplaceable, Bool.and_eq_true, decide_eq_true_iff]

theorem get?_put (world : Universe) (decl : TypeDecl) (name : String) :
    (world.put decl).get? name = if name = decl.name then some decl else world.get? name :=
  Table.get?_insert world.table decl.name name decl

/-- After a declaration there is room for a later one if it makes room and there was some before. -/
theorem hasRoomFor_put_settled_iff {earlier later : TypeDecl} (room : world.HasRoomFor earlier) :
    (world.put (settled earlier)).HasRoomFor later ↔
      earlier.MakesRoomFor later ∧ world.HasRoomFor later := by
  rw [HasRoomFor, get?_put, name_settled]
  by_cases same : later.name = earlier.name
  · have roomLater : world.HasRoomFor later := by
      rw [HasRoomFor, same]
      exact room
    rw [if_pos same, and_iff_left roomLater]
    constructor
    · intro replaceable _
      have replaceable := isReplaceable_iff.1 (replaceable _ rfl)
      rwa [name_settled, origin_settled] at replaceable
    · rintro makesRoom present ⟨⟩
      rw [isReplaceable_iff, name_settled, origin_settled]
      exact makesRoom same.symm
  · rw [if_neg same]
    exact (and_iff_right fun equal => absurd equal.symm same).symm

theorem insertAll_cons_eq_ok_iff {decl : TypeDecl} {rest : List TypeDecl} :
    world.insertAll (decl :: rest) = .ok extended ↔ decl.HasItsPackage ∧ world.HasRoomFor decl ∧
      (world.put (settled decl)).insertAll rest = .ok extended := by
  rw [insertAll, bind_eq_ok_iff, ← packageFits_iff]
  constructor
  · rintro ⟨next, inserted, accepted⟩
    obtain ⟨fits, room, rfl⟩ := insert_eq_ok_iff.1 inserted
    exact ⟨fits, room, accepted⟩
  · rintro ⟨fits, room, accepted⟩
    exact ⟨_, insert_eq_ok_iff.2 ⟨fits, room, rfl⟩, accepted⟩

theorem exists_insertAll_iff : (∃ extended, world.insertAll types = .ok extended) ↔
    (∀ decl ∈ types, decl.HasItsPackage) ∧ types.Pairwise TypeDecl.MakesRoomFor ∧
      ∀ decl ∈ types, world.HasRoomFor decl := by
  induction types generalizing world with
  | nil => simp [insertAll]
  | cons decl rest ih =>
      rw [List.forall_mem_cons, List.forall_mem_cons, List.pairwise_cons]
      constructor
      · rintro ⟨extended, accepted⟩
        obtain ⟨fits, room, accepted⟩ := insertAll_cons_eq_ok_iff.1 accepted
        obtain ⟨restFits, restMakesRoom, restRoom⟩ := ih.1 ⟨extended, accepted⟩
        have both := fun later listed =>
          (hasRoomFor_put_settled_iff room).1 (restRoom later listed)
        exact ⟨⟨fits, restFits⟩,
          ⟨fun later listed => (both later listed).1, restMakesRoom⟩, room,
          fun later listed => (both later listed).2⟩
      · rintro ⟨⟨fits, restFits⟩, ⟨makesRoom, restMakesRoom⟩, room, restRoom⟩
        obtain ⟨extended, accepted⟩ := ih.2 ⟨restFits, restMakesRoom, fun later listed =>
          (hasRoomFor_put_settled_iff room).2 ⟨makesRoom later listed, restRoom later listed⟩⟩
        exact ⟨extended, insertAll_cons_eq_ok_iff.2 ⟨fits, room, accepted⟩⟩

theorem get?_insertAll_of_not_mem (accepted : world.insertAll types = .ok extended)
    {name : String} (absent : name ∉ types.map TypeDecl.name) :
    extended.get? name = world.get? name := by
  induction types generalizing world with
  | nil =>
      cases accepted
      rfl
  | cons decl rest ih =>
      rw [List.map_cons, List.mem_cons, not_or] at absent
      obtain ⟨-, -, accepted⟩ := insertAll_cons_eq_ok_iff.1 accepted
      rw [ih accepted absent.2, get?_put, name_settled, if_neg absent.1]

theorem get?_insertAll_of_last {before after : List TypeDecl} {decl : TypeDecl}
    (accepted : world.insertAll (before ++ decl :: after) = .ok extended)
    (last : decl.name ∉ after.map TypeDecl.name) :
    extended.get? decl.name = some (settled decl) := by
  induction before generalizing world with
  | nil =>
      obtain ⟨-, -, accepted⟩ := insertAll_cons_eq_ok_iff.1 accepted
      rw [get?_insertAll_of_not_mem accepted last, get?_put, name_settled, if_pos rfl]
  | cons first rest ih =>
      obtain ⟨-, -, accepted⟩ := insertAll_cons_eq_ok_iff.1 accepted
      exact ih accepted

theorem get?_foldl_put_of_not_mem {name : String} (absent : name ∉ types.map TypeDecl.name) :
    (types.foldl put world).get? name = world.get? name := by
  induction types generalizing world with
  | nil => rfl
  | cons first rest ih =>
      rw [List.map_cons, List.mem_cons, not_or] at absent
      rw [List.foldl_cons, ih absent.2, get?_put, if_neg absent.1]

theorem get?_foldl_put_of_mem (nodup : (types.map TypeDecl.name).Nodup) {decl : TypeDecl}
    (listed : decl ∈ types) : (types.foldl put world).get? decl.name = some decl := by
  induction types generalizing world with
  | nil => cases listed
  | cons first rest ih =>
      rw [List.map_cons, List.nodup_cons] at nodup
      rw [List.foldl_cons]
      rcases List.mem_cons.1 listed with rfl | later
      · rw [get?_foldl_put_of_not_mem nodup.1, get?_put, if_pos rfl]
      · exact ih nodup.2 later

theorem nodup_platform_names : Platform.names.Nodup := by
  decide +kernel

theorem get?_platform_of_mem_declarations {stub : TypeDecl}
    (listed : stub ∈ Platform.declarations) : platform.get? stub.name = some stub :=
  get?_foldl_put_of_mem nodup_platform_names listed

theorem origin_of_mem_declarations : ∀ stub ∈ Platform.declarations, stub.origin ≠ .source := by
  decide +kernel

theorem isPlatformName_iff {name : String} :
    Platform.isPlatformName name = true ↔ name ∈ Platform.names :=
  List.contains_iff_mem

theorem isReplaceable_of_mem_declarations {stub : TypeDecl}
    (listed : stub ∈ Platform.declarations) : isReplaceable stub = true :=
  isReplaceable_iff.2 ⟨isPlatformName_iff.2 (List.mem_map_of_mem listed),
    origin_of_mem_declarations stub listed⟩

theorem mem_declarations_of_get?_platform {name : String} {stub : TypeDecl}
    (found : platform.get? name = some stub) : stub ∈ Platform.declarations :=
  mem_declarations_of_mem_types (Table.mem_values_iff.2 ⟨name, found⟩)

/-- Every type of the platform makes room. -/
theorem hasRoomFor_platform (decl : TypeDecl) : platform.HasRoomFor decl := fun _ found =>
  isReplaceable_of_mem_declarations (mem_declarations_of_get?_platform found)

theorem get?_platform_of_isPlatformName {name : String}
    (other : Platform.isPlatformName name = false) : platform.get? name = none := by
  cases found : platform.get? name with
  | none => rfl
  | some stub =>
      have listed : name ∈ Platform.names := by
        rw [← name_of_get? found]
        exact List.mem_map_of_mem (mem_declarations_of_get?_platform found)
      rw [isPlatformName_iff.2 listed] at other
      cases other

theorem isDeclaredBy_of_insertAll (accepted : platform.insertAll types = .ok extended) :
    extended.IsDeclaredBy types where
  last _ _ _ split last := by
    subst split
    exact get?_insertAll_of_last accepted last
  stub stub listed absent := by
    rw [get?_insertAll_of_not_mem accepted absent]
    exact get?_platform_of_mem_declarations listed
  only _ absent other := by
    rw [get?_insertAll_of_not_mem accepted absent]
    exact get?_platform_of_isPlatformName other

end Universe

namespace Round

variable {round : Round} {environment : Environment}

theorem environment_eq_ok_iff : round.environment = .ok environment ↔
    ∃ world, Universe.platform.insertAll round.types = .ok world ∧
      environment = ⟨world, round.options,
        .ofList (round.indices.map fun index => (index.name, index))⟩ := by
  rw [Round.environment, bind_eq_ok_iff]
  simp only [pure, Except.pure, Except.ok.injEq, eq_comm (b := environment)]

theorem exists_environment_iff : (∃ environment, round.environment = .ok environment) ↔
    (∀ decl ∈ round.types, decl.HasItsPackage) ∧ round.types.Pairwise TypeDecl.MakesRoomFor := by
  have room : ∀ decl ∈ round.types, Universe.platform.HasRoomFor decl :=
    fun decl _ => Universe.hasRoomFor_platform decl
  have accepted_iff := @Universe.exists_insertAll_iff Universe.platform round.types
  rw [and_iff_left room] at accepted_iff
  rw [← accepted_iff]
  constructor
  · rintro ⟨environment, accepted⟩
    obtain ⟨world, inserted, -⟩ := environment_eq_ok_iff.1 accepted
    exact ⟨world, inserted⟩
  · rintro ⟨world, inserted⟩
    exact ⟨_, environment_eq_ok_iff.2 ⟨world, inserted, rfl⟩⟩

/-- A round in which every declaration of a platform type is in the sources is accepted if every
package fits and no name is declared twice. -/
theorem exists_environment_iff_nodup (sources : ∀ decl ∈ round.types,
    Platform.isPlatformName decl.name = true → decl.origin = .source) :
    (∃ environment, round.environment = .ok environment) ↔
      (∀ decl ∈ round.types, decl.HasItsPackage) ∧ (round.types.map TypeDecl.name).Nodup := by
  rw [exists_environment_iff, List.Nodup, List.pairwise_map]
  refine and_congr_right fun _ => List.Pairwise.iff_of_mem fun listed _ => ?_
  constructor
  · intro makesRoom same
    obtain ⟨platform, notSource⟩ := makesRoom same
    exact notSource (sources _ listed platform)
  · exact fun differ same => absurd same differ

/-- A round is accepted if every package fits and every declaration makes room for those after it,
and then its universe has the last declaration of each name and the rest of the platform. -/
theorem isDeclaredBy_environment (round : Round) :
    ((∃ environment, round.environment = .ok environment) ↔
      (∀ decl ∈ round.types, decl.HasItsPackage) ∧
        round.types.Pairwise TypeDecl.MakesRoomFor) ∧
    ∀ environment, round.environment = .ok environment →
      environment.world.IsDeclaredBy round.types := by
  refine ⟨exists_environment_iff, fun environment accepted => ?_⟩
  obtain ⟨world, inserted, rfl⟩ := environment_eq_ok_iff.1 accepted
  exact Universe.isDeclaredBy_of_insertAll inserted

/-- A round that declares a platform type twice, with a superclass and without one. -/
def repeatedRound : Round :=
  { empty with types :=
    [((TypeDecl.ofName .classType "android.widget.Button").extending
        (.named "android.widget.TextView")).onClasspath,
      (TypeDecl.ofName .classType "android.widget.Button").onClasspath] }

/-- The round is accepted, and its first declaration is lost. -/
theorem exists_environment_repeatedRound :
    ¬(repeatedRound.types.map TypeDecl.name).Nodup ∧
      ∃ environment, repeatedRound.environment = .ok environment ∧
        ∃ decl ∈ repeatedRound.types,
          environment.world.get? decl.name ≠ some (Universe.settled decl) := by
  refine ⟨by decide +kernel, ?_⟩
  obtain ⟨environment, accepted, found⟩ : ∃ environment,
      repeatedRound.environment = .ok environment ∧
        (environment.world.get? "android.widget.Button").map TypeDecl.superclass = some none :=
    exists_ok_of_map_toOption (by decide +kernel)
  refine ⟨environment, accepted, _, List.mem_cons_self, fun same => ?_⟩
  have superclass_eq := found.symm.trans (congrArg (Option.map TypeDecl.superclass) same)
  revert superclass_eq
  decide +kernel

end Round
end Companion
