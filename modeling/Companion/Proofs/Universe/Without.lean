import Companion.CodeType.OfSource
import Companion.Proofs.Success
import Companion.Proofs.Universe.Hierarchy
import Companion.Round.Basic

/-!
# Universes without a class

A class that no other class mentions is met by no walk that starts elsewhere.  Every question about
the hierarchy of the other classes has the same answer in the universe without it, and a round that
declares it in addition differs by it alone.
-/

namespace Companion

namespace SourceType

mutual

/-- The names of the declared types in a type, at any depth. -/
def classNames : SourceType → List String
  | .declared name args => name :: classNamesAll args
  | .array component => classNames component
  | .typeVariable _ bound => classNames bound
  | .wildcard bound => classNames bound
  | .primitive _ | .void | .anyWildcard | .unresolved _ => []

/-- The names of the declared types in several types. -/
def classNamesAll : List SourceType → List String
  | [] => []
  | type :: rest => classNames type ++ classNamesAll rest

end

theorem classNames_upperBound : ∀ type : SourceType, type.upperBound.classNames = type.classNames
  | .typeVariable _ bound => by rw [upperBound, classNames, classNames_upperBound bound]
  | .primitive _ | .void | .declared _ _ | .array _ | .anyWildcard | .wildcard _
  | .unresolved _ => rfl

theorem ne_of_declaredName? {type : SourceType} {hidden name : String}
    (absent : hidden ∉ type.classNames) (declared : type.declaredName? = some name) :
    name ≠ hidden := by
  cases type with
  | declared other args =>
      cases declared
      rintro rfl
      exact absent List.mem_cons_self
  | _ => cases declared

end SourceType

/-- The types of a member: that of a field, or those in the signature of a method. -/
def Member.types (member : Member) : List SourceType :=
  match member.kind with
  | .field type => [type]
  | .method returnType parameters => returnType :: parameters

/-- The names of the declared types that a declaration mentions. -/
def TypeDecl.mentions (decl : TypeDecl) : List String :=
  (decl.superclass.toList ++ decl.interfaces ++ decl.members.flatMap Member.types).flatMap
    SourceType.classNames

namespace Universe

variable {world : Universe} {hidden : String}

/-- The universe without the class of a name. -/
def without (world : Universe) (hidden : String) : Universe :=
  ⟨world.table.without [hidden], fun entry listed =>
    world.named entry (List.mem_filter.1 listed).1⟩

theorem get?_without (world : Universe) (hidden name : String) :
    (world.without hidden).get? name = if name = hidden then none else world.get? name := by
  rw [get?, without, Table.get?_without]
  simp only [List.mem_singleton]
  rfl

theorem names_without (world : Universe) (hidden : String) :
    (world.without hidden).names = world.names.filter fun name => name ≠ hidden := by
  simp only [names, Table.keys, without, Table.without, List.mem_singleton, List.filter_map]
  rfl

theorem types_without (world : Universe) (hidden : String) :
    (world.without hidden).types = world.types.filter fun decl => decl.name ≠ hidden := by
  simp only [types, Table.values, without, Table.without, List.mem_singleton, List.filter_map]
  refine congrArg _ (List.filter_congr fun entry listed => ?_)
  rw [world.named entry listed]
  rfl

theorem sourceTypes_without (world : Universe) (hidden : String) :
    (world.without hidden).sourceTypes =
      world.sourceTypes.filter fun decl => decl.name ≠ hidden := by
  rw [sourceTypes, types_without, List.filter_filter, sourceTypes, List.filter_filter]
  exact List.filter_congr fun _ _ => Bool.and_comm _ _

theorem mem_sourceTypes_of_mem_annotated {marker : String} {site : Site}
    (listed : site ∈ world.annotated marker) : site.decl ∈ world.sourceTypes := by
  obtain ⟨decl, source, mapped⟩ := List.mem_flatMap.1 listed
  obtain ⟨member, -, rfl⟩ := List.mem_map.1 mapped
  exact source

/-- The members that carry an annotation are those of the other classes. -/
theorem annotated_without (world : Universe) (hidden marker : String) :
    (world.without hidden).annotated marker =
      (world.annotated marker).filter fun site => site.decl.name ≠ hidden := by
  rw [annotated, annotated, sourceTypes_without, List.filter_flatMap]
  induction world.sourceTypes with
  | nil => rfl
  | cons decl rest ih =>
      rw [List.flatMap_cons, ← ih, List.filter_map]
      by_cases here : decl.name = hidden <;> simp [here, Function.comp_def]

/-- Whether no other class mentions the class of a name. -/
def IsUnmentioned (world : Universe) (hidden : String) : Prop :=
  ∀ decl ∈ world.types, decl.name ≠ hidden → hidden ∉ decl.mentions

theorem lookup_without {type : SourceType} (absent : hidden ∉ type.classNames) :
    (world.without hidden).lookup type = world.lookup type := by
  rw [lookup, lookup]
  cases declared : type.declaredName? with
  | none => rfl
  | some name =>
      rw [Option.bind_some, Option.bind_some, get?_without,
        if_neg (SourceType.ne_of_declaredName? absent declared)]

theorem isInterface_without {type : SourceType} (absent : hidden ∉ type.classNames) :
    (world.without hidden).isInterface type = world.isInterface type := by
  rw [isInterface, isInterface, lookup_without]
  rwa [SourceType.classNames_upperBound]

theorem supertypes_without {name : String} (other : name ≠ hidden) :
    (world.without hidden).supertypes name = world.supertypes name := by
  rw [supertypes, supertypes, get?_without, if_neg other]

section

variable (unmentioned : world.IsUnmentioned hidden)
include unmentioned

theorem not_mem_classNames_of_supertypes {name : String} (other : name ≠ hidden) :
    ∀ type ∈ world.supertypes name, hidden ∉ type.classNames := by
  intro type listed mentioned
  rw [supertypes] at listed
  split at listed
  · rename_i decl found
    have named := name_of_get? found
    subst named
    refine unmentioned decl (Table.mem_values_iff.2 ⟨_, found⟩) other ?_
    exact List.mem_flatMap.2 ⟨type, List.mem_append_left _ listed, mentioned⟩
  · simp at listed

theorem not_mem_classNames_of_superclass {decl : TypeDecl}
    (known : world.get? decl.name = some decl) (other : decl.name ≠ hidden) {type : SourceType}
    (declared : decl.superclass = some type) : hidden ∉ type.classNames :=
  not_mem_classNames_of_supertypes unmentioned other type (by simp [supertypes, known, declared])

theorem superclassOf?_without {decl : TypeDecl} (known : world.get? decl.name = some decl)
    (other : decl.name ≠ hidden) :
    (world.without hidden).superclassOf? decl = world.superclassOf? decl := by
  rw [superclassOf?, superclassOf?]
  cases declared : decl.superclass with
  | none => rfl
  | some type =>
      exact lookup_without (not_mem_classNames_of_superclass unmentioned known other declared)

theorem name_ne_of_superclassOf? {decl superclass : TypeDecl}
    (known : world.get? decl.name = some decl) (other : decl.name ≠ hidden)
    (found : world.superclassOf? decl = some superclass) : superclass.name ≠ hidden := by
  obtain ⟨type, declared, found⟩ := Option.bind_eq_some_iff.1 found
  obtain ⟨name, named, found⟩ := Option.bind_eq_some_iff.1 found
  rw [name_of_get? found]
  exact SourceType.ne_of_declaredName?
    (not_mem_classNames_of_superclass unmentioned known other declared) named

theorem climb_without {left : List String} {decl : TypeDecl}
    (known : world.get? decl.name = some decl) (other : decl.name ≠ hidden) :
    (world.without hidden).climb (left.filter fun name => name ≠ hidden) decl =
      world.climb left decl := by
  -- the walk never stands at the hidden class, so it never takes its name off
  fun_induction climb world left decl with
  | case1 left decl top => rw [climb, superclassOf?_without unmentioned known other, top]
  | case2 left decl superclass found member ih =>
      have superclassOther := name_ne_of_superclassOf? unmentioned known other found
      rw [climb, superclassOf?_without unmentioned known other, found]
      simp only [List.mem_filter, member, superclassOther, ne_eq, not_false_eq_true, decide_true,
        and_self, if_true, List.erase_filter]
      rw [ih (get?_name_of_superclassOf? found) superclassOther]
  | case3 left decl superclass found absent =>
      rw [climb, superclassOf?_without unmentioned known other, found]
      simp [absent]

theorem superclassesOf_without {name : String} (other : name ≠ hidden) :
    (world.without hidden).superclassesOf name = world.superclassesOf name := by
  rw [superclassesOf, superclassesOf, get?_without, if_neg other]
  cases found : world.get? name with
  | none => rfl
  | some decl =>
      have named := name_of_get? found
      subst named
      simp only [Option.map_some, Option.getD_some, superclasses]
      rw [names_without, List.erase_filter, climb_without unmentioned found other]

theorem meets_without {spelling : String} {left : List String} {types : List SourceType}
    (absent : ∀ type ∈ types, hidden ∉ type.classNames) :
    (world.without hidden).meets spelling (left.filter fun name => name ≠ hidden) types =
      world.meets spelling left types := by
  fun_induction meets world spelling left types with
  | case1 left => rw [meets]
  | case2 left type rest spelled => rw [meets, if_pos spelled]
  | case3 left type rest spelled anonymous ih =>
      rw [meets, if_neg spelled, anonymous]
      exact ih fun other later => absent other (List.mem_cons_of_mem type later)
  | case4 left type rest spelled name declared member ih =>
      have other : name ≠ hidden :=
        SourceType.ne_of_declaredName? (absent type List.mem_cons_self) declared
      rw [meets, if_neg spelled, declared]
      simp only [List.mem_filter, member, other, ne_eq, not_false_eq_true, decide_true, and_self,
        if_true, List.erase_filter, supertypes_without other]
      refine ih fun above listed => ?_
      rcases List.mem_append.1 listed with supertype | later
      · exact not_mem_classNames_of_supertypes unmentioned other above supertype
      · exact absent above (List.mem_cons_of_mem type later)
  | case5 left type rest spelled name declared unlisted ih =>
      rw [meets, if_neg spelled, declared]
      simp only [List.mem_filter, unlisted, false_and, if_false]
      exact ih fun other later => absent other (List.mem_cons_of_mem type later)

theorem isSubtype_without {type : SourceType} (absent : hidden ∉ type.classNames)
    (spelling : String) :
    (world.without hidden).isSubtype type spelling = world.isSubtype type spelling := by
  rw [isSubtype, isSubtype, names_without]
  exact meets_without unmentioned (by simpa using absent)

end

theorem className_without {name : String} (other : name ≠ hidden) :
    (world.without hidden).className name = world.className name := by
  rw [className, className, get?_without, if_neg other]

mutual

theorem ofSource_without : ∀ {type : SourceType}, hidden ∉ type.classNames →
    CodeType.ofSource (world.without hidden) type = CodeType.ofSource world type
  | .declared name args, absent => by
    rw [SourceType.classNames, List.mem_cons, not_or] at absent
    rw [CodeType.ofSource, CodeType.ofSource, className_without (Ne.symm absent.1),
      ofSourceAll_without absent.2]
  | .array component, absent => by
    rw [SourceType.classNames] at absent
    rw [CodeType.ofSource, CodeType.ofSource, ofSource_without absent]
  | .typeVariable _ bound, absent => by
    rw [SourceType.classNames] at absent
    rw [CodeType.ofSource, CodeType.ofSource, ofSource_without absent]
  | .wildcard bound, absent => by
    rw [SourceType.classNames] at absent
    rw [CodeType.ofSource, CodeType.ofSource, ofSource_without absent]
  | .primitive _, _ => rfl
  | .void, _ => rfl
  | .anyWildcard, _ => rfl
  | .unresolved _, _ => rfl

theorem ofSourceAll_without : ∀ {types : List SourceType},
    hidden ∉ SourceType.classNamesAll types →
      CodeType.ofSourceAll (world.without hidden) types = CodeType.ofSourceAll world types
  | [], _ => rfl
  | type :: rest, absent => by
    rw [SourceType.classNamesAll, List.mem_append, not_or] at absent
    rw [CodeType.ofSourceAll, CodeType.ofSourceAll, ofSource_without absent.1,
      ofSourceAll_without absent.2]

end

theorem extends_of_without {child parent : String}
    (step : (world.without hidden).Extends child parent) : world.Extends child parent := by
  obtain ⟨decl, superclass, known, found, rfl⟩ := step
  have isKnown {name : String} {decl : TypeDecl}
      (known : (world.without hidden).get? name = some decl) : world.get? name = some decl := by
    rw [get?_without] at known
    split at known
    · cases known
    · exact known
  refine ⟨decl, superclass, isKnown known, ?_, rfl⟩
  obtain ⟨type, declared, found⟩ := Option.bind_eq_some_iff.1 found
  obtain ⟨name, named, found⟩ := Option.bind_eq_some_iff.1 found
  rw [superclassOf?, declared, Option.bind_some, lookup, named, Option.bind_some]
  exact isKnown found

theorem IsAcyclic.without (acyclic : world.IsAcyclic) : (world.without hidden).IsAcyclic :=
  fun name above => acyclic name (Relation.TransGen.mono (fun _ _ => extends_of_without) _ _ above)

theorem name_settled (decl : TypeDecl) : (settled decl).name = decl.name := by
  unfold settled
  split <;> rfl

theorem mentions_settled (decl : TypeDecl) : (settled decl).mentions = decl.mentions := by
  unfold settled
  split <;> rfl

theorem origin_settled (decl : TypeDecl) : (settled decl).origin = decl.origin := by
  unfold settled
  split <;> rfl

theorem eq_of_table_eq {other : Universe} (same : world.table = other.table) : world = other := by
  cases world
  cases other
  cases same
  rfl

theorem without_of_not_mem (absent : hidden ∉ world.names) : world.without hidden = world := by
  refine eq_of_table_eq (Table.without_of_not_mem fun name listed => ?_)
  rwa [List.mem_singleton.1 listed]

theorem put_without {decl : TypeDecl} (other : decl.name ≠ hidden) :
    (world.put decl).without hidden = (world.without hidden).put decl :=
  eq_of_table_eq (Table.without_insert_of_not_mem (by simpa using other) _ _)

theorem put_without_self (decl : TypeDecl) :
    (world.put decl).without decl.name = world.without decl.name :=
  eq_of_table_eq (Table.without_insert_of_mem (by simp) _ _)

theorem insert_eq_ok_iff {extended : Universe} {decl : TypeDecl} :
    world.insert decl = .ok extended ↔ packageFits decl = true ∧
      (∀ present, world.get? decl.name = some present → isReplaceable present = true) ∧
      extended = world.put (settled decl) := by
  rw [insert]
  cases fits : packageFits decl with
  | false => simp
  | true =>
      rw [if_pos rfl]
      cases found : world.get? decl.name with
      | none => simp [eq_comm (a := extended)]
      | some present =>
          cases replaceable : isReplaceable present with
          | false => simp [replaceable]
          | true => simp [replaceable, eq_comm (a := extended)]

theorem insert_without {extended : Universe} {decl : TypeDecl} (other : decl.name ≠ hidden)
    (accepted : world.insert decl = .ok extended) :
    (world.without hidden).insert decl = .ok (extended.without hidden) := by
  obtain ⟨fits, replaceable, rfl⟩ := insert_eq_ok_iff.1 accepted
  rw [put_without ((name_settled decl).symm ▸ other), insert_eq_ok_iff, get?_without,
    if_neg other]
  exact ⟨fits, replaceable, rfl⟩

/-- Leaving a class out of the declarations leaves it out of the universe. -/
theorem insertAll_without {extended : Universe} {types : List TypeDecl}
    (accepted : world.insertAll types = .ok extended) :
    (world.without hidden).insertAll (types.filter fun decl => decl.name ≠ hidden) =
      .ok (extended.without hidden) := by
  induction types generalizing world with
  | nil =>
      cases accepted
      rfl
  | cons decl rest ih =>
      obtain ⟨next, inserted, accepted⟩ := exists_ok_of_bind accepted
      by_cases here : decl.name = hidden
      · subst here
        obtain ⟨-, -, rfl⟩ := insert_eq_ok_iff.1 inserted
        have same := @put_without_self world (settled decl)
        rw [name_settled] at same
        simpa [same] using ih accepted
      · rw [List.filter_cons_of_pos (by simpa using here), insertAll, insert_without here inserted]
        exact ih accepted

theorem mem_types_put {decl other : TypeDecl} (listed : other ∈ (world.put decl).types) :
    other ∈ world.types ∨ other = decl := by
  obtain ⟨entry, inserted, rfl⟩ := List.mem_map.1 listed
  have inserted : entry ∈ Table.put decl.name decl world.table.entries := inserted
  rcases Table.mem_put inserted with rfl | old
  · exact .inr rfl
  · exact .inl (List.mem_map_of_mem old)

theorem mem_types_insertAll {extended : Universe} {types : List TypeDecl}
    (accepted : world.insertAll types = .ok extended) {decl : TypeDecl}
    (listed : decl ∈ extended.types) :
    decl ∈ world.types ∨ ∃ other ∈ types, decl = settled other := by
  induction types generalizing world with
  | nil =>
      cases accepted
      exact .inl listed
  | cons first rest ih =>
      obtain ⟨next, inserted, accepted⟩ := exists_ok_of_bind accepted
      rcases ih accepted with old | ⟨other, later, rfl⟩
      · obtain ⟨-, -, rfl⟩ := insert_eq_ok_iff.1 inserted
        rcases mem_types_put old with old | rfl
        · exact .inl old
        · exact .inr ⟨first, List.mem_cons_self, rfl⟩
      · exact .inr ⟨other, List.mem_cons_of_mem first later, rfl⟩

theorem mem_declarations_of_mem_types {decl : TypeDecl} (listed : decl ∈ platform.types) :
    decl ∈ Platform.declarations := by
  have mem_foldl (types : List TypeDecl) : ∀ {world : Universe},
      decl ∈ (types.foldl put world).types → decl ∈ world.types ∨ decl ∈ types := by
    induction types with
    | nil => exact fun listed => .inl listed
    | cons first rest ih =>
        intro world listed
        rcases ih listed with old | later
        · rcases mem_types_put old with old | rfl
          · exact .inl old
          · exact .inr List.mem_cons_self
        · exact .inr (List.mem_cons_of_mem first later)
  exact (mem_foldl _ listed).resolve_left (by simp [types, Table.values, empty, Table.empty])

theorem platform_without (other : Platform.isPlatformName hidden = false) :
    platform.without hidden = platform := by
  refine without_of_not_mem fun listed => ?_
  obtain ⟨decl, found⟩ := Table.mem_keys_iff.1 listed
  have stub := mem_declarations_of_mem_types (Table.mem_values_iff.2 ⟨hidden, found⟩)
  have named : hidden ∈ Platform.names :=
    name_of_get? found ▸ List.mem_map_of_mem stub
  rw [Platform.isPlatformName, List.contains_iff_mem.2 named] at other
  cases other

end Universe

theorem Platform.origin_of_mem : ∀ decl ∈ declarations, decl.origin = .classpath := by
  decide +kernel

/-- The classes of the platform mention one another only. -/
theorem Platform.isPlatformName_of_mentions : ∀ decl ∈ declarations, ∀ name ∈ decl.mentions,
    isPlatformName name = true := by
  decide +kernel

/-- The environment without the class of a name. -/
def Environment.without (environment : Environment) (hidden : String) : Environment :=
  { environment with world := environment.world.without hidden }

/-- Whether a class is alone in its package among the sources, and no other class mentions it. -/
structure Universe.IsAlone (world : Universe) (hidden package : String) : Prop where
  /-- No other class mentions it. -/
  unmentioned : world.IsUnmentioned hidden
  /-- It is the only class of its package in the sources. -/
  package : ∀ decl ∈ world.sourceTypes, decl.package = package ↔ decl.name = hidden

/-- Whether a round declares one class more than another one: a new class that stands in for none
of the platform, in a package of its own, and which no declaration of the other round mentions. -/
structure Round.Adds (round grown : Round) (decl : TypeDecl) : Prop where
  /-- The declarations around it are the same. -/
  types : ∃ before after, round.types = before ++ after ∧ grown.types = before ++ decl :: after
  /-- So are the options. -/
  options : grown.options = round.options
  /-- So are the indices. -/
  indices : grown.indices = round.indices
  /-- No other class has its name. -/
  isNew : ∀ other ∈ round.types, other.name ≠ decl.name
  /-- No class of the platform has its name. -/
  notPlatform : Platform.isPlatformName decl.name = false
  /-- No other class in the sources has its package. -/
  package : ∀ other ∈ round.types, other.origin = .source →
    (Universe.settled other).package ≠ (Universe.settled decl).package
  /-- No other declaration mentions it. -/
  unmentioned : ∀ other ∈ round.types, decl.name ∉ other.mentions

namespace Round.Adds

variable {round grown : Round} {decl : TypeDecl} {extended : Environment}

theorem mem_types (adds : round.Adds grown decl) {other : TypeDecl} (listed : other ∈ grown.types) :
    other = decl ∨ other ∈ round.types := by
  obtain ⟨before, after, types_eq, grown_eq⟩ := adds.types
  rw [grown_eq, List.mem_append, List.mem_cons] at listed
  rw [types_eq, List.mem_append]
  exact or_left_comm.1 listed

theorem filter_types (adds : round.Adds grown decl) :
    grown.types.filter (fun other => other.name ≠ decl.name) = round.types := by
  have isNew : ∀ other ∈ round.types, decide (other.name ≠ decl.name) = true :=
    fun other listed => decide_eq_true (adds.isNew other listed)
  obtain ⟨before, after, types_eq, grown_eq⟩ := adds.types
  rw [grown_eq, List.filter_append, List.filter_cons_of_neg (by simp), ← List.filter_append,
    ← types_eq, List.filter_eq_self.2 isNew]

/-- The environment of the other round is the one without the class. -/
theorem environment_eq (adds : round.Adds grown decl)
    (accepted : grown.environment = .ok extended) :
    round.environment = .ok (extended.without decl.name) := by
  obtain ⟨world, inserted, accepted⟩ := exists_ok_of_bind accepted
  cases accepted
  have others := @Universe.insertAll_without _ decl.name _ _ inserted
  rw [adds.filter_types, Universe.platform_without adds.notPlatform] at others
  rw [environment, others, adds.options, adds.indices]
  rfl

/-- In the environment of the larger round the class stands alone. -/
theorem isAlone (adds : round.Adds grown decl) (accepted : grown.environment = .ok extended) :
    extended.world.IsAlone decl.name (Universe.settled decl).package := by
  obtain ⟨world, inserted, accepted⟩ := exists_ok_of_bind accepted
  cases accepted
  constructor
  · intro other listed otherName mentioned
    rcases Universe.mem_types_insertAll inserted listed with stub | ⟨declared, declaredIn, rfl⟩
    · have known := Platform.isPlatformName_of_mentions other
        (Universe.mem_declarations_of_mem_types stub) _ mentioned
      rw [adds.notPlatform] at known
      cases known
    · rw [Universe.name_settled] at otherName
      rw [Universe.mentions_settled] at mentioned
      rcases adds.mem_types declaredIn with rfl | present
      · exact otherName rfl
      · exact adds.unmentioned declared present mentioned
  · intro other listed
    obtain ⟨listed, source⟩ := List.mem_filter.1 listed
    have source : other.origin = .source := of_decide_eq_true source
    rcases Universe.mem_types_insertAll inserted listed with stub | ⟨declared, declaredIn, rfl⟩
    · have compiled := Platform.origin_of_mem other
        (Universe.mem_declarations_of_mem_types stub)
      rw [source] at compiled
      cases compiled
    · rw [Universe.name_settled]
      rw [Universe.origin_settled] at source
      rcases adds.mem_types declaredIn with rfl | present
      · exact iff_of_true rfl rfl
      · exact iff_of_false (adds.package declared present source) (adds.isNew declared present)

end Round.Adds
end Companion
