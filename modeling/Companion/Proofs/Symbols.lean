import Companion.Proofs.Success
import Companion.Proofs.Table
import Companion.SymbolTable

/-!
# Ids and the constants they were written as

An annotation carries the number of a constant, and the symbol table of the round turns the number
back into the constant.  When the constants that a package mentions and their numbers correspond one
to one, and the indices that are known agree with what was written, no number is taken for another
constant, whatever else the indices list and whatever other packages mention.
-/

namespace Companion

/-- Whether a class is nested in another one, at any depth. -/
inductive SourceClass.IsNestedIn (inner : SourceClass) : SourceClass → Prop where
  | child {outer : SourceClass} (member : inner ∈ outer.nested) : IsNestedIn inner outer
  | deeper {middle outer : SourceClass} (member : middle ∈ outer.nested)
    (nested : IsNestedIn inner middle) : IsNestedIn inner outer

/-- Whether an index lists a constant of a category as an integer. -/
def IndexForm.Lists (category name : String) (value : Int32) : IndexForm → Prop
  | .source tree => ∃ inner : SourceClass, inner.IsNestedIn tree ∧ inner.name = category ∧
      ∃ field ∈ inner.fields, field.name = name ∧ field.type = "int" ∧ field.intValue? = some value
  | .compiled classes => ∃ compiled ∈ classes, compiled.name = category ∧
      ∃ member ∈ compiled.members, member.name = name ∧ member.constant = some value

namespace SourceClass

variable {entry : IndexEntry}

theorem mem_entries_iff {tree : SourceClass} :
    entry ∈ tree.entries ↔ tree.name ∈ boundCategories ∧ tree.name = entry.symbol.category ∧
      ∃ field ∈ tree.fields, field.name = entry.symbol.member ∧ field.type = "int" ∧
        field.intValue? = some entry.value := by
  obtain ⟨⟨category, name⟩, value⟩ := entry
  rw [entries]
  split
  · rename_i isBound
    simp only [List.mem_filterMap, List.mem_filter, Option.map_eq_some_iff, decide_eq_true_eq,
      IndexEntry.mk.injEq, Symbol.mk.injEq, isBound, true_and]
    constructor
    · rintro ⟨field, ⟨listed, isInt⟩, _, value_eq, ⟨rfl, rfl⟩, rfl⟩
      exact ⟨rfl, field, listed, rfl, isInt, value_eq⟩
    · rintro ⟨rfl, field, listed, rfl, isInt, value_eq⟩
      exact ⟨field, ⟨listed, isInt⟩, value, value_eq, ⟨rfl, rfl⟩, rfl⟩
  · rename_i unbound
    simp [unbound]

mutual

theorem mem_nestedEntries_iff : ∀ tree : SourceClass, entry ∈ nestedEntries tree ↔
    ∃ inner : SourceClass, inner.IsNestedIn tree ∧ entry ∈ inner.entries
  | ⟨name, modifiers, fields, nested⟩ => by
    rw [nestedEntries, mem_nestedEntriesAll_iff nested]
    constructor
    · rintro ⟨tree, member, listed | ⟨inner, isNested, listed⟩⟩
      · exact ⟨tree, .child member, listed⟩
      · exact ⟨inner, .deeper member isNested, listed⟩
    · rintro ⟨inner, isNested, listed⟩
      cases isNested with
      | child member => exact ⟨inner, member, .inl listed⟩
      | deeper member isNested => exact ⟨_, member, .inr ⟨inner, isNested, listed⟩⟩

theorem mem_nestedEntriesAll_iff : ∀ trees : List SourceClass, entry ∈ nestedEntriesAll trees ↔
    ∃ tree ∈ trees, entry ∈ tree.entries ∨
      ∃ inner : SourceClass, inner.IsNestedIn tree ∧ entry ∈ inner.entries
  | [] => by simp [nestedEntriesAll]
  | tree :: rest => by
    simp only [nestedEntriesAll, List.mem_append, mem_nestedEntries_iff tree,
      mem_nestedEntriesAll_iff rest, List.mem_cons, or_and_right, exists_or, exists_eq_left]

end

end SourceClass

theorem CompiledClass.mem_entries_iff {entry : IndexEntry} {compiled : CompiledClass} :
    entry ∈ compiled.entries ↔ compiled.name ∈ boundCategories ∧
      compiled.name = entry.symbol.category ∧ ∃ member ∈ compiled.members,
        member.name = entry.symbol.member ∧ member.constant = some entry.value := by
  obtain ⟨⟨category, name⟩, value⟩ := entry
  rw [entries]
  split
  · rename_i isBound
    simp only [List.mem_filterMap, Option.map_eq_some_iff, IndexEntry.mk.injEq, Symbol.mk.injEq,
      isBound, true_and]
    constructor
    · rintro ⟨member, listed, _, value_eq, ⟨rfl, rfl⟩, rfl⟩
      exact ⟨rfl, member, listed, rfl, value_eq⟩
    · rintro ⟨rfl, member, listed, rfl, value_eq⟩
      exact ⟨member, listed, value, value_eq, ⟨rfl, rfl⟩, rfl⟩
  · rename_i unbound
    simp [unbound]

/-- The entries of an index are the constants that it lists under the categories of resources. -/
theorem IndexForm.mem_entries_iff {form : IndexForm} {entry : IndexEntry} :
    entry ∈ form.entries ↔ entry.symbol.category ∈ boundCategories ∧
      form.Lists entry.symbol.category entry.symbol.member entry.value := by
  cases form with
  | source tree =>
      rw [entries, SourceClass.mem_nestedEntries_iff, Lists]
      simp only [SourceClass.mem_entries_iff]
      constructor
      · rintro ⟨inner, isNested, isBound, name_eq, listed⟩
        exact ⟨name_eq ▸ isBound, inner, isNested, name_eq, listed⟩
      · rintro ⟨isBound, inner, isNested, name_eq, listed⟩
        exact ⟨inner, isNested, name_eq ▸ isBound, name_eq, listed⟩
  | compiled classes =>
      rw [entries, List.mem_flatMap, Lists]
      simp only [CompiledClass.mem_entries_iff]
      constructor
      · rintro ⟨compiled, member, isBound, name_eq, listed⟩
        exact ⟨name_eq ▸ isBound, compiled, member, name_eq, listed⟩
      · rintro ⟨isBound, compiled, member, name_eq, listed⟩
        exact ⟨compiled, member, name_eq ▸ isBound, name_eq, listed⟩

namespace SymbolTable

/-- Whether an id on a member in a package was written as a constant of an index.  Of several
annotations with the simple name of one marker a member has the first. -/
def IsWritten (world : Universe) (markers : List String) (package : String)
    (parts : IdValue.SymbolParts) (value : Int32) : Prop :=
  ∃ decl ∈ world.sourceTypes, decl.package = package ∧ ∃ member ∈ decl.members,
    ∃ marker ∈ markers, ∃ use, member.use? marker = some use ∧ ∃ key, ∃ id ∈ use.ids key,
      id.symbolParts? = some parts ∧ id.value = value

theorem mem_mentionsOf_iff {package : String} {use : AnnotationUse} {mention : Mention} :
    mention ∈ mentionsOf package use ↔ mention.package = package ∧ ∃ key, ∃ id ∈ use.ids key,
      id.symbolParts? = some mention.parts ∧ id.value = mention.value := by
  obtain ⟨_, parts, value⟩ := mention
  simp only [mentionsOf, List.mem_flatMap, List.mem_filterMap, Option.map_eq_some_iff,
    Mention.mk.injEq]
  constructor
  · rintro ⟨key, -, id, listed, _, parts_eq, rfl, rfl, rfl⟩
    exact ⟨rfl, key, id, listed, parts_eq, rfl⟩
  · rintro ⟨rfl, key, id, listed, parts_eq, rfl⟩
    have present : key ∈ use.values.keys := by
      refine Decidable.byContradiction fun absent => ?_
      simp [AnnotationUse.ids, Table.get?_eq_none_iff.2 absent] at listed
    exact ⟨key, present, id, listed, parts, parts_eq, rfl, rfl, rfl⟩

theorem mem_mentions_iff {world : Universe} {markers : List String} {mention : Mention} :
    mention ∈ mentions world markers ↔
      IsWritten world markers mention.package mention.parts mention.value := by
  simp only [mentions, List.mem_flatMap, Universe.annotated, List.mem_map, List.mem_filter]
  constructor
  · rintro ⟨marker, isMarker, _, ⟨decl, isSource, member, ⟨listed, -⟩, rfl⟩, mentioned⟩
    cases use_eq : member.use? marker with
    | none => simp [use_eq] at mentioned
    | some use =>
        simp only [use_eq, Option.map_some, Option.getD_some, mem_mentionsOf_iff] at mentioned
        exact ⟨decl, isSource, mentioned.1.symm, member, listed, marker, isMarker, use, use_eq,
          mentioned.2⟩
  · rintro ⟨decl, isSource, package_eq, member, listed, marker, isMarker, use, use_eq, written⟩
    refine ⟨marker, isMarker, ⟨decl, member⟩, ⟨decl, isSource, member, ⟨listed, ?_⟩, rfl⟩, ?_⟩
    · simp [Member.carries, use_eq]
    · simp only [use_eq, Option.map_some, Option.getD_some, mem_mentionsOf_iff]
      exact ⟨package_eq.symm, written⟩

/-- The value under which a package mentions a constant of an index type. -/
def mentioned? (table : MentionTable) (package indexType : String) (symbol : Symbol) :
    Option Int32 :=
  ((table.get? package).bind fun indices => indices.get? indexType).bind fun references =>
    references.get? symbol

theorem mentioned?_addMention (table : MentionTable) (mention : Mention)
    (package indexType : String) (symbol : Symbol) :
    mentioned? (addMention table mention) package indexType symbol =
      if package = mention.package ∧ indexType = mention.parts.indexType ∧
          symbol = ⟨mention.parts.category, mention.parts.member⟩ then some mention.value
      else mentioned? table package indexType symbol := by
  simp only [mentioned?, addMention, Table.get?_insert]
  by_cases samePackage : package = mention.package
  · subst samePackage
    by_cases sameIndex : indexType = mention.parts.indexType
    · subst sameIndex
      by_cases same : symbol = ⟨mention.parts.category, mention.parts.member⟩
      · simp [same]
      · cases table.get? mention.package with
        | none => simp [same, Table.get?_empty]
        | some indices =>
            cases found : indices.get? mention.parts.indexType <;> simp [same, found]
    · cases table.get? mention.package <;> simp [sameIndex]
  · simp [samePackage]

/-- Grouped values are mentioned. -/
theorem mem_of_mentioned?_foldl {list : List Mention} {table : MentionTable}
    {package indexType : String} {symbol : Symbol} {value : Int32}
    (found : mentioned? (list.foldl addMention table) package indexType symbol = some value) :
    mentioned? table package indexType symbol = some value ∨
      ⟨package, ⟨indexType, symbol.category, symbol.member⟩, value⟩ ∈ list := by
  induction list generalizing table with
  | nil => exact .inl found
  | cons mention rest ih =>
      rcases ih found with old | later
      · rw [mentioned?_addMention] at old
        split at old
        · rename_i same
          obtain ⟨rfl, rfl, rfl⟩ := same
          cases old
          exact .inr List.mem_cons_self
        · exact .inl old
      · exact .inr (List.mem_cons_of_mem mention later)

/-- What is mentioned has a grouped value, if only that of a later mention. -/
theorem isSome_mentioned?_foldl {list : List Mention} {table : MentionTable}
    {package indexType : String} {symbol : Symbol}
    (mentioned : (mentioned? table package indexType symbol).isSome = true ∨
      ∃ value, ⟨package, ⟨indexType, symbol.category, symbol.member⟩, value⟩ ∈ list) :
    (mentioned? (list.foldl addMention table) package indexType symbol).isSome = true := by
  induction list generalizing table with
  | nil => simpa using mentioned
  | cons mention rest ih =>
      refine ih ?_
      rw [mentioned?_addMention]
      by_cases here : package = mention.package ∧ indexType = mention.parts.indexType ∧
          symbol = ⟨mention.parts.category, mention.parts.member⟩
      · simp [here]
      · rw [if_neg here]
        refine mentioned.imp_right fun ⟨value, listed⟩ => ⟨value, ?_⟩
        refine (List.mem_cons.1 listed).resolve_left fun same => here ?_
        simp [← same]

/-! ## What is recorded -/

/-- What is recorded for the constants of one index type that a package mentions. -/
def recordings (environment : Environment) (package indexType : String) (references : References) :
    List (SymbolKey × ResourceId) :=
  match environment.index? indexType with
  | some index => (index.form.entries.filter fun entry => references.contains entry.symbol).map
      fun entry => (⟨package, entry.value⟩, entry.reference index.package)
  | none => references.entries.map fun (symbol, value) =>
      (⟨package, value⟩, (⟨symbol, value⟩ : IndexEntry).reference (packageOf indexType))

/-- What is recorded in a round, in order. -/
def allRecordings (environment : Environment) (markers : List String) :
    List (SymbolKey × ResourceId) :=
  ((mentions environment.world markers).foldl addMention .empty).entries.flatMap
    fun (package, indices) => indices.entries.flatMap fun (indexType, references) =>
      recordings environment package indexType references

/-- The table with some ids recorded one after the other. -/
def recordEach (symbols : SymbolTable) (list : List (SymbolKey × ResourceId)) : SymbolTable :=
  list.foldl (fun symbols (key, id) => symbols.record key id) symbols

theorem register_eq (environment : Environment) (symbols : SymbolTable)
    (package indexType : String) (references : References) :
    register environment symbols package indexType references =
      symbols.recordEach (recordings environment package indexType references) := by
  unfold register recordings
  cases environment.index? indexType with
  | none =>
      simp only [registerSymbols, recordAll, recordEach, List.foldl_map]
  | some index => simp only [registerIndex, recordAll, recordEach, List.foldl_map]

theorem ofRound_eq (environment : Environment) (markers : List String) :
    ofRound environment markers = recordEach empty (allRecordings environment markers) := by
  simp only [ofRound, allRecordings, register_eq, recordEach, List.foldl_flatMap]

/-- Of several ids recorded for a key the first is kept. -/
theorem get?_recordEach (symbols : SymbolTable) (list : List (SymbolKey × ResourceId))
    (key : SymbolKey) :
    (symbols.recordEach list).ids.get? key = (symbols.ids.get? key).or (list.lookup key) := by
  induction list generalizing symbols with
  | nil => simp [recordEach]
  | cons entry rest ih =>
      rw [recordEach, List.foldl_cons, ← recordEach, ih, List.lookup_cons]
      simp only [record, Table.get?_insertIfNew]
      by_cases same : key = entry.1
      · simp [same]
      · simp [same, beq_eq_false_iff_ne.2 same]

/-- Keeping an answer changes no answer. -/
theorem idOf_remember (symbols : SymbolTable) (key other : SymbolKey) :
    (symbols.remember key).idOf other = symbols.idOf other := by
  rw [idOf, remember, record, Table.get?_insertIfNew, idOf, idOf]
  by_cases same : other = key
  · subst same
    cases symbols.ids.get? other <;> simp
  · simp [same]

theorem idOf_foldl_remember (symbols : SymbolTable) (earlier : List SymbolKey)
    (key : SymbolKey) : (earlier.foldl remember symbols).idOf key = symbols.idOf key := by
  induction earlier generalizing symbols with
  | nil => rfl
  | cons first rest ih => rw [List.foldl_cons, ih, idOf_remember]

theorem mem_allRecordings_iff {environment : Environment} {markers : List String}
    {recording : SymbolKey × ResourceId} :
    recording ∈ allRecordings environment markers ↔ ∃ package indices indexType references,
      ((mentions environment.world markers).foldl addMention .empty).get? package = some indices ∧
        indices.get? indexType = some references ∧
        recording ∈ recordings environment package indexType references := by
  simp only [allRecordings, List.mem_flatMap, Prod.exists, Table.get?_eq_some_iff]
  constructor
  · rintro ⟨package, indices, present, indexType, references, listed, member⟩
    exact ⟨package, indices, indexType, references, present, listed, member⟩
  · rintro ⟨package, indices, indexType, references, present, listed, member⟩
    exact ⟨package, indices, present, indexType, references, listed, member⟩

theorem value_of_mem_allRecordings {environment : Environment} {markers : List String}
    {recording : SymbolKey × ResourceId}
    (recorded : recording ∈ allRecordings environment markers) :
    recording.2.value = recording.1.value := by
  obtain ⟨package, indices, indexType, references, -, -, member⟩ :=
    mem_allRecordings_iff.1 recorded
  unfold recordings at member
  split at member
  · obtain ⟨entry, -, rfl⟩ := List.mem_map.1 member
    rfl
  · obtain ⟨⟨symbol, value⟩, -, rfl⟩ := List.mem_map.1 member
    rfl

/-- A number stands for an id with that number, whether it was written as a constant or not. -/
theorem value_idOf_ofRound (environment : Environment) (markers : List String)
    (key : SymbolKey) : ((ofRound environment markers).idOf key).value = key.value := by
  rw [idOf, ofRound_eq, get?_recordEach]
  cases found : (allRecordings environment markers).lookup key with
  | none => simp [empty, ResourceId.value]
  | some id =>
      obtain ⟨before, after, list_eq, -⟩ := List.lookup_eq_some_iff.1 found
      have recorded : (key, id) ∈ allRecordings environment markers := by simp [list_eq]
      simpa [empty] using value_of_mem_allRecordings recorded

/-- The constant of an id as a reference into the primary index of the package of its index. -/
def reference (parts : IdValue.SymbolParts) (value : Int32) : ResourceId :=
  .reference ((primaryIndex (packageOf parts.indexType)).nested parts.category) parts.member value

/-- Whether what a package mentions is consistent, and known indices agree with it. -/
structure IsFaithful (environment : Environment) (markers : List String) (package : String) :
    Prop where
  /-- Constants and numbers correspond one to one; indices of one package are not told apart. -/
  oneToOne : ∀ parts value otherParts other,
    IsWritten environment.world markers package parts value →
    IsWritten environment.world markers package otherParts other →
    (value = other ↔ packageOf parts.indexType = packageOf otherParts.indexType ∧
      parts.category = otherParts.category ∧ parts.member = otherParts.member)
  /-- Each constant is of a category that can be bound. -/
  bound : ∀ parts value, IsWritten environment.world markers package parts value →
    parts.category ∈ boundCategories
  /-- A known index lists each constant with the number that was written, and with no other. -/
  listed : ∀ parts value, IsWritten environment.world markers package parts value →
    ∀ index, environment.index? parts.indexType = some index →
      ∀ other, index.form.Lists parts.category parts.member other ↔ other = value

section

variable {round : Round} {environment : Environment} {markers : List String} {package : String}

theorem name_of_index? (accepted : round.environment = .ok environment) {name : String}
    {index : ResourceIndex} (found : environment.index? name = some index) : index.name = name := by
  obtain ⟨world, -, accepted⟩ := exists_ok_of_bind accepted
  cases accepted
  obtain ⟨listed, -, named⟩ := List.mem_map.1 (Table.mem_of_get?_ofList found)
  cases named
  rfl

theorem isWritten_of_grouped {owner indexType : String} {indices : Table String References}
    {references : References}
    (present : ((mentions environment.world markers).foldl addMention .empty).get? owner =
      some indices) (found : indices.get? indexType = some references) {symbol : Symbol}
    {value : Int32} (mentioned : references.get? symbol = some value) :
    IsWritten environment.world markers owner ⟨indexType, symbol.category, symbol.member⟩
      value := by
  have grouped : mentioned? ((mentions environment.world markers).foldl addMention .empty) owner
      indexType symbol = some value := by
    simp [mentioned?, present, found, mentioned]
  exact mem_mentions_iff.1 ((mem_of_mentioned?_foldl grouped).resolve_left (by simp [mentioned?]))

theorem exists_grouped_of_isWritten {owner : String} {parts : IdValue.SymbolParts} {value : Int32}
    (isWritten : IsWritten environment.world markers owner parts value) :
    ∃ indices references last,
      ((mentions environment.world markers).foldl addMention .empty).get? owner = some indices ∧
        indices.get? parts.indexType = some references ∧
        references.get? ⟨parts.category, parts.member⟩ = some last := by
  have listed : ⟨owner, parts, value⟩ ∈ mentions environment.world markers :=
    mem_mentions_iff.2 isWritten
  have grouped : (mentioned? ((mentions environment.world markers).foldl addMention .empty) owner
      parts.indexType ⟨parts.category, parts.member⟩).isSome = true :=
    isSome_mentioned?_foldl (.inr ⟨value, listed⟩)
  obtain ⟨last, grouped⟩ := Option.isSome_iff_exists.1 grouped
  obtain ⟨references, found, mentioned⟩ := Option.bind_eq_some_iff.1 grouped
  obtain ⟨indices, present, found⟩ := Option.bind_eq_some_iff.1 found
  exact ⟨indices, references, last, present, found, mentioned⟩

/-- What is recorded for a package was written in it. -/
theorem exists_isWritten_of_recorded (accepted : round.environment = .ok environment)
    (faithful : IsFaithful environment markers package) {value : Int32} {id : ResourceId}
    (recorded : (⟨package, value⟩, id) ∈ allRecordings environment markers) :
    ∃ parts, IsWritten environment.world markers package parts value ∧
      id = reference parts value := by
  obtain ⟨owner, indices, indexType, references, present, found, member⟩ :=
    mem_allRecordings_iff.1 recorded
  unfold recordings at member
  split at member
  · rename_i index known
    obtain ⟨entry, listed, recording_eq⟩ := List.mem_map.1 member
    simp only [Prod.mk.injEq, SymbolKey.mk.injEq] at recording_eq
    obtain ⟨⟨rfl, rfl⟩, rfl⟩ := recording_eq
    obtain ⟨isEntry, isMentioned⟩ := List.mem_filter.1 listed
    obtain ⟨last, mentioned⟩ := Table.mem_keys_iff.1 (Table.contains_iff.1 isMentioned)
    have isWritten := isWritten_of_grouped present found mentioned
    have value_eq : entry.value = last :=
      (faithful.listed _ _ isWritten index known entry.value).1
        (IndexForm.mem_entries_iff.1 isEntry).2
    refine ⟨_, value_eq ▸ isWritten, ?_⟩
    rw [IndexEntry.reference, ResourceIndex.package, name_of_index? accepted known]
    rfl
  · obtain ⟨⟨symbol, written⟩, listed, recording_eq⟩ := List.mem_map.1 member
    simp only [Prod.mk.injEq, SymbolKey.mk.injEq] at recording_eq
    obtain ⟨⟨rfl, rfl⟩, rfl⟩ := recording_eq
    exact ⟨_, isWritten_of_grouped present found (Table.get?_eq_some_iff.2 listed), rfl⟩

/-- For each number that is written in a package something is recorded. -/
theorem exists_recorded_of_isWritten (faithful : IsFaithful environment markers package)
    {parts : IdValue.SymbolParts} {value : Int32}
    (isWritten : IsWritten environment.world markers package parts value) :
    ∃ id, (⟨package, value⟩, id) ∈ allRecordings environment markers := by
  obtain ⟨indices, references, last, present, found, mentioned⟩ :=
    exists_grouped_of_isWritten isWritten
  -- The group holds the last value written for the constant, which is the same as any other.
  obtain rfl : value = last :=
    (faithful.oneToOne _ _ _ _ isWritten (isWritten_of_grouped present found mentioned)).2
      ⟨rfl, rfl, rfl⟩
  suffices recorded : ∃ id, (⟨package, value⟩, id) ∈
      recordings environment package parts.indexType references by
    obtain ⟨id, recorded⟩ := recorded
    exact ⟨id, mem_allRecordings_iff.2 ⟨_, _, _, _, present, found, recorded⟩⟩
  cases known : environment.index? parts.indexType with
  | none =>
      simp only [recordings, known]
      exact ⟨_, List.mem_map.2 ⟨_, Table.get?_eq_some_iff.1 mentioned, rfl⟩⟩
  | some index =>
      simp only [recordings, known]
      refine ⟨_, List.mem_map.2 ⟨⟨⟨parts.category, parts.member⟩, value⟩, List.mem_filter.2
        ⟨IndexForm.mem_entries_iff.2 ⟨faithful.bound _ _ isWritten, ?_⟩, ?_⟩, rfl⟩⟩
      · exact (faithful.listed _ _ isWritten index known value).2 rfl
      · exact Table.contains_iff.2 (Table.mem_keys_of_get? mentioned)

/-- In a package that is consistent, a number stands for the constant that it was written as, and
for itself when it was written as none.  Earlier questions do not change the answer. -/
theorem idOf_of_isFaithful (accepted : round.environment = .ok environment)
    (faithful : IsFaithful environment markers package) (earlier : List SymbolKey) :
    (∀ parts value, IsWritten environment.world markers package parts value →
      (earlier.foldl remember (ofRound environment markers)).idOf ⟨package, value⟩ =
        .reference ((primaryIndex (packageOf parts.indexType)).nested parts.category) parts.member
          value) ∧
    ∀ value, (∀ parts, ¬IsWritten environment.world markers package parts value) →
      (earlier.foldl remember (ofRound environment markers)).idOf ⟨package, value⟩ =
        .constant value := by
  have idOf_eq (value : Int32) :
      (earlier.foldl remember (ofRound environment markers)).idOf ⟨package, value⟩ =
        ((allRecordings environment markers).lookup ⟨package, value⟩).getD (.constant value) := by
    rw [idOf_foldl_remember, idOf, ofRound_eq, get?_recordEach]
    rfl
  have mem_of_lookup {value : Int32} {id : ResourceId}
      (found : (allRecordings environment markers).lookup ⟨package, value⟩ = some id) :
      (⟨package, value⟩, id) ∈ allRecordings environment markers := by
    obtain ⟨before, after, list_eq, -⟩ := List.lookup_eq_some_iff.1 found
    simp [list_eq]
  constructor
  · intro parts value isWritten
    rw [idOf_eq]
    cases found : (allRecordings environment markers).lookup ⟨package, value⟩ with
    | none =>
        obtain ⟨id, recorded⟩ := exists_recorded_of_isWritten faithful isWritten
        simpa using List.lookup_eq_none_iff.1 found _ recorded
    | some id =>
        obtain ⟨other, otherWritten, rfl⟩ :=
          exists_isWritten_of_recorded accepted faithful (mem_of_lookup found)
        obtain ⟨package_eq, category_eq, member_eq⟩ :=
          (faithful.oneToOne _ _ _ _ otherWritten isWritten).1 rfl
        rw [Option.getD_some, reference, package_eq, category_eq, member_eq]
  · intro value unwritten
    rw [idOf_eq]
    cases found : (allRecordings environment markers).lookup ⟨package, value⟩ with
    | none => rfl
    | some id =>
        obtain ⟨parts, isWritten, -⟩ :=
          exists_isWritten_of_recorded accepted faithful (mem_of_lookup found)
        exact absurd isWritten (unwritten parts)

end

/-- A field whose marker carries a constant. -/
def markedField (name marker symbol : String) (value : Int32) : Member :=
  (Member.field name (.named "java.lang.String")).annotated
    ⟨marker, .ofList [("value", .id ⟨value, some symbol⟩)]⟩

/-- A class that mentions a constant of a library's second index, which lists one more, and a
constant of an index that is not known. -/
def mixedRound : Round where
  options := .empty
  types := [((TypeDecl.ofName .classType "a.Host").withMember
    (markedField "title" "BindString" "lib.R2.string.title" 1)).withMember
      (markedField "shade" "BindColor" "far.R.color.shade" 2)]
  indices := [⟨"lib.R2", .source ⟨"R2", [], [], [⟨"string", [], [⟨"title", "int", [], some "1"⟩,
    ⟨"other", "int", [], some "3"⟩], []⟩]⟩⟩]

theorem idOf_mixedRound : ∃ environment, mixedRound.environment = .ok environment ∧
    IsFaithful environment ["BindString", "BindColor"] "a" ∧
    (ofRound environment ["BindString", "BindColor"]).idOf ⟨"a", 1⟩ =
      .reference ⟨"lib", "R", ["string"]⟩ "title" 1 ∧
    (ofRound environment ["BindString", "BindColor"]).idOf ⟨"a", 2⟩ =
      .reference ⟨"far", "R", ["color"]⟩ "shade" 2 ∧
    (ofRound environment ["BindString", "BindColor"]).idOf ⟨"a", 3⟩ = .constant 3 := by
  have facts : mixedRound.environment.toOption.map (fun environment =>
      (mentions environment.world ["BindString", "BindColor"],
        (environment.index? "lib.R2").map fun index => index.form.entries,
        (environment.index? "far.R").isNone)) =
      some ([⟨"a", ⟨"lib.R2", "string", "title"⟩, 1⟩, ⟨"a", ⟨"far.R", "color", "shade"⟩, 2⟩],
        some [⟨⟨"string", "title"⟩, 1⟩, ⟨⟨"string", "other"⟩, 3⟩], true) := by
    decide +kernel
  obtain ⟨environment, accepted, facts⟩ := exists_ok_of_map_toOption facts
  simp only [Prod.mk.injEq] at facts
  obtain ⟨mentions_eq, entries_eq, unknown⟩ := facts
  have isWritten_iff (parts : IdValue.SymbolParts) (value : Int32) :
      IsWritten environment.world ["BindString", "BindColor"] "a" parts value ↔
        parts = ⟨"lib.R2", "string", "title"⟩ ∧ value = 1 ∨
          parts = ⟨"far.R", "color", "shade"⟩ ∧ value = 2 := by
    have := @mem_mentions_iff environment.world ["BindString", "BindColor"] ⟨"a", parts, value⟩
    rw [← this, mentions_eq]
    simp
  have faithful : IsFaithful environment ["BindString", "BindColor"] "a" := by
    refine ⟨?_, ?_, ?_⟩
    · intro parts value otherParts other written otherWritten
      rcases (isWritten_iff _ _).1 written with ⟨rfl, rfl⟩ | ⟨rfl, rfl⟩ <;>
        rcases (isWritten_iff _ _).1 otherWritten with ⟨rfl, rfl⟩ | ⟨rfl, rfl⟩ <;> decide +kernel
    · intro parts value written
      rcases (isWritten_iff _ _).1 written with ⟨rfl, rfl⟩ | ⟨rfl, rfl⟩ <;> decide
    · intro parts value written index known other
      rcases (isWritten_iff _ _).1 written with ⟨rfl, rfl⟩ | ⟨rfl, rfl⟩
      · rw [known] at entries_eq
        have isEntry_iff := @IndexForm.mem_entries_iff index.form ⟨⟨"string", "title"⟩, other⟩
        rw [show index.form.entries = _ from Option.some.inj entries_eq] at isEntry_iff
        simpa [boundCategories] using isEntry_iff.symm
      · rw [known] at unknown
        cases unknown
  have resolved := idOf_of_isFaithful accepted faithful []
  refine ⟨environment, accepted, faithful, ?_, ?_, ?_⟩
  · exact resolved.1 ⟨"lib.R2", "string", "title"⟩ 1 ((isWritten_iff _ _).2 (.inl ⟨rfl, rfl⟩))
  · exact resolved.1 ⟨"far.R", "color", "shade"⟩ 2 ((isWritten_iff _ _).2 (.inr ⟨rfl, rfl⟩))
  · refine resolved.2 3 fun parts written => ?_
    rcases (isWritten_iff _ _).1 written with ⟨-, equal⟩ | ⟨-, equal⟩ <;>
      exact absurd equal (by decide)

end SymbolTable
end Companion
