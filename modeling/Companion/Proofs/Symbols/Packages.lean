import Companion.Proofs.Symbols
import Companion.Proofs.Universe.Without

/-!
# Ids of one package

Ids are recorded for numbers as they are used in some package.  What a number stands for in one
package depends on the mentions in that package alone, whatever other packages mention.
-/

namespace Companion
namespace SymbolTable

theorem get?_addMention_of_ne (table : MentionTable) {mention : Mention} {package : String}
    (other : mention.package ≠ package) :
    (addMention table mention).get? package = table.get? package := by
  rw [addMention, Table.get?_insert, if_neg (Ne.symm other)]

theorem get?_addMention_congr {table other : MentionTable} {mention : Mention}
    (same : table.get? mention.package = other.get? mention.package) :
    (addMention table mention).get? mention.package =
      (addMention other mention).get? mention.package := by
  simp only [addMention, Table.get?_insert, same]

/-- What is grouped under a package comes from the mentions in it. -/
theorem get?_foldl_addMention (list : List Mention) {table other : MentionTable}
    {package : String} (same : table.get? package = other.get? package) :
    (list.foldl addMention table).get? package =
      ((list.filter fun mention => mention.package = package).foldl addMention other).get?
        package := by
  induction list generalizing table other with
  | nil => exact same
  | cons mention rest ih =>
      by_cases here : mention.package = package
      · subst here
        rw [List.filter_cons_of_pos (by simp)]
        exact ih (get?_addMention_congr same)
      · rw [List.filter_cons_of_neg (by simpa using here)]
        exact ih ((get?_addMention_of_ne table here).trans same)

theorem package_of_mem_recordings {environment : Environment} {package indexType : String}
    {references : References} {recording : SymbolKey × ResourceId}
    (recorded : recording ∈ recordings environment package indexType references) :
    recording.1.package = package := by
  unfold recordings at recorded
  split at recorded
  all_goals
    obtain ⟨_, -, rfl⟩ := List.mem_map.1 recorded
    rfl

/-- What is recorded for the mentions in one package. -/
def recordingsOf (environment : Environment) (package : String)
    (indices : Table String References) : List (SymbolKey × ResourceId) :=
  indices.entries.flatMap fun (indexType, references) =>
    recordings environment package indexType references

theorem package_of_mem_recordingsOf {environment : Environment} {package : String}
    {indices : Table String References} {recording : SymbolKey × ResourceId}
    (recorded : recording ∈ recordingsOf environment package indices) :
    recording.1.package = package := by
  obtain ⟨entry, -, recorded⟩ := List.mem_flatMap.1 recorded
  exact package_of_mem_recordings recorded

private theorem flatMap_filter_of_vanish {α β : Type} {items : List α} {keep : α → Bool}
    {parts : α → List β} (vanish : ∀ item ∈ items, keep item = false → parts item = []) :
    (items.filter keep).flatMap parts = items.flatMap parts := by
  induction items with
  | nil => rfl
  | cons item rest ih =>
      have later := ih fun other member => vanish other (List.mem_cons_of_mem item member)
      by_cases kept : keep item = true
      · rw [List.filter_cons_of_pos kept, List.flatMap_cons, List.flatMap_cons, later]
      · rw [List.filter_cons_of_neg kept, later, List.flatMap_cons,
          vanish item List.mem_cons_self (Bool.eq_false_iff.2 kept), List.nil_append]

/-- What is recorded for a package is recorded for the mentions in it. -/
theorem filter_allRecordings (environment : Environment) (markers : List String)
    (package : String) :
    (allRecordings environment markers).filter (fun recording => recording.1.package = package) =
      (((mentions environment.world markers).foldl addMention .empty).get? package).toList.flatMap
        (recordingsOf environment package) := by
  generalize table_eq : (mentions environment.world markers).foldl addMention .empty = table
  have all_eq : allRecordings environment markers = table.entries.flatMap fun entry =>
      recordingsOf environment entry.1 entry.2 := by
    rw [← table_eq]
    rfl
  rw [all_eq, List.filter_flatMap, ← flatMap_filter_of_vanish, table.filter_entries package]
  · cases table.get? package with
    | none => rfl
    | some indices =>
        simp only [Option.map_some, Option.toList_some, List.flatMap_singleton]
        exact List.filter_eq_self.2 fun recording recorded =>
          decide_eq_true (package_of_mem_recordingsOf recorded)
  · intro entry _ other
    refine List.filter_eq_nil_iff.2 fun recording recorded same => ?_
    rw [← package_of_mem_recordingsOf recorded] at other
    exact absurd (of_decide_eq_true same) (of_decide_eq_false other)

private theorem lookup_filter {list : List (SymbolKey × ResourceId)} {key : SymbolKey} :
    (list.filter fun recording => recording.1.package = key.package).lookup key =
      list.lookup key := by
  induction list with
  | nil => rfl
  | cons recording rest ih =>
      by_cases here : recording.1.package = key.package
      · rw [List.filter_cons_of_pos (by simpa using here), List.lookup_cons, List.lookup_cons, ih]
      · have other : key ≠ recording.1 := by
          rintro rfl
          exact here rfl
        rw [List.filter_cons_of_neg (by simpa using here), ih, List.lookup_cons,
          beq_eq_false_iff_ne.2 other]

/-- Rounds with the same indices and the same mentions in a package agree on the numbers used in
that package. -/
theorem idOf_ofRound_congr {environment other : Environment} {markers : List String}
    {key : SymbolKey} (indices : environment.indices = other.indices)
    (mentioned :
      (mentions environment.world markers).filter (fun mention => mention.package = key.package) =
        (mentions other.world markers).filter fun mention => mention.package = key.package) :
    (ofRound environment markers).idOf key = (ofRound other markers).idOf key := by
  have recordings_eq : recordingsOf environment key.package = recordingsOf other key.package := by
    unfold recordingsOf recordings Environment.index?
    rw [indices]
  rw [idOf, idOf, ofRound_eq, ofRound_eq, get?_recordEach, get?_recordEach, ← lookup_filter,
    filter_allRecordings, get?_foldl_addMention _ rfl, mentioned, ← get?_foldl_addMention _ rfl,
    recordings_eq, ← filter_allRecordings, lookup_filter]

/-- A class in a package of its own adds no mention to another package. -/
theorem filter_mentions_without {world : Universe} {hidden package other : String}
    (alone : world.IsAlone hidden package) (differs : other ≠ package) (markers : List String) :
    (mentions (world.without hidden) markers).filter (fun mention => mention.package = other) =
      (mentions world markers).filter fun mention => mention.package = other := by
  rw [mentions, mentions, List.filter_flatMap, List.filter_flatMap]
  congr 1
  funext marker
  rw [List.filter_flatMap, List.filter_flatMap, Universe.annotated_without]
  refine flatMap_filter_of_vanish fun site listed isHidden => ?_
  have package_eq : site.decl.package = package :=
    (alone.package _ (Universe.mem_sourceTypes_of_mem_annotated listed)).2
      (by simpa using isHidden)
  refine List.filter_eq_nil_iff.2 fun mention mentioned same => ?_
  cases carried : site.member.use? marker with
  | none => simp [carried] at mentioned
  | some use =>
      rw [carried] at mentioned
      have here := (mem_mentionsOf_iff.1 mentioned).1
      exact differs ((of_decide_eq_true same).symm.trans (here.trans package_eq))

/-- Numbers used in other packages stand for the same ids with the class and without it. -/
theorem idOf_without {environment : Environment} {hidden package : String}
    (alone : environment.world.IsAlone hidden package) (markers : List String) {key : SymbolKey}
    (differs : key.package ≠ package) :
    (ofRound (environment.without hidden) markers).idOf key =
      (ofRound environment markers).idOf key :=
  idOf_ofRound_congr rfl (filter_mentions_without alone differs markers)

end SymbolTable
end Companion
