import Companion.Table

/-!
# Entries and keys of a table

What it means that a key is found: its entry is listed, its name is among the keys, and an
insertion only ever adds names to them.  Tables that agree on all keys have the same entries.
-/

namespace Companion
namespace Table

variable {κ α : Type} [DecidableEq κ]

private theorem lookup_of_mem {entries : List (κ × α)} (nodup : (entries.map Prod.fst).Nodup)
    {key : κ} {value : α} (member : (key, value) ∈ entries) : entries.lookup key = some value := by
  induction entries with
  | nil => simp at member
  | cons entry rest ih =>
      rw [List.map_cons, List.nodup_cons] at nodup
      rcases List.mem_cons.1 member with rfl | later
      · simp
      · have other : key ≠ entry.1 := by
          rintro rfl
          exact nodup.1 (List.mem_map.2 ⟨_, later, rfl⟩)
        rw [List.lookup_cons, beq_eq_false_iff_ne.2 other]
        exact ih nodup.2 later

theorem get?_eq_some_iff {table : Table κ α} {key : κ} {value : α} :
    table.get? key = some value ↔ (key, value) ∈ table.entries := by
  constructor
  · intro found
    obtain ⟨before, after, entries_eq, -⟩ := List.lookup_eq_some_iff.1 found
    simp [entries_eq]
  · exact lookup_of_mem table.nodup

theorem mem_keys_iff {table : Table κ α} {key : κ} :
    key ∈ table.keys ↔ ∃ value, table.get? key = some value := by
  simp only [get?_eq_some_iff, keys, List.mem_map, Prod.exists, exists_and_right, exists_eq_right]

theorem mem_keys_of_get? {table : Table κ α} {key : κ} {value : α}
    (found : table.get? key = some value) : key ∈ table.keys :=
  mem_keys_iff.2 ⟨value, found⟩

theorem get?_eq_none_iff {table : Table κ α} {key : κ} :
    table.get? key = none ↔ key ∉ table.keys := by
  rw [mem_keys_iff, not_exists]
  cases table.get? key <;> simp

theorem contains_iff {table : Table κ α} {key : κ} :
    table.contains key = true ↔ key ∈ table.keys := by
  simp [contains]

theorem mem_values_iff {table : Table κ α} {value : α} :
    value ∈ table.values ↔ ∃ key, table.get? key = some value := by
  simp only [get?_eq_some_iff, values, List.mem_map, Prod.exists, exists_eq_right]

/-- The values after an insertion under a new key. -/
theorem mem_values_insert {table : Table κ α} {key : κ} {value other : α}
    (absent : key ∉ table.keys) :
    other ∈ (table.insert key value).values ↔ other = value ∨ other ∈ table.values := by
  have appended : (table.insert key value).entries = table.entries ++ [(key, value)] :=
    put_of_not_mem absent value
  rw [values, appended, List.map_append, List.mem_append, List.map_singleton, List.mem_singleton,
    or_comm, values]

@[simp]
theorem mem_keys_insert {table : Table κ α} {key other : κ} {value : α} :
    other ∈ (table.insert key value).keys ↔ other = key ∨ other ∈ table.keys := by
  rw [keys_insert]
  split
  · rename_i present
    exact ⟨Or.inr, fun either => either.elim (fun same => same ▸ present) id⟩
  · simp [or_comm]

private theorem put_of_lookup {entries : List (κ × α)} {key : κ} {value : α}
    (found : entries.lookup key = some value) : put key value entries = entries := by
  induction entries with
  | nil => simp at found
  | cons entry rest ih =>
      obtain ⟨present, old⟩ := entry
      rw [put]
      by_cases here : present = key
      · subst here
        rw [List.lookup_cons, BEq.rfl] at found
        rw [if_pos rfl, Option.some.inj found]
      · rw [List.lookup_cons, beq_eq_false_iff_ne.2 (Ne.symm here)] at found
        rw [if_neg here, ih found]

theorem insert_of_get? {table : Table κ α} {key : κ} {value : α}
    (found : table.get? key = some value) : table.insert key value = table :=
  ext (put_of_lookup found)

/-- Looking a key up after an insertion that gives way to a present key. -/
theorem get?_insertIfNew (table : Table κ α) (key other : κ) (value : α) :
    (table.insertIfNew key value).get? other =
      (table.get? other).or (if other = key then some value else none) := by
  rw [insertIfNew]
  split
  · rename_i present
    by_cases same : other = key
    · subst same
      obtain ⟨old, found⟩ := mem_keys_iff.1 (contains_iff.1 present)
      rw [found, Option.some_or]
    · simp [same]
  · rename_i absent
    rw [contains_iff, ← get?_eq_none_iff] at absent
    by_cases same : other = key
    · subst same
      simp [absent]
    · simp [same]

theorem get?_foldl_insert {entries : List (κ × α)} {table : Table κ α} {key : κ} {value : α}
    (found : (entries.foldl (fun table entry => table.insert entry.1 entry.2) table).get? key =
      some value) : table.get? key = some value ∨ (key, value) ∈ entries := by
  induction entries generalizing table with
  | nil => exact .inl found
  | cons entry rest ih =>
      rcases ih found with old | later
      · rw [get?_insert] at old
        split at old
        · rename_i same
          cases old
          subst same
          exact .inr List.mem_cons_self
        · exact .inl old
      · exact .inr (List.mem_cons_of_mem entry later)

/-- A value of a table that was built from a list stands in that list. -/
theorem mem_of_get?_ofList {entries : List (κ × α)} {key : κ} {value : α}
    (found : (ofList entries).get? key = some value) : (key, value) ∈ entries :=
  (get?_foldl_insert found).resolve_left (by simp)

omit [DecidableEq κ] in
theorem nodup_entries (table : Table κ α) : table.entries.Nodup :=
  List.Pairwise.of_map Prod.fst (fun _ _ differs same => differs (same ▸ rfl)) table.nodup

private theorem filter_of_nodup {entries : List (κ × α)} (nodup : (entries.map Prod.fst).Nodup)
    (key : κ) : entries.filter (fun entry => entry.1 = key) =
      ((entries.lookup key).map (Prod.mk key)).toList := by
  induction entries with
  | nil => rfl
  | cons entry rest ih =>
      obtain ⟨present, value⟩ := entry
      rw [List.map_cons, List.nodup_cons] at nodup
      by_cases here : present = key
      · subst here
        have absent : rest.filter (fun entry => entry.1 = present) = [] := by
          refine List.filter_eq_nil_iff.2 fun entry listed same => nodup.1 ?_
          exact List.mem_map.2 ⟨entry, listed, of_decide_eq_true same⟩
        rw [List.filter_cons_of_pos (by simp), absent, List.lookup_cons, BEq.rfl]
        rfl
      · rw [List.filter_cons_of_neg (by simpa using here), List.lookup_cons,
          beq_eq_false_iff_ne.2 (Ne.symm here)]
        exact ih nodup.2

/-- The entries of a key are the one that is found, if any. -/
theorem filter_entries (table : Table κ α) (key : κ) :
    table.entries.filter (fun entry => entry.1 = key) =
      ((table.get? key).map (Prod.mk key)).toList :=
  filter_of_nodup table.nodup key

/-- Two tables have the same entries, be it in different orders, when all look-ups agree. -/
theorem perm_entries_iff {table other : Table κ α} :
    table.entries.Perm other.entries ↔ ∀ key, table.get? key = other.get? key := by
  rw [List.perm_ext_iff_of_nodup table.nodup_entries other.nodup_entries]
  constructor
  · intro same key
    ext value
    rw [get?_eq_some_iff, get?_eq_some_iff, same]
  · rintro same ⟨key, value⟩
    rw [← get?_eq_some_iff, ← get?_eq_some_iff, same]

/-- The table with its values changed. -/
def mapValues (change : α → α) (table : Table κ α) : Table κ α :=
  ⟨table.entries.map fun entry => (entry.1, change entry.2), by
    rw [List.map_map]
    exact table.nodup⟩

/-- The table without the entries of some keys. -/
def without (table : Table κ α) (keys : List κ) : Table κ α :=
  ⟨table.entries.filter fun entry => entry.1 ∉ keys,
    (List.filter_sublist.map Prod.fst).nodup table.nodup⟩

omit [DecidableEq κ] in
theorem keys_mapValues (change : α → α) (table : Table κ α) :
    (table.mapValues change).keys = table.keys := by
  rw [keys, mapValues, List.map_map]
  rfl

theorem get?_mapValues (change : α → α) (table : Table κ α) (key : κ) :
    (table.mapValues change).get? key = (table.get? key).map change := by
  ext value
  rw [Option.map_eq_some_iff, get?_eq_some_iff, mapValues, List.mem_map]
  constructor
  · rintro ⟨⟨_, old⟩, listed, ⟨⟩⟩
    exact ⟨old, get?_eq_some_iff.2 listed, rfl⟩
  · rintro ⟨old, found, rfl⟩
    exact ⟨(key, old), get?_eq_some_iff.1 found, rfl⟩

theorem get?_without (table : Table κ α) (keys : List κ) (key : κ) :
    (table.without keys).get? key = if key ∈ keys then none else table.get? key := by
  ext value
  rw [get?_eq_some_iff, without, List.mem_filter, ← get?_eq_some_iff]
  by_cases removed : key ∈ keys <;> simp [removed]

private theorem filter_put (key : κ) (value : α) (keys : List κ) (entries : List (κ × α)) :
    (put key value entries).filter (fun entry => entry.1 ∉ keys) =
      if key ∈ keys then entries.filter fun entry => entry.1 ∉ keys
      else put key value (entries.filter fun entry => entry.1 ∉ keys) := by
  induction entries with
  | nil => by_cases removed : key ∈ keys <;> simp [put, removed]
  | cons entry rest ih =>
      rw [put]
      by_cases here : entry.1 = key
      · by_cases removed : key ∈ keys <;> simp [here, removed, put]
      · rw [if_neg here, List.filter_cons, ih]
        by_cases removed : key ∈ keys
        · simp [removed, List.filter_cons]
        · by_cases other : entry.1 ∈ keys <;> simp [removed, other, put, here]

/-- What is inserted under a key that is left out is left out. -/
theorem without_insert_of_mem {keys : List κ} {key : κ} (removed : key ∈ keys)
    (table : Table κ α) (value : α) : (table.insert key value).without keys = table.without keys :=
  ext ((filter_put key value keys table.entries).trans (if_pos removed))

theorem without_insert_of_not_mem {keys : List κ} {key : κ} (kept : key ∉ keys)
    (table : Table κ α) (value : α) :
    (table.insert key value).without keys = (table.without keys).insert key value :=
  ext ((filter_put key value keys table.entries).trans (if_neg kept))

theorem without_of_not_mem {keys : List κ} {table : Table κ α}
    (absent : ∀ key ∈ keys, key ∉ table.keys) : table.without keys = table := by
  refine ext (List.filter_eq_self.2 fun entry listed => ?_)
  exact decide_eq_true fun removed => absent _ removed (List.mem_map_of_mem listed)

theorem mem_keys_without {table : Table κ α} {keys : List κ} {key : κ} :
    key ∈ (table.without keys).keys ↔ key ∈ table.keys ∧ key ∉ keys := by
  rw [mem_keys_iff, mem_keys_iff, get?_without]
  by_cases removed : key ∈ keys <;> simp [removed]

end Table
end Companion
