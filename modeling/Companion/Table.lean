/-!
# Tables in order of insertion

A table maps each key to one value and lists its entries in the order in which the keys were first
inserted.  Inserting under a present key replaces the value and keeps the place.
-/

namespace Companion

/-- A finite map that remembers the order in which its keys were inserted. -/
structure Table (κ : Type) (α : Type) where
  /-- The entries, in order of insertion. -/
  entries : List (κ × α)
  /-- Each key has one entry. -/
  nodup : (entries.map Prod.fst).Nodup

namespace Table

variable {κ α : Type}

@[ext]
theorem ext {left right : Table κ α} (same : left.entries = right.entries) : left = right := by
  cases left; cases right; simp_all

instance [DecidableEq κ] [DecidableEq α] : DecidableEq (Table κ α) := fun left right =>
  if same : left.entries = right.entries then
    .isTrue (ext same)
  else
    .isFalse (by intro equal; exact same (congrArg entries equal))

/-- The table without entries. -/
def empty : Table κ α := ⟨[], by simp⟩

instance : Inhabited (Table κ α) := ⟨empty⟩

/-- The keys, in order of insertion. -/
def keys (table : Table κ α) : List κ := table.entries.map Prod.fst

/-- The values, in the order of their keys. -/
def values (table : Table κ α) : List α := table.entries.map Prod.snd

/-- The number of entries. -/
def size (table : Table κ α) : Nat := table.entries.length

variable [DecidableEq κ]

/-- The value under a key. -/
def get? (table : Table κ α) (key : κ) : Option α := table.entries.lookup key

/-- Whether a key has an entry. -/
def contains (table : Table κ α) (key : κ) : Bool := table.keys.contains key

/-- Put a value under a key: in place when the key is present, at the end when it is new. -/
def put (key : κ) (value : α) : List (κ × α) → List (κ × α)
  | [] => [(key, value)]
  | entry :: rest => if entry.1 = key then (key, value) :: rest else entry :: put key value rest

theorem keys_put (key : κ) (value : α) (entries : List (κ × α)) :
    (put key value entries).map Prod.fst =
      if key ∈ entries.map Prod.fst then entries.map Prod.fst
      else entries.map Prod.fst ++ [key] := by
  induction entries with
  | nil => simp [put]
  | cons entry rest ih =>
    by_cases same : entry.1 = key
    · simp [put, same]
    · have other : ¬key = entry.1 := fun equal => same equal.symm
      simp only [put, same, if_false, List.map_cons, ih, List.mem_cons, other, false_or]
      split <;> simp

theorem nodup_put (key : κ) (value : α) {entries : List (κ × α)}
    (nodup : (entries.map Prod.fst).Nodup) : ((put key value entries).map Prod.fst).Nodup := by
  rw [keys_put]
  split
  · exact nodup
  · rename_i absent
    exact List.nodup_append.2 ⟨nodup, by simp, by
      intro present member last last_eq
      simp only [List.mem_singleton] at last_eq
      rintro rfl
      exact absent (last_eq ▸ member)⟩

/-- The table with a value put under a key. -/
def insert (table : Table κ α) (key : κ) (value : α) : Table κ α :=
  ⟨put key value table.entries, nodup_put key value table.nodup⟩

/-- The table with a value under a key that had none; a present key keeps its value. -/
def insertIfNew (table : Table κ α) (key : κ) (value : α) : Table κ α :=
  if table.contains key then table else table.insert key value

/-- The table of a list of entries: a repeated key keeps its first place and takes the last
value. -/
def ofList (entries : List (κ × α)) : Table κ α :=
  entries.foldl (fun table entry => table.insert entry.1 entry.2) empty

@[simp]
theorem get?_empty (key : κ) : (empty : Table κ α).get? key = none := rfl

theorem lookup_put (key other : κ) (value : α) (entries : List (κ × α)) :
    (put key value entries).lookup other =
      if other = key then some value else entries.lookup other := by
  induction entries with
  | nil =>
    by_cases same : other = key
    · simp [put, same]
    · simp [put, List.lookup_cons, beq_eq_false_iff_ne.2 same, same]
  | cons entry rest ih =>
    obtain ⟨present, old⟩ := entry
    by_cases here : present = key
    · subst here
      by_cases same : other = present
      · simp [put, same]
      · simp [put, List.lookup_cons, beq_eq_false_iff_ne.2 same, same]
    · simp only [put, here, if_false, List.lookup_cons, ih]
      by_cases same : other = key
      · subst same
        simp [beq_eq_false_iff_ne.2 (Ne.symm here)]
      · simp [same]

/-- Looking a key up after an insertion. -/
@[simp]
theorem get?_insert (table : Table κ α) (key other : κ) (value : α) :
    (table.insert key value).get? other = if other = key then some value else table.get? other :=
  lookup_put key other value table.entries

/-- The keys after an insertion: a new key comes last. -/
theorem keys_insert (table : Table κ α) (key : κ) (value : α) :
    (table.insert key value).keys =
      if key ∈ table.keys then table.keys else table.keys ++ [key] :=
  keys_put key value table.entries

/-- The entries after a value is put: the new one and some of the old ones. -/
theorem mem_put {key : κ} {value : α} {entries : List (κ × α)} {entry : κ × α}
    (member : entry ∈ put key value entries) : entry = (key, value) ∨ entry ∈ entries := by
  induction entries with
  | nil => simpa [put] using member
  | cons head rest ih =>
    simp only [put] at member
    split at member
    · rcases List.mem_cons.1 member with here | later
      · exact .inl here
      · exact .inr (by simp [later])
    · rcases List.mem_cons.1 member with here | later
      · exact .inr (by simp [here])
      · rcases ih later with new | old
        · exact .inl new
        · exact .inr (by simp [old])

/-- Putting a new key appends its entry. -/
theorem put_of_not_mem {key : κ} {entries : List (κ × α)} (absent : key ∉ entries.map Prod.fst)
    (value : α) : put key value entries = entries ++ [(key, value)] := by
  induction entries with
  | nil => rfl
  | cons entry rest ih =>
    simp only [List.map_cons, List.mem_cons, not_or] at absent
    simp [put, Ne.symm absent.1, ih absent.2]

/-- Entries with pairwise different keys are listed as they were given. -/
theorem entries_foldl_insert (table : Table κ α) (added : List (κ × α))
    (nodup : ((table.entries ++ added).map Prod.fst).Nodup) :
    (added.foldl (fun table entry => table.insert entry.1 entry.2) table).entries =
      table.entries ++ added := by
  induction added generalizing table with
  | nil => simp
  | cons entry rest ih =>
    have absent : entry.1 ∉ table.entries.map Prod.fst := by
      rw [List.map_append, List.nodup_append] at nodup
      intro present
      exact nodup.2.2 _ present _ (by simp) rfl
    have step : (table.insert entry.1 entry.2).entries = table.entries ++ [entry] :=
      put_of_not_mem absent entry.2
    rw [List.foldl_cons, ih, step, List.append_assoc, List.singleton_append]
    rw [step, List.append_assoc, List.singleton_append]
    exact nodup

/-- Listing a table and building it again gives the table. -/
@[simp]
theorem ofList_entries (table : Table κ α) : ofList table.entries = table := by
  apply ext
  rw [ofList, entries_foldl_insert _ _ (by simpa [empty] using table.nodup)]
  rfl

end Table
end Companion
