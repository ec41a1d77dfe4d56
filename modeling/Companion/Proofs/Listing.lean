import Companion.Listing

/-!
# Searching an altered list

After the first item that a test finds was changed, the test finds the changed item, and a test
that tells all items concerned apart finds what it found before.  A list whose items differ in
their keys stays one, and lists the keys in the order in which they came.
-/

namespace Companion
namespace Listing

variable {α : Type} {found : α → Bool} {change : α → α} {fresh : α}

theorem find?_alter (kept : ∀ item, found item = true → found (change item) = true)
    (isFound : found (change fresh) = true) (items : List α) :
    (alter found change fresh items).find? found =
      some (change ((items.find? found).getD fresh)) := by
  induction items with
  | nil => simp [alter, isFound]
  | cons item rest ih =>
      rw [alter]
      by_cases here : found item = true
      · simp [here, kept item here]
      · rw [if_neg here, List.find?_cons_of_neg here, List.find?_cons_of_neg here]
        exact ih

theorem find?_alter_of_apart {test : α → Bool}
    (apart : ∀ item, found item = true → test item = false)
    (changed : ∀ item, found item = true → test (change item) = false)
    (isApart : test (change fresh) = false) (items : List α) :
    (alter found change fresh items).find? test = items.find? test := by
  induction items with
  | nil => simp [alter, isApart]
  | cons item rest ih =>
      rw [alter]
      by_cases here : found item = true
      · simp [here, apart item here, changed item here]
      · rw [if_neg here, List.find?_cons, List.find?_cons, ih]

/-- What an altered list has: old items, and the change of the first one found or of a fresh one. -/
theorem mem_alter {items : List α} {item : α} (member : item ∈ alter found change fresh items) :
    item ∈ items ∨ item = change ((items.find? found).getD fresh) := by
  induction items with
  | nil => exact .inr (by simpa [alter] using member)
  | cons head rest ih =>
      rw [alter] at member
      by_cases here : found head = true
      · rw [if_pos here] at member
        rcases List.mem_cons.1 member with rfl | later
        · exact .inr (by simp [here])
        · exact .inl (List.mem_cons_of_mem head later)
      · rw [if_neg here] at member
        rcases List.mem_cons.1 member with rfl | later
        · exact .inl List.mem_cons_self
        · rw [List.find?_cons_of_neg here]
          exact (ih later).imp_left (List.mem_cons_of_mem head)

theorem alter_ne_nil (items : List α) : alter found change fresh items ≠ [] := by
  cases items with
  | nil => simp [alter]
  | cons item rest =>
      rw [alter]
      split <;> simp

theorem alter_of_find?_eq_some {items : List α} {item : α} (isFound : items.find? found = some item)
    (fresh : α) : alter found (fun _ => item) fresh items = items := by
  induction items with
  | nil => simp at isFound
  | cons head rest ih =>
      rw [alter]
      by_cases here : found head = true
      · rw [List.find?_cons_of_pos here] at isFound
        rw [if_pos here, Option.some.inj isFound]
      · rw [List.find?_cons_of_neg here] at isFound
        rw [if_neg here, ih isFound]

/-- Of two changes at the same item the later one remains. -/
theorem alter_alter {first second : α} (isFound : found first = true) (items : List α) :
    alter found (fun _ => second) second (alter found (fun _ => first) first items) =
      alter found (fun _ => second) second items := by
  induction items with
  | nil => simp [alter, isFound]
  | cons item rest ih =>
      by_cases here : found item = true
      · simp [alter, here, isFound]
      · simp [alter, here, ih]

variable {β : Type}

/-- The keys after a change that keeps them: a new key comes last. -/
theorem map_alter {key : α → β} {items : List α}
    (kept : ∀ item, items.find? found = some item → key (change item) = key item) :
    (alter found change fresh items).map key =
      items.map key ++ if (items.find? found).isSome then [] else [key (change fresh)] := by
  induction items with
  | nil => rfl
  | cons item rest ih =>
      rw [alter]
      by_cases here : found item = true
      · rw [if_pos here, List.find?_cons_of_pos here, List.map_cons,
          kept item (List.find?_cons_of_pos here)]
        simp
      · rw [if_neg here, List.find?_cons_of_neg here, List.map_cons, List.map_cons,
          List.cons_append, ih]
        intro other isFound
        exact kept other (by rwa [List.find?_cons_of_neg here])

theorem pairwise_map_alter {key : α → β} {apart : β → β → Prop} {items : List α}
    (kept : ∀ item, items.find? found = some item → key (change item) = key item)
    (isNew : items.find? found = none → ∀ item ∈ items, apart (key item) (key (change fresh)))
    (pairwise : (items.map key).Pairwise apart) :
    ((alter found change fresh items).map key).Pairwise apart := by
  rw [map_alter kept]
  cases isFound : items.find? found with
  | some item => simpa using pairwise
  | none =>
      refine List.pairwise_append.2 ⟨pairwise, by simp, ?_⟩
      intro present member last last_mem
      obtain ⟨item, listed, rfl⟩ := List.mem_map.1 member
      obtain rfl : last = key (change fresh) := by simpa using last_mem
      exact isNew isFound item listed

/-- Where keys differ, a search for the key of an item finds that item. -/
theorem find?_key {key : α → β} {same : β → β → Bool} (refl : ∀ value, same value value = true)
    {items : List α} (apart : (items.map key).Pairwise fun left right => same left right = false)
    {item : α} (listed : item ∈ items) :
    (items.find? fun other => same (key other) (key item)) = some item := by
  induction items with
  | nil => simp at listed
  | cons head rest ih =>
      rw [List.map_cons, List.pairwise_cons] at apart
      rcases List.mem_cons.1 listed with rfl | later
      · exact List.find?_cons_of_pos (refl _)
      · rw [List.find?_cons_of_neg, ih apart.2 later]
        rw [apart.1 _ (List.mem_map_of_mem later)]
        simp

theorem eraseDups_append_singleton [DecidableEq α] (items : List α) (item : α) :
    (items ++ [item]).eraseDups = addNew item items.eraseDups := by
  rw [List.eraseDups_append, addNew]
  by_cases present : item ∈ items <;> simp [List.removeAll, List.eraseDups_cons, present]

theorem eraseDups_eq_nil_iff [DecidableEq α] {items : List α} :
    items.eraseDups = [] ↔ items = [] := by
  cases items <;> simp [List.eraseDups_cons]

theorem nodup_eraseDups [DecidableEq α] (items : List α) : items.eraseDups.Nodup := by
  induction length : items.length using Nat.strongRecOn generalizing items with
  | ind length ih =>
      cases items with
      | nil => exact List.nodup_nil
      | cons head rest =>
          rw [List.eraseDups_cons, List.nodup_cons]
          refine ⟨by simp, ih _ ?_ _ rfl⟩
          rw [← length]
          exact Nat.lt_succ_of_le (List.length_filter_le _ rest)

/-- An item that is the same as none of those kept before it is kept. -/
theorem eraseDupsBy_append_singleton {same : α → α → Bool} (items : List α) (item : α) :
    (items ++ [item]).eraseDupsBy same = items.eraseDupsBy same ++
      if (items.eraseDupsBy same).any (same item) then [] else [item] := by
  induction length : items.length using Nat.strongRecOn generalizing items with
  | ind length ih =>
      cases items with
      | nil => rfl
      | cons head rest =>
          rw [List.cons_append, List.eraseDupsBy_cons, List.eraseDupsBy_cons, List.filter_append,
            List.any_cons]
          by_cases here : same item head = true
          · simp [here]
          · have kept : [item].filter (fun other => same other head = false) = [item] := by
              simp [here]
            rw [kept, ih _ ?_ _ rfl]
            · simp [here]
            · rw [← length]
              exact Nat.lt_succ_of_le (List.length_filter_le _ rest)

end Listing
end Companion
