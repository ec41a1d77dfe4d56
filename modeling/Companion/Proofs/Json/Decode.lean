import Companion.Json.Decode

/-!
# Reading back what is written

A decoder that reads every part back reads lists, tables and optional values of such parts back.  A
value whose parts can all be taken is checked without a fault.
-/

namespace Companion
namespace Json

variable {α : Type} {encode : α → Json}

theorem mapM_map_eq_pure {m : Type → Type} [Monad m] [LawfulMonad m] {β : Type} {write : α → β}
    {read : β → m α} {items : List α} (reads : ∀ item ∈ items, read (write item) = pure item) :
    (items.map write).mapM read = pure items := by
  induction items with
  | nil => rfl
  | cons item items ih =>
      rw [List.map_cons, List.mapM_cons, reads item List.mem_cons_self, pure_bind,
        ih fun other later => reads other (List.mem_cons_of_mem item later), pure_bind]

section Decoded

variable {decode : Json → Decoded α}

theorem asList_ofList (items : List α) (reads : ∀ item ∈ items, decode (encode item) = .ok item) :
    asList decode (.ofList (items.map encode)) = .ok items := by
  have read : (items.map encode).mapM decode = .ok items := mapM_map_eq_pure reads
  rw [asList, read]
  rfl

theorem asTable_ofEntries (encode : α → Json) (decode : Json → Decoded α) (table : Table String α)
    (reads : ∀ entry ∈ table.entries, decode (encode entry.2) = .ok entry.2) :
    asTable decode (.ofEntries (table.entries.map fun (key, value) => (key, encode value))) =
      .ok table := by
  rw [ofEntries, asTable, mapM_map_eq_pure]
  · exact congrArg Except.ok table.ofList_entries
  · rintro ⟨key, value⟩ listed
    dsimp only
    rw [reads _ listed]
    rfl

theorem asOption_ofOption (encode : α → Json) (decode : Json → Decoded α) (value : Option α)
    (written : ∀ value, encode value ≠ .null)
    (reads : ∀ given ∈ value, decode (encode given) = .ok given) :
    asOption decode (.ofOption encode value) = .ok value := by
  cases value with
  | none => rfl
  | some given =>
      have read : asOption decode (encode given) = some <$> decode (encode given) :=
        asOption.eq_2 _ _ (written given)
      rw [ofOption, read, reads given rfl]
      rfl

theorem asList_asName {ofName : String → Option α} {name : α → String}
    (reads : ∀ value, ofName (name value) = some value) (values : List α) :
    asList (asName ofName) (.ofList (values.map fun value => .text (name value))) = .ok values := by
  refine asList_ofList values fun value _ => ?_
  rw [asName, reads]
  rfl

theorem foldEntries_ofEntries {σ : Type} {step : σ → String → Json → Decoded σ} {start : σ}
    {entries : List (String × Json)} (record : σ)
    (walked : entries.foldlM (fun record (key, value) => step record key value) start =
      .ok record) : foldEntries step start (.ofEntries entries) = .ok record := by
  rw [foldEntries, walked]
  rfl

/-- Entries that are only kept for later are kept in reverse. -/
theorem foldlM_keep {σ : Type} {step : σ → String → Json → Decoded σ}
    {entries : List (String × Json)} (keep : List (String × Json) → σ)
    (keeps : ∀ entry ∈ entries, ∀ kept,
      step (keep kept) entry.1 entry.2 = .ok (keep (entry :: kept))) :
    entries.foldlM (fun record (key, value) => step record key value) (keep []) =
      .ok (keep entries.reverse) := by
  have walked : ∀ kept, entries.foldlM (fun record (key, value) => step record key value)
      (keep kept) = .ok (keep (entries.reverse ++ kept)) := by
    induction entries with
    | nil => exact fun kept => rfl
    | cons entry entries ih =>
        intro kept
        have first := keeps entry List.mem_cons_self kept
        have others := ih (fun other later => keeps other (List.mem_cons_of_mem entry later))
          (entry :: kept)
        rw [List.reverse_cons, List.append_assoc, List.singleton_append, ← others,
          List.foldlM_cons]
        exact congrArg (· >>= _) first
  rw [walked, List.append_nil]

end Decoded

section Checked

variable {decode : Json → Option α}

theorem list?_ofList (items : List α) (reads : ∀ item ∈ items, decode (encode item) = some item) :
    list? decode (.ofList (items.map encode)) = some items :=
  mapM_map_eq_pure reads

theorem nullable?_ofOption (encode : α → Json) (decode : Json → Option α) (value : Option α)
    (written : ∀ value, encode value ≠ .null)
    (reads : ∀ value, decode (encode value) = some value) :
    nullable? decode (.ofOption encode value) = some value := by
  cases value with
  | none => rfl
  | some given =>
      have read : nullable? decode (encode given) = some <$> decode (encode given) :=
        nullable?.eq_2 _ _ (written given)
      rw [ofOption, read, reads]
      rfl

end Checked

@[simp]
theorem firstFault_text (value : String) : (text value).firstFault = none := rfl

@[simp]
theorem firstFault_integer (value : Int) : (integer value).firstFault = none := rfl

theorem firstFaultIn_eq_none_iff {items : List Json} :
    firstFaultIn items = none ↔ ∀ item ∈ items, item.firstFault = none := by
  induction items with
  | nil => simp [firstFaultIn]
  | cons item items ih => rw [firstFaultIn, Option.or_eq_none_iff, ih, List.forall_mem_cons]

theorem firstFaultUnder_eq_none_iff {entries : List (String × Json)} :
    firstFaultUnder entries = none ↔ ∀ entry ∈ entries, entry.2.firstFault = none := by
  induction entries with
  | nil => simp [firstFaultUnder]
  | cons entry entries ih =>
      rw [firstFaultUnder, Option.or_eq_none_iff, ih, List.forall_mem_cons]

@[simp]
theorem firstFault_ofList_eq_none_iff {items : List Json} :
    (ofList items).firstFault = none ↔ ∀ item ∈ items, item.firstFault = none := by
  rw [ofList, firstFault, Option.map_none, Option.or_none, firstFaultIn_eq_none_iff]

@[simp]
theorem firstFault_ofEntries_eq_none_iff {entries : List (String × Json)} :
    (ofEntries entries).firstFault = none ↔ ∀ entry ∈ entries, entry.2.firstFault = none := by
  rw [ofEntries, firstFault, Option.map_none, Option.or_none, firstFaultUnder_eq_none_iff]

@[simp]
theorem firstFault_ofOption_eq_none_iff {value : Option α} :
    (ofOption encode value).firstFault = none ↔
      ∀ given ∈ value, (encode given).firstFault = none := by
  cases value with
  | none => simp [ofOption, firstFault]
  | some given => simp [ofOption]

end Json
end Companion
