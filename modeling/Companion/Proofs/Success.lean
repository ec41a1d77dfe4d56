import Mathlib.Data.List.Forall2

/-!
# Steps that succeed

When steps are taken one after the other, the whole succeeds only if each step does.
-/

namespace Companion

variable {ε α β : Type}

theorem exists_ok_of_bind {first : Except ε α} {next : α → Except ε β} {result : β}
    (done : first >>= next = .ok result) :
    ∃ value, first = .ok value ∧ next value = .ok result := by
  cases first with
  | error error => cases done
  | ok value => exact ⟨value, rfl, done⟩

theorem bind_eq_ok_iff {first : Except ε α} {next : α → Except ε β} {result : β} :
    first >>= next = .ok result ↔ ∃ value, first = .ok value ∧ next value = .ok result := by
  constructor
  · exact exists_ok_of_bind
  · rintro ⟨value, rfl, done⟩
    exact done

theorem exists_ok_of_isOk {outcome : Except ε α} (succeeds : outcome.isOk = true) :
    ∃ value, outcome = .ok value := by
  cases outcome with
  | error error => cases succeeds
  | ok value => exact ⟨value, rfl⟩

theorem eq_ok_of_mapError {δ : Type} {outcome : Except ε α} {told : ε → δ} {value : α}
    (done : outcome.mapError told = .ok value) : outcome = .ok value := by
  cases outcome with
  | error error => cases done
  | ok result => exact congrArg Except.ok (Except.ok.inj done)

/-- What is read off a result tells that there is one. -/
theorem exists_ok_of_map_toOption {outcome : Except ε α} {read : α → β} {value : β}
    (facts : outcome.toOption.map read = some value) :
    ∃ result, outcome = .ok result ∧ read result = value := by
  cases outcome with
  | error error => cases facts
  | ok result => exact ⟨result, rfl, Option.some.inj facts⟩

/-- The results stand in the order of the items. -/
theorem forall₂_of_mapM {step : α → Except ε β} {items : List α} {results : List β}
    (done : items.mapM step = .ok results) :
    List.Forall₂ (fun item result => step item = .ok result) items results := by
  induction items generalizing results with
  | nil =>
      cases done
      exact .nil
  | cons item items ih =>
      rw [List.mapM_cons] at done
      obtain ⟨first, firstDone, done⟩ := exists_ok_of_bind done
      obtain ⟨others, othersDone, done⟩ := exists_ok_of_bind done
      cases done
      exact .cons firstDone (ih othersDone)

theorem mapM_of_forall₂ {step : α → Except ε β} {items : List α} {results : List β}
    (paired : List.Forall₂ (fun item result => step item = .ok result) items results) :
    items.mapM step = .ok results := by
  induction paired with
  | nil => rfl
  | cons first _ ih =>
      rw [List.mapM_cons, first, ih]
      rfl

/-- What stands on the right of paired lists has a partner on the left. -/
theorem exists_mem_left_of_forall₂ {related : α → β → Prop} {items : List α} {results : List β}
    (paired : List.Forall₂ related items results) {result : β} (listed : result ∈ results) :
    ∃ item ∈ items, related item result := by
  induction paired with
  | nil => cases listed
  | @cons item _ items _ here _ ih =>
      rcases List.mem_cons.1 listed with rfl | later
      · exact ⟨item, List.mem_cons_self, here⟩
      · obtain ⟨other, otherListed, there⟩ := ih later
        exact ⟨other, List.mem_cons_of_mem item otherListed, there⟩

theorem exists_ok_of_mem_mapM {step : α → Except ε β} {items : List α} {results : List β}
    (done : items.mapM step = .ok results) {result : β} (member : result ∈ results) :
    ∃ item ∈ items, step item = .ok result :=
  exists_mem_left_of_forall₂ (forall₂_of_mapM done) member

/-- What stands on the left of paired lists has a partner on the right. -/
theorem exists_mem_right_of_forall₂ {related : α → β → Prop} {items : List α} {results : List β}
    (paired : List.Forall₂ related items results) {item : α} (listed : item ∈ items) :
    ∃ result ∈ results, related item result :=
  exists_mem_left_of_forall₂ paired.flip listed

/-- What two steps make of the same items stands in pairs. -/
theorem exists_pairs_of_forall₂ {α β γ : Type} {left : α → β → Prop} {right : α → γ → Prop}
    {items : List α} {lefts : List β} {rights : List γ} (made : List.Forall₂ left items lefts)
    (otherMade : List.Forall₂ right items rights) :
    ∃ pairs : List (β × γ), lefts = pairs.map Prod.fst ∧ rights = pairs.map Prod.snd ∧
      List.Forall₂ (fun item pair => left item pair.1 ∧ right item pair.2) items pairs := by
  induction made generalizing rights with
  | nil =>
      cases otherMade
      exact ⟨[], rfl, rfl, .nil⟩
  | @cons item first _ _ firstMade _ ih =>
      cases otherMade with
      | @cons _ second _ _ secondMade laterMade =>
          obtain ⟨pairs, rfl, rfl, each⟩ := ih laterMade
          exact ⟨(first, second) :: pairs, rfl, rfl, .cons ⟨firstMade, secondMade⟩ each⟩

theorem exists_ok_mapM {step : α → Except ε β} {items : List α}
    (succeeds : ∀ item ∈ items, ∃ result, step item = .ok result) :
    ∃ results, items.mapM step = .ok results := by
  induction items with
  | nil => exact ⟨[], rfl⟩
  | cons item items ih =>
      obtain ⟨first, firstDone⟩ := succeeds item List.mem_cons_self
      obtain ⟨others, othersDone⟩ := ih fun other later =>
        succeeds other (List.mem_cons_of_mem item later)
      exact ⟨first :: others, by rw [List.mapM_cons, firstDone, othersDone]; rfl⟩

theorem exists_ok_bind {first : Except ε α} {next : α → Except ε β}
    (firstSucceeds : ∃ value, first = .ok value)
    (nextSucceeds : ∀ value, first = .ok value → ∃ result, next value = .ok result) :
    ∃ result, first >>= next = .ok result := by
  obtain ⟨value, rfl⟩ := firstSucceeds
  exact nextSucceeds value rfl

/-- Whether two steps succeed with related results, or fail with the same error. -/
inductive Agree (related : α → β → Prop) : Except ε α → Except ε β → Prop where
  | ok {value : α} {other : β} (here : related value other) : Agree related (.ok value) (.ok other)
  | error (error : ε) : Agree related (.error error) (.error error)

namespace Agree

theorem refl (outcome : Except ε α) : Agree Eq outcome outcome := by
  cases outcome with
  | error error => exact .error error
  | ok value => exact .ok rfl

theorem bind {γ δ : Type} {related : α → β → Prop} {further : γ → δ → Prop} {first : Except ε α}
    {other : Except ε β} {next : α → Except ε γ} {later : β → Except ε δ}
    (agree : Agree related first other)
    (nextAgree : ∀ value twin, related value twin → Agree further (next value) (later twin)) :
    Agree further (first >>= next) (other >>= later) := by
  cases agree with
  | error error => exact .error error
  | ok here => exact nextAgree _ _ here

/-- What a step is followed by may differ when the step is the same. -/
theorem bind_same {γ δ : Type} {further : γ → δ → Prop} {first : Except ε α}
    {next : α → Except ε γ} {later : α → Except ε δ}
    (nextAgree : ∀ value, Agree further (next value) (later value)) :
    Agree further (first >>= next) (first >>= later) :=
  (refl first).bind fun value _ same => same ▸ nextAgree value

theorem mapM {γ : Type} {related : β → γ → Prop} {step : α → Except ε β} {other : α → Except ε γ}
    (items : List α) (agree : ∀ item ∈ items, Agree related (step item) (other item)) :
    Agree (List.Forall₂ related) (items.mapM step) (items.mapM other) := by
  induction items with
  | nil => exact .ok .nil
  | cons item items ih =>
      obtain ⟨here, later⟩ := List.forall_mem_cons.1 agree
      rw [List.mapM_cons, List.mapM_cons]
      exact here.bind fun _ _ first => (ih later).bind fun _ _ others => .ok (.cons first others)

end Agree

end Companion
