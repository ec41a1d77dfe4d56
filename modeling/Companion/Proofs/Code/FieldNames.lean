import Companion.Proofs.Code.Making
import Companion.Proofs.Target.History
import Mathlib.Data.List.Nodup

/-!
# Names of private fields

A slot is named after the number of its id, and the field of a listener after the slot and the
simple name of the listener.  The hexadecimal digits of the number can be read off either name: no
kept listener starts with such a digit.  So names differ when numbers do, and within one group
because the listeners do.
-/

namespace Companion

/-- Whether a character is a digit of a hexadecimal number. -/
def isHexDigit (char : Char) : Bool := "0123456789abcdef".toList.contains char

theorem isHexDigit_digitChar : ∀ {digit : Nat}, digit < 16 → isHexDigit digit.digitChar = true := by
  decide

theorem eq_of_digitChar {digit other : Nat} (isDigit : digit < 16) (otherIsDigit : other < 16)
    (equal : digit.digitChar = other.digitChar) : digit = other := by
  have distinct :
      ∀ digit < 16, ∀ other < 16, digit.digitChar = other.digitChar → digit = other := by
    decide
  exact distinct digit isDigit other otherIsDigit equal

theorem isHexDigit_of_mem_toDigits {number : Nat} {char : Char}
    (listed : char ∈ Nat.toDigits 16 number) : isHexDigit char = true := by
  induction number using Nat.strongRecOn with
  | ind number ih =>
      rw [Nat.toDigits_eq_if (by decide)] at listed
      split at listed
      · rename_i isDigit
        obtain rfl := List.mem_singleton.1 listed
        exact isHexDigit_digitChar isDigit
      · rcases List.mem_append.1 listed with higher | last
        · exact ih (number / 16) (by omega) higher
        · obtain rfl := List.mem_singleton.1 last
          exact isHexDigit_digitChar (Nat.mod_lt _ (by decide))

theorem eq_of_toDigits {number other : Nat}
    (digits : Nat.toDigits 16 number = Nat.toDigits 16 other) :
    number = other := by
  induction number using Nat.strongRecOn generalizing other with
  | ind number ih =>
      rw [Nat.toDigits_eq_if (n := number) (by decide), Nat.toDigits_eq_if (n := other) (by decide)]
        at digits
      split at digits <;> split at digits
      · rename_i isDigit otherIsDigit
        exact eq_of_digitChar isDigit otherIsDigit (List.head_eq_of_cons_eq digits)
      · have := congrArg List.length digits
        simp at this
      · have := congrArg List.length digits
        simp at this
      · obtain ⟨higher, last⟩ := List.append_inj' digits rfl
        have high := ih (number / 16) (by omega) higher
        have low := eq_of_digitChar (Nat.mod_lt number (by decide)) (Nat.mod_lt other (by decide))
          (List.head_eq_of_cons_eq last)
        omega

namespace Generation

theorem eq_of_hexDigits {value other : Int32} (digits : hexDigits value = hexDigits other) :
    value = other := by
  have bits := eq_of_toDigits (String.ofList_injective digits)
  exact Int32.toBitVec_inj.1 (congrArg UInt32.toBitVec (UInt32.toNat_inj.1 bits))

/-- The digits by which the names for one group are told from those for another. -/
def tag (group : ViewGroup) : List Char :=
  if group.isRoot then [] else (hexDigits group.id.value).toList

/-- The digits that follow the first four characters of a name. -/
def tagOf (name : String) : List Char := (name.toList.drop 4).takeWhile isHexDigit

theorem value_eq_of_tag {group other : ViewGroup} (tags : tag group = tag other) :
    group.id.value = other.id.value := by
  have nonempty (value : Int32) : (hexDigits value).toList ≠ [] := by
    rw [hexDigits, String.toList_ofList]
    exact Nat.toDigits_ne_nil
  unfold tag at tags
  split at tags <;> split at tags
  · rename_i isRoot otherIsRoot
    exact (of_decide_eq_true isRoot).trans (of_decide_eq_true otherIsRoot).symm
  · exact absurd tags.symm (nonempty _)
  · exact absurd tags (nonempty _)
  · exact eq_of_hexDigits (String.toList_inj.1 tags)

theorem tagOf_slotName_append (group : ViewGroup) {ending : String}
    (apart : ∀ char ∈ ending.toList.head?, isHexDigit char = false) :
    tagOf (slotName group ++ ending) = tag group := by
  unfold tagOf slotName tag
  split
  · rw [String.toList_append]
    rfl
  · rw [String.toList_append, String.toList_append, List.append_assoc,
      List.drop_left' (show "view".toList.length = 4 from rfl), List.takeWhile_append_of_pos]
    · cases chars : ending.toList with
      | nil => simp
      | cons char rest =>
          rw [chars] at apart
          rw [List.takeWhile_cons_of_neg (by simp [apart char rfl]), List.append_nil]
    · intro char listed
      rw [hexDigits, String.toList_ofList] at listed
      exact isHexDigit_of_mem_toDigits listed

/-- The simple name of the listeners of a kind, when they are kept for the method that detaches
them. -/
def keptName? (kind : ListenerKind) : Option String :=
  kind.remover.bind fun _ => (className kind.listenerType).toOption.map ClassName.simpleName

theorem keptName_of_mem_standard {kind : ListenerKind} (listed : kind ∈ ListenerKind.standard)
    {name : String} (kept : keptName? kind = some name) :
    (kind.marker, name) ∈
      [("OnPageChange", "OnPageChangeListener"), ("OnTextChanged", "TextWatcher")] := by
  have all : ListenerKind.standard.filterMap (fun kind => (keptName? kind).map (kind.marker, ·)) =
      [("OnPageChange", "OnPageChangeListener"), ("OnTextChanged", "TextWatcher")] := by
    decide +kernel
  rw [← all]
  exact List.mem_filterMap.2 ⟨kind, listed, by rw [kept]; rfl⟩

theorem apart_of_keptName? {kind : ListenerKind} (listed : kind ∈ ListenerKind.standard)
    {name : String} (kept : keptName? kind = some name) :
    name ≠ "" ∧ ∀ char ∈ name.toList.head?, isHexDigit char = false := by
  have pair := keptName_of_mem_standard listed kept
  simp only [List.mem_cons, Prod.mk.injEq, List.not_mem_nil, or_false] at pair
  rcases pair with ⟨-, rfl⟩ | ⟨-, rfl⟩
  all_goals
    refine ⟨by decide, fun char first => ?_⟩
    cases first
    decide

theorem same_of_keptName? {kind other : ListenerKind} (listed : kind ∈ ListenerKind.standard)
    (otherListed : other ∈ ListenerKind.standard) {name : String}
    (kept : keptName? kind = some name) (otherKept : keptName? other = some name) :
    kind.same other = true := by
  have pair := keptName_of_mem_standard listed kept
  have otherPair := keptName_of_mem_standard otherListed otherKept
  simp only [List.mem_cons, Prod.mk.injEq, List.not_mem_nil, or_false] at pair otherPair
  rw [ListenerKind.same, decide_eq_true_iff]
  rcases pair with ⟨marker, rfl⟩ | ⟨marker, rfl⟩ <;>
    rcases otherPair with ⟨otherMarker, name_eq⟩ | ⟨otherMarker, name_eq⟩
  · rw [marker, otherMarker]
  · exact absurd name_eq (by decide)
  · exact absurd name_eq (by decide)
  · rw [marker, otherMarker]

/-- The names of the fields for a group: its slot, and one field for each listener that is kept. -/
def groupFieldNames (group : ViewGroup) : List String :=
  slotName group :: (group.listeners.filterMap fun listener => keptName? listener.kind).map
    (slotName group ++ ·)

/-- The names of the private fields of a companion. -/
def fieldNames (target : Target) : List String :=
  (if target.keepsTarget then ["target"] else []) ++ (listenerGroups target).flatMap groupFieldNames

theorem name_of_listenerFieldCode {slot : String} {kind : ListenerKind} {field : Option FieldCode}
    (made : listenerFieldCode slot kind = .ok field) :
    field.map FieldCode.name = (keptName? kind).map (slot ++ ·) := by
  unfold listenerFieldCode at made
  unfold keptName?
  split at made
  · rename_i noRemover
    cases made
    simp [noRemover]
  · rename_i remover found
    obtain ⟨type, named, made⟩ := exists_ok_of_bind made
    cases made
    simp [found, named, Except.toOption, listenerField]

/-- Whatever is made for listeners one by one keeps them under the names of their group. -/
theorem kept_of_forall₂ {α : Type} {kept : α → Option String} {slot : String}
    {listeners : List ListenerBinding} {codes : List α}
    (each : List.Forall₂ (fun listener code =>
      kept code = (keptName? listener.kind).map (slot ++ ·)) listeners codes) :
    codes.filterMap kept =
      (listeners.filterMap fun listener => keptName? listener.kind).map (slot ++ ·) := by
  induction each with
  | nil => rfl
  | @cons listener _ _ _ here _ ih => cases name : keptName? listener.kind <;> simp_all

theorem names_of_groupFields {group : ViewGroup} {fields : List FieldCode}
    (made : groupFields group = .ok fields) :
    fields.map FieldCode.name = groupFieldNames group := by
  obtain ⟨listeners, listenersMade, made⟩ := exists_ok_of_bind made
  cases made
  have each := (forall₂_of_mapM listenersMade).imp fun _ _ made => name_of_listenerFieldCode made
  rw [List.map_cons, groupFieldNames, List.map_filterMap, ← kept_of_forall₂ each]
  rfl

theorem names_flatten {groups : List ViewGroup} {fields : List (List FieldCode)}
    (made : List.Forall₂ (fun group fields => groupFields group = .ok fields) groups fields) :
    fields.flatten.map FieldCode.name = groups.flatMap groupFieldNames := by
  induction made with
  | nil => rfl
  | cons groupMade _ ih =>
      rw [List.flatten_cons, List.map_append, List.flatMap_cons, names_of_groupFields groupMade, ih]

theorem names_of_fieldCodes {target : Target} {fields : List FieldCode}
    (made : fieldCodes target = .ok fields) :
    fields.map FieldCode.name = fieldNames target := by
  obtain ⟨groups, groupsMade, made⟩ := exists_ok_of_bind made
  cases made
  rw [List.map_append, fieldNames, names_flatten (forall₂_of_mapM groupsMade)]
  congr 1
  split <;> rfl

theorem tagOf_of_mem_groupFieldNames {group : ViewGroup}
    (standard : ∀ listener ∈ group.listeners, listener.kind ∈ ListenerKind.standard)
    {name : String} (listed : name ∈ groupFieldNames group) : tagOf name = tag group := by
  rcases List.mem_cons.1 listed with rfl | listed
  · rw [← String.append_empty (s := slotName group)]
    exact tagOf_slotName_append group (by simp)
  · obtain ⟨ending, kept, rfl⟩ := List.mem_map.1 listed
    obtain ⟨listener, listens, kept⟩ := List.mem_filterMap.1 kept
    exact tagOf_slotName_append group (apart_of_keptName? (standard listener listens) kept).2

theorem head?_of_mem_groupFieldNames {group : ViewGroup} {name : String}
    (listed : name ∈ groupFieldNames group) : name.toList.head? = some 'v' := by
  have slot : (slotName group).toList.head? = some 'v' := by
    unfold slotName
    split
    · rfl
    · rw [String.toList_append, List.head?_append]
      rfl
  rcases List.mem_cons.1 listed with rfl | listed
  · exact slot
  · obtain ⟨ending, -, rfl⟩ := List.mem_map.1 listed
    rw [String.toList_append, List.head?_append, slot, Option.some_or]

theorem nodup_groupFieldNames {group : ViewGroup}
    (standard : ∀ listener ∈ group.listeners, listener.kind ∈ ListenerKind.standard)
    (kinds : (group.listeners.map ListenerBinding.kind).Pairwise fun kind other =>
      kind.same other = false) : (groupFieldNames group).Nodup := by
  rw [groupFieldNames, List.nodup_cons]
  constructor
  · intro listed
    obtain ⟨ending, kept, equal⟩ := List.mem_map.1 listed
    obtain ⟨listener, listens, kept⟩ := List.mem_filterMap.1 kept
    apply (apart_of_keptName? (standard listener listens) kept).1
    have chars := congrArg String.toList equal
    rw [String.toList_append, List.append_right_eq_self] at chars
    exact String.toList_inj.1 chars
  · refine List.Nodup.map (fun name other equal => ?_) ?_
    · have chars := congrArg String.toList equal
      simp only [String.toList_append] at chars
      exact String.toList_inj.1 (List.append_cancel_left chars)
    · rw [List.pairwise_map] at kinds
      rw [List.Nodup, List.pairwise_filterMap]
      refine kinds.imp_of_mem ?_
      intro listener other listens otherListens apart name kept _ otherKept
      rintro rfl
      rw [same_of_keptName? (standard listener listens) (standard other otherListens) kept
        otherKept]
        at apart
      cases apart

theorem nodup_fieldNames {target : Target}
    (standard : ∀ group ∈ target.groups, ∀ listener ∈ group.listeners,
      listener.kind ∈ ListenerKind.standard)
    (kinds : ∀ group ∈ target.groups, (group.listeners.map ListenerBinding.kind).Pairwise
      fun kind other => kind.same other = false)
    (values : target.groups.Pairwise fun group other => group.id.value ≠ other.id.value) :
    (fieldNames target).Nodup := by
  have listed {group : ViewGroup} (listening : group ∈ listenerGroups target) :
      group ∈ target.groups := (List.mem_filter.1 listening).1
  refine List.nodup_append.2 ⟨?_, ?_, ?_⟩
  · split <;> simp
  · refine List.nodup_flatMap.2 ⟨fun group listening => ?_, ?_⟩
    · exact nodup_groupFieldNames (standard group (listed listening))
        (kinds group (listed listening))
    · refine (values.sublist List.filter_sublist).imp_of_mem
        fun {group other} listening otherListening differ name here there => ?_
      apply differ
      apply value_eq_of_tag
      rw [← tagOf_of_mem_groupFieldNames (standard group (listed listening)) here,
        tagOf_of_mem_groupFieldNames (standard other (listed otherListening)) there]
  · intro name isTarget other listening
    rw [List.mem_ite_nil_right, List.mem_singleton] at isTarget
    obtain ⟨-, rfl⟩ := isTarget
    rintro rfl
    obtain ⟨group, -, listening⟩ := List.mem_flatMap.1 listening
    have head := head?_of_mem_groupFieldNames listening
    exact absurd head (by decide)

end Generation
end Companion
