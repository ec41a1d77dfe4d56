import Companion.Proofs.Declaration.Json
import Companion.ResourceIndex.Json

/-!
# Resource indices read back from JSON

Every index is read back from what it is written as, in either form and with classes nested to any
depth.
-/

namespace Companion

open Json

/-- The modifiers of a part that is read only when it is complete. -/
theorem list?_modifiers (modifiers : List Modifier) :
    list? (name? Modifier.ofName?)
      (.ofList (modifiers.map fun modifier => .text modifier.name)) = some modifiers :=
  list?_ofList modifiers fun modifier _ => modifier.ofName?_name

namespace SourceField

theorem ofJson?_toJson (field : SourceField) : SourceField.ofJson? field.toJson = some field := by
  have initializer := nullable?_ofOption .text text? field.initializer (fun _ => nofun) fun _ => rfl
  simp [SourceField.ofJson?, toJson, record?, entries?, field?, fieldOr?, List.lookup_cons, text?,
    list?_modifiers, initializer]

@[simp]
theorem firstFault_toJson (field : SourceField) : field.toJson.firstFault = none := by
  simp [toJson]

end SourceField

namespace SourceClass

mutual

theorem ofJson?_toJson : ∀ tree : SourceClass, SourceClass.ofJson? tree.toJson = some tree
  | ⟨name, modifiers, fields, nested⟩ => by
    have readFields := list?_ofList fields fun field _ => field.ofJson?_toJson
    have readNested := all?_toJsonAll nested
    simp [SourceClass.ofJson?, toJson, ofFields?, record?, entries?, keys, field?, fieldOr?,
      List.lookup_cons, text?, nestedIn?, itemsOf?, list?_modifiers, readFields, readNested]

theorem all?_toJsonAll : ∀ trees : List SourceClass, all? (toJsonAll trees) = some trees
  | [] => rfl
  | tree :: rest => by
    rw [toJsonAll, all?, ofJson?_toJson tree, all?_toJsonAll rest]
    rfl

end

mutual

theorem firstFault_toJson : ∀ tree : SourceClass, tree.toJson.firstFault = none
  | ⟨name, modifiers, fields, nested⟩ => by
    have wholeNested := firstFault_of_mem_toJsonAll nested
    simpa [toJson] using wholeNested

theorem firstFault_of_mem_toJsonAll : ∀ trees : List SourceClass,
    ∀ json ∈ toJsonAll trees, json.firstFault = none
  | [], _, listed => by cases listed
  | tree :: rest, _, listed => by
    rcases List.mem_cons.1 listed with rfl | later
    · exact firstFault_toJson tree
    · exact firstFault_of_mem_toJsonAll rest _ later

end

end SourceClass

namespace CompiledMember

theorem ofJson?_toJson (member : CompiledMember) :
    CompiledMember.ofJson? member.toJson = some member := by
  have constant := nullable?_ofOption (fun value => .integer value.toInt) int32? member.constant
    (fun _ => nofun) int32?_toInt
  simp [CompiledMember.ofJson?, toJson, record?, entries?, field?, fieldOr?, List.lookup_cons,
    text?, constant]

@[simp]
theorem firstFault_toJson (member : CompiledMember) : member.toJson.firstFault = none := by
  simp [toJson]

end CompiledMember

namespace CompiledClass

theorem ofJson?_toJson (compiled : CompiledClass) :
    CompiledClass.ofJson? compiled.toJson = some compiled := by
  have members := list?_ofList compiled.members fun member _ => member.ofJson?_toJson
  simp [CompiledClass.ofJson?, toJson, record?, entries?, field?, fieldOr?, List.lookup_cons, text?,
    members]

@[simp]
theorem firstFault_toJson (compiled : CompiledClass) : compiled.toJson.firstFault = none := by
  simp [toJson]

end CompiledClass

namespace IndexForm

theorem ofEntries?_toEntries (form : IndexForm) : ofEntries? form.toEntries = some form := by
  cases form with
  | source tree =>
      simp [ofEntries?, toEntries, entries?, field?, List.lookup_cons, tag?, tree.ofJson?_toJson]
  | compiled classes =>
      have read := list?_ofList classes fun compiled _ => compiled.ofJson?_toJson
      simp [ofEntries?, toEntries, entries?, field?, fieldOr?, List.lookup_cons, tag?, read]

/-- What tells the form of an index stands under keys of its own and can be taken. -/
theorem isOther_of_mem_toEntries {form : IndexForm} {entry : String × Json}
    (listed : entry ∈ form.toEntries) : entry.1 ≠ "name" ∧ entry.2.firstFault = none := by
  cases form with
  | source tree =>
      simp only [toEntries, List.mem_cons, List.not_mem_nil, or_false] at listed
      rcases listed with rfl | rfl <;> simp [tree.firstFault_toJson]
  | compiled classes =>
      simp only [toEntries, List.mem_cons, List.not_mem_nil, or_false] at listed
      rcases listed with rfl | rfl <;> simp

end IndexForm

namespace ResourceIndex

theorem Draft.step_other {key : String} {value : Json} (other : key ≠ "name")
    (whole : value.firstFault = none) (draft : Draft) :
    draft.step key value = .ok { draft with others := (key, value) :: draft.others } := by
  rw [Draft.step.eq_2 draft key value other, check, whole]
  rfl

/-- The keys that tell the form of an index are kept for later. -/
theorem foldlM_toEntries (name : Option String) (form : IndexForm) :
    form.toEntries.foldlM (fun draft (key, value) => Draft.step draft key value) ⟨name, []⟩ =
      .ok ⟨name, form.toEntries.reverse⟩ := by
  refine foldlM_keep (Draft.mk name) ?_
  intro entry listed kept
  have isOther := IndexForm.isOther_of_mem_toEntries listed
  exact Draft.step_other isOther.1 isOther.2 _

theorem decode_toJson (index : ResourceIndex) :
    ResourceIndex.decode index.toJson = .ok index := by
  have walked := foldlM_toEntries (some index.name) index.form
  rw [ResourceIndex.decode, toJson,
    foldEntries_ofEntries ⟨some index.name, index.form.toEntries.reverse⟩]
  · change (do
      let form ← shaped (IndexForm.ofEntries? index.form.toEntries.reverse.reverse)
      return ResourceIndex.mk index.name form) = _
    rw [List.reverse_reverse, IndexForm.ofEntries?_toEntries]
    rfl
  · exact walked

end ResourceIndex
end Companion
