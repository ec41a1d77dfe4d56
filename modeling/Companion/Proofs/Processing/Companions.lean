import Companion.Proofs.Code.Teardown
import Companion.Proofs.Collection.Holdings
import Companion.Proofs.Collection.Uses

/-!
# Companions of a round

Every linked target of a round has a companion, whatever the options.  Its private fields have
different names, because different groups of one class have different numbers.
-/

namespace Companion
namespace Processing

open Collection

variable {environment : Environment} {name : String} {set : LinkedTarget}

/-- What is worked out of a collected target is so of the linked one. -/
theorem value_of_collect {kinds : List ListenerKind} {α : Type} {value : α} (of : Target → α)
    (found : (collect environment kinds).targets.get? name = some set)
    (known : ((Collection.collect environment kinds).collected.targets.get? name).map of =
      some value) : of set.toTarget = value := by
  rw [get?_of_collect found] at known
  exact Option.some.inj known

theorem isWritable_of_isCallable {world : Universe} {decl : TypeDecl} {listener : ListenerBinding}
    (standard : listener.kind ∈ ListenerKind.standard)
    (callable : IsCallable world decl listener) : listener.IsWritable := by
  refine ⟨ListenerKind.isReadable_of_mem_standard standard, ?_⟩
  intro bound isBound method calls
  obtain ⟨member, -, suits⟩ := callable.suits bound isBound method calls
  exact suits.position_lt

theorem exists_made_of_collect
    (found : (collect environment ListenerKind.standard).targets.get? name = some set)
    (options : Options) : ∃ code, CompanionCode.ofTarget options set = .ok code := by
  obtain ⟨decl, -, justified, entries, recorded⟩ := exists_isRecorded_of_collect found
  apply Generation.exists_ofTarget
  intro group listed listener listens
  exact isWritable_of_isCallable ((justified.group group listed).kind listener listens)
    (justified.isCallable recorded.records listed listens)

theorem nodup_fieldNames_of_collect
    (found : (collect environment ListenerKind.standard).targets.get? name = some set) :
    (Generation.fieldNames set.toTarget).Nodup := by
  obtain ⟨decl, -, justified, entries, recorded⟩ := exists_isRecorded_of_collect found
  have records := recorded.records
  refine Generation.nodup_fieldNames ?_ ?_ (justified.pairwise_value records.distinct)
  · intro group listed
    exact (justified.group group listed).kind
  · intro group listed
    exact (records.filled group listed).distinct

/-- The companion of each set of a round is made, and its private fields are the target, the slots
and the kept listeners.  No two of their names are the same. -/
theorem nodup_names_of_collect
    (found : (collect environment ListenerKind.standard).targets.get? name = some set)
    (options : Options) : ∃ code, CompanionCode.ofTarget options set = .ok code ∧
      code.fields.map FieldCode.name = Generation.fieldNames set.toTarget ∧
      (code.fields.map FieldCode.name).Nodup := by
  obtain ⟨code, made⟩ := exists_made_of_collect found options
  have names := Generation.names_of_fieldCodes (Generation.parts_of_ofTarget made).1
  refine ⟨code, made, names, ?_⟩
  rw [names]
  exact nodup_fieldNames_of_collect found

/-- A class with a field and methods for the same view, methods for another view, which may be
missing, and one for the bound object. -/
def crowdedClass : TypeDecl :=
  let title := (Member.field "title" (.named "android.view.View")).annotated
    ⟨"BindView", .ofList [("value", .id (.literal 1))]⟩
  let turn := (Member.method "turn" .void [.primitive .int]).annotated
    ⟨"OnPageChange", .ofList [("value", .id (.literal 1))]⟩
  let write := ((Member.method "write" .void
      [.primitive .int, .named "java.lang.CharSequence"]).annotated
    ⟨"OnTextChanged", .ofList [("value", .ids [.literal 1, .literal (-2)])]⟩).annotated
    ⟨"Optional", .empty⟩
  let note := (Member.method "note" .void []).annotated
    ⟨"OnTextChanged", .ofList [("value", .id (.literal 1))]⟩
  let touch := (Member.method "touch" .void []).annotated ⟨"OnTouch", .empty⟩
  [title, turn, longClicked "hold" [1], write, note, touch].foldl TypeDecl.withMember
    (.ofName .classType "a.Host")

/-- The round of this class. -/
def crowdedRound : Environment := ⟨Universe.empty.put crowdedClass, .empty, .empty⟩

theorem exists_set_crowdedRound :
    ∃ set, (collect crowdedRound ListenerKind.standard).targets.get? "a.Host" = some set :=
  exists_linked_of_collect (by decide +kernel) (by decide +kernel)

theorem nodup_names_crowdedRound : ∃ set code,
    (collect crowdedRound ListenerKind.standard).targets.get? "a.Host" = some set ∧
    CompanionCode.ofTarget .default set = .ok code ∧
    code.fields.map FieldCode.name = ["target", "view1", "view1OnPageChangeListener",
      "view1TextWatcher", "viewfffffffe", "viewfffffffeTextWatcher", "viewSource"] ∧
    (code.fields.map FieldCode.name).Nodup := by
  obtain ⟨set, found⟩ := exists_set_crowdedRound
  obtain ⟨code, made, names, nodup⟩ := nodup_names_of_collect found .default
  have fields : Generation.fieldNames set.toTarget = ["target", "view1",
      "view1OnPageChangeListener", "view1TextWatcher", "viewfffffffe", "viewfffffffeTextWatcher",
      "viewSource"] :=
    value_of_collect _ found (by decide +kernel)
  exact ⟨set, code, found, made, names.trans fields, nodup⟩

end Processing
end Companion
