import Companion.Declaration.Json
import Companion.Proofs.Json.Decode
import Companion.Proofs.SourceType.Spelling

/-!
# Declarations read back from JSON

What a declaration is written as is read back as the same declaration, as long as the spellings of
its types are.  The order in which the forms of an annotation value are tried decides nothing,
because no two forms are written alike.
-/

namespace Companion

open Json

namespace SourceType

theorem decode_toJson {type : SourceType} (readsBack : type.ReadsBack) :
    SourceType.decode type.toJson = .ok type := by
  change shaped (ofText type.spelled).toOption = _
  rw [readsBack]
  rfl

@[simp]
theorem firstFault_toJson (type : SourceType) : type.toJson.firstFault = none := rfl

theorem ofJson?_toJson {type : SourceType} (readsBack : type.ReadsBack) :
    SourceType.ofJson? type.toJson = some type :=
  congrArg Except.toOption readsBack

end SourceType

theorem int32?_toInt (value : Int32) : int32? (.integer value.toInt) = some value := by
  have inRange : -0x80000000 ≤ value.toInt ∧ value.toInt < 0x80000000 :=
    ⟨value.le_toInt, value.toInt_lt⟩
  rw [int32?, IntLiteral.inRange?, if_pos inRange, Int32.ofInt_toInt]

namespace IdValue

theorem ofJson?_toJson (id : IdValue) : IdValue.ofJson? id.toJson = some id := by
  obtain ⟨value, _ | symbol⟩ := id <;>
    simp [IdValue.ofJson?, toJson, int32?.eq_2, entries?, field?, fieldOr?, List.lookup_cons,
      int32?_toInt, nullable?, text?]

@[simp]
theorem firstFault_toJson (id : IdValue) : id.toJson.firstFault = none := by
  obtain ⟨value, _ | symbol⟩ := id <;> rfl

end IdValue

namespace AnnotationValue

/-- What is not a truth value is tried as an id before anything else. -/
theorem ofJson?_of_id {json : Json} {value : IdValue} (notFlag : ∀ flag, json ≠ .bool flag)
    (read : IdValue.ofJson? json = some value) :
    AnnotationValue.ofJson? json = some (.id value) := by
  rw [AnnotationValue.ofJson?.eq_2 json notFlag, read]

/-- What is not an id may be a list of ids. -/
theorem ofJson?_of_ids {json : Json} {values : List IdValue} (notFlag : ∀ flag, json ≠ .bool flag)
    (notId : IdValue.ofJson? json = none) (read : json.list? IdValue.ofJson? = some values) :
    AnnotationValue.ofJson? json = some (.ids values) := by
  rw [AnnotationValue.ofJson?.eq_2 json notFlag, notId, read]

theorem ofJson?_toJson (value : AnnotationValue) :
    AnnotationValue.ofJson? value.toJson = some value := by
  cases value with
  | flag value => rfl
  | id value =>
      refine ofJson?_of_id (fun flag same => ?_) value.ofJson?_toJson
      obtain ⟨number, _ | symbol⟩ := value <;> cases same
  | ids values =>
      have read : (toJson (.ids values)).list? IdValue.ofJson? = some values :=
        list?_ofList values fun value _ => value.ofJson?_toJson
      exact ofJson?_of_ids (fun flag same => by cases same) rfl read
  | text value => rfl

theorem firstFault_toJson (value : AnnotationValue) : value.toJson.firstFault = none := by
  cases value with
  | flag value => rfl
  | id value => exact value.firstFault_toJson
  | ids values => simp [toJson]
  | text value => rfl

theorem decode_toJson (value : AnnotationValue) :
    AnnotationValue.decode value.toJson = .ok value := by
  rw [AnnotationValue.decode, check, firstFault_toJson, ofJson?_toJson]
  rfl

end AnnotationValue

theorem AnnotationUse.decode_toJson (use : AnnotationUse) :
    AnnotationUse.decode use.toJson = .ok use := by
  have values := asTable_ofEntries AnnotationValue.toJson AnnotationValue.decode use.values
    fun entry _ => AnnotationValue.decode_toJson entry.2
  simp only [AnnotationUse.decode, toJson, foldFields, foldEntries, List.foldlM_cons,
    List.foldlM_nil, Draft.step, once, asText, values]
  rfl

namespace MemberKind

/-- The types that tell what a member is. -/
def types : MemberKind → List SourceType
  | .field type => [type]
  | .method returnType parameters => returnType :: parameters

theorem ofEntries?_toEntries {kind : MemberKind} (readBack : ∀ type ∈ kind.types, type.ReadsBack) :
    ofEntries? kind.toEntries = some kind := by
  cases kind with
  | field type =>
      have read := SourceType.ofJson?_toJson (readBack type List.mem_cons_self)
      simp [ofEntries?, toEntries, entries?, field?, List.lookup_cons, tag?, read]
  | method returnType parameters =>
      have read := SourceType.ofJson?_toJson (readBack returnType List.mem_cons_self)
      have readAll := list?_ofList parameters fun type listed =>
        SourceType.ofJson?_toJson (readBack type (List.mem_cons_of_mem _ listed))
      simp [ofEntries?, toEntries, entries?, field?, fieldOr?, List.lookup_cons, tag?, read,
        readAll]

/-- What tells what a member is stands under keys of its own and can be taken. -/
theorem isOther_of_mem_toEntries {kind : MemberKind} {entry : String × Json}
    (listed : entry ∈ kind.toEntries) :
    (entry.1 ≠ "name" ∧ entry.1 ≠ "modifiers" ∧ entry.1 ≠ "annotations") ∧
      entry.2.firstFault = none := by
  cases kind with
  | field type =>
      simp only [toEntries, List.mem_cons, List.not_mem_nil, or_false] at listed
      rcases listed with rfl | rfl <;> simp
  | method returnType parameters =>
      simp only [toEntries, List.mem_cons, List.not_mem_nil, or_false] at listed
      rcases listed with rfl | rfl | rfl <;> simp

end MemberKind

namespace Member

theorem Draft.step_other {key : String} {value : Json}
    (other : key ≠ "name" ∧ key ≠ "modifiers" ∧ key ≠ "annotations")
    (whole : value.firstFault = none) (draft : Draft) :
    draft.step key value = .ok { draft with others := (key, value) :: draft.others } := by
  rw [Draft.step.eq_4 draft key value other.1 other.2.1 other.2.2, check, whole]
  rfl

/-- The keys that tell what a member is are kept for later. -/
theorem foldlM_toEntries (draft : Draft) (kind : MemberKind) :
    kind.toEntries.foldlM (fun draft (key, value) => Draft.step draft key value)
        { draft with others := [] } =
      .ok { draft with others := kind.toEntries.reverse } := by
  refine foldlM_keep (fun others => { draft with others := others }) ?_
  intro entry listed kept
  have isOther := MemberKind.isOther_of_mem_toEntries listed
  exact Draft.step_other isOther.1 isOther.2 _

theorem decode_toJson {member : Member}
    (readBack : ∀ type ∈ member.kind.types, type.ReadsBack) :
    Member.decode member.toJson = .ok member := by
  have modifiers := asList_asName Modifier.ofName?_name member.modifiers
  have annotations := asList_ofList member.annotations fun use _ => use.decode_toJson
  have walked := foldlM_toEntries
    ⟨some member.name, some member.modifiers, some member.annotations, []⟩ member.kind
  rw [Member.decode, toJson, foldEntries_ofEntries ⟨some member.name, some member.modifiers,
    some member.annotations, member.kind.toEntries.reverse⟩]
  · change (do
      let kind ← shaped (MemberKind.ofEntries? member.kind.toEntries.reverse.reverse)
      return Member.mk member.name member.modifiers member.annotations kind) = _
    rw [List.reverse_reverse, MemberKind.ofEntries?_toEntries readBack]
    rfl
  · simp only [List.foldlM_append, List.foldlM_cons, List.foldlM_nil, Draft.step, once, asText,
      modifiers, annotations]
    exact walked

end Member

namespace TypeDecl

/-- The types that a declaration refers to. -/
def mentionedTypes (decl : TypeDecl) : List SourceType :=
  decl.superclass.toList ++ decl.interfaces ++ decl.members.flatMap fun member => member.kind.types

theorem decode_toJson {decl : TypeDecl} (readBack : ∀ type ∈ decl.mentionedTypes, type.ReadsBack) :
    TypeDecl.decode decl.toJson = .ok decl := by
  have modifiers := asList_asName Modifier.ofName?_name decl.modifiers
  have superclass := asOption_ofOption SourceType.toJson SourceType.decode decl.superclass
    (fun _ => nofun) fun type given =>
      SourceType.decode_toJson (readBack type (by simp_all [mentionedTypes]))
  have interfaces := asList_ofList decl.interfaces fun type listed =>
    SourceType.decode_toJson (readBack type (by simp [mentionedTypes, listed]))
  have members := asList_ofList decl.members fun member listed =>
    Member.decode_toJson fun type mentioned => readBack type (by
      simp only [mentionedTypes, List.mem_append, List.mem_flatMap]
      exact .inr ⟨member, listed, mentioned⟩)
  simp only [TypeDecl.decode, toJson, foldFields, foldEntries, List.foldlM_cons, List.foldlM_nil,
    Draft.step, once, asText, asName, TypeKind.ofName?_name, Origin.ofName?_name, modifiers,
    superclass, interfaces, members]
  rfl

end TypeDecl
end Companion
