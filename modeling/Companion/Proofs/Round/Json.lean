import Companion.Proofs.ResourceIndex.Json
import Companion.Round.Json

/-!
# Rounds read back from JSON

A round is read back from what it is written as, with the order of its options and of the keys of
every annotation.
-/

namespace Companion
namespace Round

open Json

/-- The types that the declarations of a round refer to. -/
def mentionedTypes (round : Round) : List SourceType :=
  round.types.flatMap TypeDecl.mentionedTypes

/-- Reading back what a round is written as gives the round, when the types in it are read back
from their spellings. -/
theorem decode_toJson_of_readsBack (round : Round)
    (readBack : ∀ type ∈ round.mentionedTypes, type.ReadsBack) :
    Round.decode round.toJson = .ok round := by
  have options := asTable_ofEntries .text asText round.options fun _ _ => rfl
  have types := asList_ofList round.types fun decl listed =>
    TypeDecl.decode_toJson fun type mentioned =>
      readBack type (List.mem_flatMap.2 ⟨decl, listed, mentioned⟩)
  have indices := asList_ofList round.indices fun index _ => index.decode_toJson
  simp only [Round.decode, toJson, foldFields, foldEntries, List.foldlM_cons, List.foldlM_nil,
    Draft.step, once, options, types, indices]
  rfl

/-- A round with every sort of part: values of annotations in all their forms, types of all sorts
and indices in both forms. -/
def variedRound : Round :=
  let list := SourceType.declared "java.util.List" [.wildcard (.named "android.view.View")]
  let bound := SourceType.typeVariable "T" (.named "android.view.View")
  let views := ((Member.field "views" list).annotated ⟨"BindViews", .ofList
      [("value", .ids [.literal 1, ⟨-2, some "a.R.id.title"⟩]), ("none", .ids [])]⟩).withModifier
    .final
  let title := (Member.field "title" bound).annotated ⟨"BindView", .ofList
      [("value", .id ⟨3, some "a.R.id.title"⟩), ("strict", .flag true), ("note", .text "7")]⟩
  let click := Member.method "click" .void [.array (.primitive .int), .unresolved "a.Later",
    .declared "a.Pair" [.anyWildcard, list]]
  let host := ((([views, title, click].foldl TypeDecl.withMember
      (.ofName .classType "a.Host")).extending (.named "a.Base")).implementing list).onClasspath
  let inner : SourceClass := ⟨"id", [.publicAccess, .static],
    [⟨"title", "int", [.final], some "0x7f0a0001"⟩, ⟨"other", "int", [], none⟩], []⟩
  ⟨.ofList [("debuggable", "false"), ("minSdk", "21")], [host, .ofName .interfaceType "a.Listener"],
    [⟨"a.R", .source ⟨"R", [], [], [⟨"wrapped", [], [], [inner]⟩]⟩⟩,
      ⟨"b.R", .compiled [⟨"id", [⟨"title", some (-1)⟩, ⟨"other", none⟩]⟩]⟩]⟩

theorem decode_toJson_variedRound :
    (∀ type ∈ variedRound.mentionedTypes, type.ReadsBack) ∧
      Round.decode variedRound.toJson = .ok variedRound := by
  have readBack : ∀ type ∈ variedRound.mentionedTypes, type.ReadsBack := by decide +kernel
  exact ⟨readBack, decode_toJson_of_readsBack variedRound readBack⟩

end Round
end Companion
