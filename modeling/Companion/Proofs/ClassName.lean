import Companion.ClassName

/-!
# Class names in dotted texts

A text that names a class is the canonical name of that class, so two texts never name the same one.
What follows its package names a class as well: one of the same simple names in the unnamed package.
-/

namespace Companion

namespace Text

theorem not_mem_of_mem_splitOn {separator : Char} {text piece : List Char}
    (listed : piece ∈ text.splitOn separator) : separator ∉ piece := by
  induction text generalizing piece with
  | nil =>
      rw [List.splitOn_nil, List.mem_singleton] at listed
      simp [listed]
  | cons c rest ih =>
      rw [List.splitOn_cons_eq_if_modifyHead] at listed
      split at listed
      · rcases List.mem_cons.1 listed with rfl | later
        · simp
        · exact ih later
      · rename_i other
        obtain ⟨first, more, pieces_eq⟩ :=
          List.exists_cons_of_ne_nil (List.splitOn_ne_nil separator rest)
        rw [pieces_eq] at ih listed
        rcases List.mem_cons.1 listed with rfl | later
        · rw [List.mem_cons, not_or]
          exact ⟨fun same => other (beq_iff_eq.2 same.symm), ih List.mem_cons_self⟩
        · exact ih (List.mem_cons_of_mem first later)

theorem dot_not_mem_of_mem_segments {text segment : String} (listed : segment ∈ segments text) :
    '.' ∉ segment.toList := by
  obtain ⟨piece, cutOff, rfl⟩ := List.mem_map.1 listed
  rw [String.toList_ofList]
  exact not_mem_of_mem_splitOn cutOff

theorem toList_dotted (names : List String) :
    (dotted names).toList = ['.'].intercalate (names.map String.toList) :=
  String.toList_intercalate

theorem dotted_segments (text : String) : dotted (segments text) = text := by
  refine String.toList_inj.1 ?_
  rw [toList_dotted, segments, List.map_map, Function.comp_def]
  simp only [String.toList_ofList, List.map_id']
  exact List.intercalate_splitOn '.'

theorem segments_dotted {names : List String} (filled : names ≠ [])
    (dotFree : ∀ name ∈ names, '.' ∉ name.toList) : segments (dotted names) = names := by
  have dotFree : ∀ piece ∈ names.map String.toList, '.' ∉ piece :=
    List.forall_mem_map.2 dotFree
  rw [segments, toList_dotted, List.splitOn_intercalate '.' dotFree (by simpa using filled),
    List.map_map, Function.comp_def]
  simp only [String.ofList_toList, List.map_id']

/-- Segments in front of others are left out with their dot only if there are none. -/
theorem dotted_append {front back : List String} (filled : "" ∉ front)
    (dotFree : ∀ name ∈ front, '.' ∉ name.toList) (back_ne : back ≠ []) :
    dotted (front ++ back) =
      if dotted front = "" then dotted back else dotted front ++ "." ++ dotted back := by
  by_cases front_eq : front = []
  · subst front_eq
    rfl
  · have front_ne : dotted front ≠ "" := by
      intro blank
      apply filled
      rw [← segments_dotted front_eq dotFree, blank]
      decide
    rw [if_neg front_ne]
    exact String.intercalate_append_of_ne_nil front_eq back_ne

/-- The simple names of a class are taken for a class without a package. -/
theorem packageLength_drop (names : List String) :
    packageLength (names.drop (packageLength names)) = 0 := by
  cases found : names.findIdx? startsUpper with
  | some index =>
      obtain ⟨inside, upper, -⟩ := List.findIdx?_eq_some_iff_getElem.1 found
      have length_eq : packageLength names = index := by rw [packageLength, found]; rfl
      rw [length_eq, List.drop_eq_getElem_cons inside, packageLength, List.findIdx?_cons,
        if_pos upper]
      rfl
  | none =>
      have length_eq : packageLength names = names.length - 1 := by rw [packageLength, found]; rfl
      have lower := List.findIdx?_eq_none_iff.1 found
      have restLower : (names.drop (names.length - 1)).findIdx? startsUpper = none :=
        List.findIdx?_eq_none_iff.2 fun name listed => lower name (List.mem_of_mem_drop listed)
      rw [length_eq, packageLength, restLower, List.length_drop, Option.getD_none]
      omega

end Text

namespace ClassName

open Text

variable {text other : String} {name first second : ClassName}

theorem names_ne_nil (name : ClassName) : name.names ≠ [] := List.cons_ne_nil _ _

theorem eq_of_package_eq_of_names_eq (package : first.package = second.package)
    (names : first.names = second.names) : first = second := by
  cases first
  cases second
  cases package
  cases names
  rfl

theorem package_eq_of_topLevel_eq (same : first.topLevel = second.topLevel) :
    first.package = second.package := by
  have package_eq := congrArg ClassName.package same
  exact package_eq

theorem ofNames_eq_ok_iff {package : String} {names : List String} :
    ofNames package names = .ok name ↔
      "" ∉ names ∧ name.package = package ∧ name.names = names := by
  cases names with
  | nil => simp [ofNames, ClassName.names]
  | cons outer inner =>
      rw [ofNames]
      by_cases blank : "" ∈ outer :: inner
      · rw [if_pos blank]
        simp [blank]
      · rw [if_neg blank, Except.ok.injEq, and_iff_right blank]
        constructor
        · rintro rfl
          exact ⟨rfl, rfl⟩
        · rintro ⟨package_eq, names_eq⟩
          exact eq_of_package_eq_of_names_eq package_eq.symm names_eq.symm

theorem ofText_eq_ok_iff : ofText text = .ok name ↔ "" ∉ segments text ∧
    name.package = dotted ((segments text).take (packageLength (segments text))) ∧
    name.names = (segments text).drop (packageLength (segments text)) := by
  rw [ofText]
  by_cases blank : "" ∈ segments text
  · simp [blank]
  · have kept : "" ∉ (segments text).drop (packageLength (segments text)) :=
      fun listed => blank (List.mem_of_mem_drop listed)
    rw [if_neg blank, ofNames_eq_ok_iff, and_iff_right kept, and_iff_right blank]

/-- Whether a class is named by some text. -/
def IsNamed (name : ClassName) : Prop := ∃ text, ofText text = .ok name

/-- A text is the canonical name of the class that it names. -/
theorem canonical_of_ofText (named : ofText text = .ok name) : name.canonical = text := by
  obtain ⟨filled, package_eq, names_eq⟩ := ofText_eq_ok_iff.1 named
  have frontFilled : "" ∉ (segments text).take (packageLength (segments text)) :=
    fun listed => filled (List.mem_of_mem_take listed)
  have dotFree : ∀ segment ∈ (segments text).take (packageLength (segments text)),
      '.' ∉ segment.toList :=
    fun segment listed => dot_not_mem_of_mem_segments (List.mem_of_mem_take listed)
  rw [canonical, inPackage, package_eq,
    ← dotted_append frontFilled dotFree (names_ne_nil name), names_eq, List.take_append_drop,
    dotted_segments]

theorem IsNamed.segments_dotted (named : name.IsNamed) :
    segments (dotted name.names) = name.names := by
  obtain ⟨text, named⟩ := named
  obtain ⟨-, -, names_eq⟩ := ofText_eq_ok_iff.1 named
  refine Text.segments_dotted (names_ne_nil name) fun simple listed => ?_
  rw [names_eq] at listed
  exact dot_not_mem_of_mem_segments (List.mem_of_mem_drop listed)

theorem IsNamed.eq_of_canonical_eq (firstNamed : first.IsNamed) (secondNamed : second.IsNamed)
    (same : first.canonical = second.canonical) : first = second := by
  obtain ⟨text, firstNamed⟩ := firstNamed
  obtain ⟨other, secondNamed⟩ := secondNamed
  rw [canonical_of_ofText firstNamed, canonical_of_ofText secondNamed] at same
  subst same
  exact Except.ok.inj (firstNamed.symm.trans secondNamed)

/-- A class with the simple names of another one as its canonical name is in the unnamed package. -/
theorem IsNamed.of_canonical_eq_dotted (firstNamed : first.IsNamed) (secondNamed : second.IsNamed)
    (same : second.canonical = dotted first.names) :
    second.package = "" ∧ second.names = first.names := by
  obtain ⟨text, firstNamed⟩ := firstNamed
  obtain ⟨other, secondNamed⟩ := secondNamed
  rw [canonical_of_ofText secondNamed] at same
  subst same
  obtain ⟨-, -, names_eq⟩ := ofText_eq_ok_iff.1 firstNamed
  obtain ⟨-, package_eq, others_eq⟩ := ofText_eq_ok_iff.1 secondNamed
  have unpackaged : packageLength first.names = 0 := by
    rw [names_eq]
    exact packageLength_drop (segments text)
  rw [IsNamed.segments_dotted ⟨text, firstNamed⟩, unpackaged] at package_eq others_eq
  exact ⟨package_eq, others_eq⟩

end ClassName
end Companion
