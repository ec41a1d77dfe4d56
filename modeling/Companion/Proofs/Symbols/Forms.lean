import Companion.Proofs.Symbols

/-!
# The two forms of an index

An index is known from its source or in compiled form.  The two forms are read in different ways,
but what they list is the same, constant by constant and in the same order.  So the same ids are
recorded for an index in either form, also where several of its constants have one number.
-/

namespace Companion

/-- A field in compiled form.  A field that is no integer constant has no value there. -/
def SourceField.compiled (field : SourceField) : CompiledMember :=
  ⟨field.name, if field.type = "int" then field.intValue? else none⟩

namespace SourceClass

/-- A class in compiled form, without the classes nested in it. -/
def compiled (tree : SourceClass) : CompiledClass :=
  ⟨tree.name, tree.fields.map SourceField.compiled⟩

/-- A class has the same entries in both forms. -/
theorem entries_compiled (tree : SourceClass) : tree.compiled.entries = tree.entries := by
  have entry_eq (field : SourceField) :
      (field.compiled.constant.map fun value =>
        (⟨⟨tree.name, field.compiled.name⟩, value⟩ : IndexEntry)) =
      if field.type = "int" then
        field.intValue?.map fun value => ⟨⟨tree.name, field.name⟩, value⟩
      else none := by
    unfold SourceField.compiled
    split <;> rfl
  rw [CompiledClass.entries, entries, compiled, List.filterMap_map, List.filterMap_filter]
  simp only [Function.comp_def, entry_eq, decide_eq_true_eq]

mutual

/-- The classes nested in a class, to any depth, each followed by those nested in it. -/
def inner : SourceClass → List SourceClass
  | ⟨_, _, _, nested⟩ => innerAll nested

/-- Several classes, each followed by those nested in it. -/
def innerAll : List SourceClass → List SourceClass
  | [] => []
  | tree :: rest => tree :: inner tree ++ innerAll rest

end

mutual

theorem nestedEntries_eq_flatMap : ∀ tree : SourceClass,
    tree.nestedEntries = tree.inner.flatMap entries
  | ⟨_, _, _, nested⟩ => by
    rw [nestedEntries, inner, nestedEntriesAll_eq_flatMap nested]

theorem nestedEntriesAll_eq_flatMap : ∀ trees : List SourceClass,
    nestedEntriesAll trees = (innerAll trees).flatMap entries
  | [] => rfl
  | tree :: rest => by
    rw [nestedEntriesAll, innerAll, nestedEntries_eq_flatMap tree,
      nestedEntriesAll_eq_flatMap rest, List.cons_append, List.flatMap_cons, List.flatMap_append,
      List.append_assoc]

end

/-- When nothing is nested deeper, the classes nested in a class are its own. -/
theorem inner_eq_nested {tree : SourceClass} (flat : ∀ child ∈ tree.nested, child.nested = []) :
    tree.inner = tree.nested := by
  obtain ⟨name, modifiers, fields, nested⟩ := tree
  rw [inner]
  induction nested with
  | nil => rfl
  | cons child rest ih =>
      obtain ⟨childFlat, restFlat⟩ := List.forall_mem_cons.1 flat
      have childInner : child.inner = [] := by
        obtain ⟨_, _, _, _⟩ := child
        cases childFlat
        rfl
      rw [innerAll, childInner, ih restFlat]
      rfl

end SourceClass

/-- An index in source form lists what the compiled forms of its classes do, in the same order. -/
theorem IndexForm.entries_compiled (tree : SourceClass) :
    (compiled (tree.inner.map SourceClass.compiled)).entries = (source tree).entries := by
  rw [entries, entries, SourceClass.nestedEntries_eq_flatMap, List.flatMap_map]
  exact List.flatMap_congr fun child _ => child.entries_compiled

/-- Whether two indices of one package, whatever their simple names, are the source form and the
compiled form of the same classes. -/
structure ResourceIndex.AreForms (source compiled : ResourceIndex) : Prop where
  package : source.package = compiled.package
  /-- The classes of the compiled one are those nested in the other, which nest no more. -/
  classes : ∃ tree, source.form = .source tree ∧ (∀ child ∈ tree.nested, child.nested = []) ∧
    compiled.form = .compiled (tree.nested.map SourceClass.compiled)

namespace SymbolTable

/-- Whichever form of an index is registered, every key stands for the same constant with the same
number, whatever was registered before and whatever was asked since. -/
theorem idOf_registerIndex_of_areForms {source compiled : ResourceIndex}
    (forms : source.AreForms compiled) (symbols : SymbolTable) (package : String)
    (references : References) (earlier : List SymbolKey) (key : SymbolKey) :
    (earlier.foldl remember (symbols.registerIndex package source references)).idOf key =
      (earlier.foldl remember (symbols.registerIndex package compiled references)).idOf key := by
  obtain ⟨tree, source_eq, flat, compiled_eq⟩ := forms.classes
  have entries_eq : source.form.entries = compiled.form.entries := by
    rw [source_eq, compiled_eq, ← IndexForm.entries_compiled, SourceClass.inner_eq_nested flat]
  rw [registerIndex, registerIndex, forms.package, entries_eq]

/-- An index from its source, with one number for two constants, and with fields that are no integer
constants or stand for no resource. -/
def mirrorIndex : ResourceIndex :=
  ⟨"lib.R2", .source ⟨"R2", [], [], [
    ⟨"id", [], [⟨"label", "String", [], some "16"⟩, ⟨"other", "int", [], some "R.id.title"⟩,
      ⟨"title", "int", [], some "0x1_0"⟩], []⟩,
    ⟨"styleable", [], [⟨"View", "int", [], some "3"⟩], []⟩,
    ⟨"string", [], [⟨"name", "int", [], some "16"⟩, ⟨"known", "int", [], some "5"⟩], []⟩]⟩⟩

/-- The index that it mirrors, in compiled form. -/
def mirroredIndex : ResourceIndex :=
  ⟨"lib.R", .compiled [
    ⟨"id", [⟨"label", none⟩, ⟨"other", none⟩, ⟨"title", some 16⟩]⟩,
    ⟨"styleable", [⟨"View", some 3⟩]⟩,
    ⟨"string", [⟨"name", some 16⟩, ⟨"known", some 5⟩]⟩]⟩

/-- The first of two constants with one number is taken, and an id that was known before is kept. -/
theorem idOf_registerIndex_mirroredIndex :
    let symbols := empty.record ⟨"a", 5⟩ (.constant 5)
    let references := Table.ofList [(⟨"id", "label"⟩, 0), (⟨"id", "title"⟩, 0),
      (⟨"styleable", "View"⟩, 0), (⟨"string", "name"⟩, 0), (⟨"string", "known"⟩, 0)]
    mirrorIndex.AreForms mirroredIndex ∧
      (((symbols.registerIndex "a" mirrorIndex references).remember ⟨"a", 3⟩).idOf ⟨"a", 16⟩ =
          .reference ⟨"lib", "R", ["id"]⟩ "title" 16 ∧
        ((symbols.registerIndex "a" mirroredIndex references).remember ⟨"a", 3⟩).idOf ⟨"a", 16⟩ =
          .reference ⟨"lib", "R", ["id"]⟩ "title" 16) ∧
      ((symbols.registerIndex "a" mirrorIndex references).idOf ⟨"a", 5⟩ = .constant 5 ∧
        (symbols.registerIndex "a" mirroredIndex references).idOf ⟨"a", 5⟩ = .constant 5) := by
  intro symbols references
  have forms : mirrorIndex.AreForms mirroredIndex :=
    ⟨by decide +kernel, _, rfl, by decide, congrArg IndexForm.compiled (by decide +kernel)⟩
  have agree := idOf_registerIndex_of_areForms forms symbols "a" references
  have shared : ((symbols.registerIndex "a" mirrorIndex references).remember ⟨"a", 3⟩).idOf
      ⟨"a", 16⟩ = .reference ⟨"lib", "R", ["id"]⟩ "title" 16 := by decide +kernel
  have known : (symbols.registerIndex "a" mirrorIndex references).idOf ⟨"a", 5⟩ = .constant 5 := by
    decide +kernel
  exact ⟨forms, ⟨shared, (agree [⟨"a", 3⟩] _).symm.trans shared⟩,
    known, (agree [] _).symm.trans known⟩

end SymbolTable
end Companion
