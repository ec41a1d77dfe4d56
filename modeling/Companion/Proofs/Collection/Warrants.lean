import Companion.Proofs.Collection.Uses

/-!
# What a use may ask for

A member that carries a marker warrants a binding when it, its class and its annotation meet the
conditions of the marker.  Each condition is met exactly when the check for it reports no error.
-/

namespace Companion

namespace Diagnostic

@[simp]
theorem isError_error (element message : String) : (error element message).isError = true := rfl

@[simp]
theorem isError_note (element message : String) : (note element message).isError = false := rfl

@[simp]
theorem anyError_nil : anyError [] = false := rfl

@[simp]
theorem anyError_cons (diagnostic : Diagnostic) (rest : List Diagnostic) :
    anyError (diagnostic :: rest) = (diagnostic.isError || anyError rest) := rfl

theorem anyError_append_eq_false_iff {left right : List Diagnostic} :
    anyError (left ++ right) = false ↔ anyError left = false ∧ anyError right = false := by
  rw [anyError_append, Bool.or_eq_false_iff]

theorem anyError_flatMap_eq_false_iff {α : Type} {items : List α} {reports : α → List Diagnostic} :
    anyError (items.flatMap reports) = false ↔ ∀ item ∈ items, anyError (reports item) = false := by
  simp [anyError, List.any_flatMap, List.any_eq_false]

end Diagnostic

namespace Collection

open Diagnostic

/-- A member that generated code can use, in a class that it can be written for. -/
structure IsOpen (site : Site) : Prop where
  /-- The member is not private. -/
  accessible : site.member.has .privateAccess = false
  /-- The member belongs to an instance. -/
  instanced : site.member.has .static = false
  /-- The type is a class. -/
  isClass : site.decl.kind = .classType
  /-- The class is not private. -/
  visible : site.decl.has .privateAccess = false
  /-- The class is not one of the Android framework. -/
  notAndroid : ¬"android.".toList <+: site.decl.name.toList
  /-- The class is not one of the Java library. -/
  notJava : ¬"java.".toList <+: site.decl.name.toList

private theorem accessProblems_iff (marker thing : String) (site : Site) :
    anyError (accessProblems marker thing site) = false ↔
      (site.member.has .privateAccess = false ∧ site.member.has .static = false) ∧
        site.decl.kind = .classType ∧ site.decl.has .privateAccess = false := by
  rw [accessProblems, anyError_append_eq_false_iff, anyError_append_eq_false_iff, and_assoc]
  refine and_congr ?_ (and_congr ?_ ?_)
  · cases site.member.has .privateAccess <;> cases site.member.has .static <;> simp
  · by_cases isClass : site.decl.kind = .classType <;> simp [isClass]
  · cases site.decl.has .privateAccess <;> simp

private theorem packageProblems_iff (marker : String) (site : Site) :
    anyError (packageProblems marker site) = false ↔
      ¬"android.".toList <+: site.decl.name.toList ∧
        ¬"java.".toList <+: site.decl.name.toList := by
  rw [packageProblems, framework?, ← List.isPrefixOf_iff_prefix, ← List.isPrefixOf_iff_prefix]
  cases "android.".toList.isPrefixOf site.decl.name.toList <;>
    cases "java.".toList.isPrefixOf site.decl.name.toList <;> simp

theorem commonProblems_iff (marker thing : String) (site : Site) :
    anyError (commonProblems marker thing site) = false ↔ IsOpen site := by
  rw [commonProblems, anyError_append_eq_false_iff, accessProblems_iff, packageProblems_iff]
  constructor
  · rintro ⟨⟨⟨accessible, instanced⟩, isClass, visible⟩, notAndroid, notJava⟩
    exact ⟨accessible, instanced, isClass, visible, notAndroid, notJava⟩
  · rintro ⟨accessible, instanced, isClass, visible, notAndroid, notJava⟩
    exact ⟨⟨⟨accessible, instanced⟩, isClass, visible⟩, notAndroid, notJava⟩

/-- A type that views may have: a view or an interface, or one that is still to be generated. -/
def IsViewable (world : Universe) (type : SourceType) : Prop :=
  world.isSubtype type CodeType.viewSpelling = true ∨ world.isInterface type = true ∨
    type.isUnresolved = true

theorem isViewable_iff {world : Universe} {type : SourceType} :
    IsViewable world type ↔ isViewLike world type = true ∨ type.isUnresolved = true := by
  rw [IsViewable, isViewLike, Bool.or_eq_true, or_assoc]

theorem viewProblems_iff (world : Universe) (site : Site) (type : SourceType) :
    anyError (viewProblems world site type) = false ↔ IsViewable world type := by
  rw [isViewable_iff, viewProblems]
  cases isViewLike world type <;> cases type.isUnresolved <;> simp

theorem elementProblems_iff (world : Universe) (site : Site) (type : SourceType) :
    anyError (elementProblems world site type) = false ↔ IsViewable world type := by
  rw [isViewable_iff, elementProblems]
  cases isViewLike world type <;> cases type.isUnresolved <;> simp

/-- A type of collections, with the type of what it holds. -/
inductive IsCollectionOf : CollectionKind → SourceType → SourceType → Prop where
  | array (component : SourceType) : IsCollectionOf .array component (.array component)
  | list (component : SourceType) :
      IsCollectionOf .list component (.declared listSpelling [component])

theorem isCollectionOf_of_shape {site : Site} {type : SourceType}
    (unreported : anyError (collectionShape site type).2.2 = false) :
    ∃ kind component, IsCollectionOf kind component type ∧
      collectionShape site type = (some kind, some component.upperBound, []) := by
  cases type with
  | array component => exact ⟨.array, component, .array component, rfl⟩
  | declared name args =>
      by_cases isList : name = listSpelling
      · subst isList
        match args with
        | [component] => exact ⟨.list, component, .list component, by simp [collectionShape]⟩
        | [] => simp [collectionShape] at unreported
        | _ :: _ :: _ => simp [collectionShape] at unreported
      · simp [collectionShape, isList] at unreported
  | _ => simp [collectionShape] at unreported

private theorem duplicateIn?_eq_none_iff {seen values : List Int32} :
    duplicateIn? seen values = none ↔ values.Nodup ∧ ∀ value ∈ values, value ∉ seen := by
  induction values generalizing seen with
  | nil => simp [duplicateIn?]
  | cons value rest ih =>
      rw [duplicateIn?]
      by_cases isSeen : value ∈ seen
      · simp [isSeen]
      · rw [if_neg isSeen, ih, List.nodup_cons]
        constructor
        · rintro ⟨nodup, apart⟩
          refine ⟨⟨fun again => apart value again (by simp), nodup⟩, ?_⟩
          intro other member
          rcases List.mem_cons.1 member with rfl | later
          · exact isSeen
          · exact fun old => apart other later (List.mem_cons_of_mem value old)
        · rintro ⟨⟨fresh, nodup⟩, apart⟩
          refine ⟨nodup, fun other later old => ?_⟩
          rcases List.mem_cons.1 old with rfl | older
          · exact fresh later
          · exact apart other (List.mem_cons_of_mem value later) older

theorem duplicate?_eq_none_iff {values : List Int32} : duplicate? values = none ↔ values.Nodup := by
  simp [duplicate?, duplicateIn?_eq_none_iff]

theorem collectionIdProblems_iff (site : Site) (ids : List IdValue) :
    anyError (collectionIdProblems site ids) = false ↔
      ids ≠ [] ∧ (ids.map IdValue.value).Nodup := by
  rw [collectionIdProblems, anyError_append_eq_false_iff, ← duplicate?_eq_none_iff]
  refine and_congr ?_ ?_
  · cases ids <;> simp
  · cases duplicate? (ids.map IdValue.value) <;> simp

/-- The number that stands for the bound object may only be the one id of a required method. -/
def MayHaveRoot (member : Member) (values : List Int32) : Prop :=
  ResourceId.rootValue ∈ values →
    values = [ResourceId.rootValue] ∧ isListenerRequired member = true

theorem listenerIdProblems_iff (marker : String) (site : Site) (values : List Int32) :
    anyError (listenerIdProblems marker site values) = false ↔
      values.Nodup ∧ MayHaveRoot site.member values := by
  rw [listenerIdProblems, anyError_append_eq_false_iff, ← duplicate?_eq_none_iff,
    anyError_flatMap_eq_false_iff]
  refine and_congr ?_ ?_
  · cases duplicate? values <;> simp
  · constructor
    · intro unreported isRoot
      have here := unreported _ (List.mem_filter.2 ⟨isRoot, by simp⟩)
      by_cases single : values.length = 1
      · obtain ⟨only, rfl⟩ := List.length_eq_one_iff.1 single
        refine ⟨by rw [List.mem_singleton.1 isRoot], ?_⟩
        cases required : isListenerRequired site.member <;> simp_all
      · simp [single] at here
    · intro mayHave value listed
      obtain ⟨member, isRoot⟩ := List.mem_filter.1 listed
      obtain ⟨rfl, required⟩ := mayHave (of_decide_eq_true isRoot ▸ member)
      simp [required]

/-- The callback that an annotation selects: the only method of the listener, or the one of the
constant that the annotation names, or else that the listener names. -/
inductive Selects (kind : ListenerKind) (requested : Option String) : Callback → Prop where
  | only {method : Callback} (methods_eq : kind.methods = [method])
      (callbacks_eq : kind.callbacks = []) : Selects kind requested method
  | chosen {constant : String} {callback : Callback} (methods_eq : kind.methods = [])
      (named : (requested.map Text.lastSegment).or kind.defaultCallback = some constant)
      (found : kind.callback? constant = some callback) : Selects kind requested callback

theorem selectCallback_eq_ok_iff {kind : ListenerKind} {requested : Option String}
    {callback : Callback} :
    selectCallback kind requested = .ok callback ↔ Selects kind requested callback := by
  constructor
  · intro selected
    unfold selectCallback at selected
    split at selected
    · rename_i methods_eq
      split at selected
      · simp at selected
      · rename_i constant named
        split at selected
        · rename_i found
          cases selected
          exact .chosen methods_eq named found
        · simp at selected
    · rename_i method methods_eq
      split at selected
      · rename_i noCallback
        cases selected
        exact .only methods_eq (List.isEmpty_iff.1 noCallback)
      · simp at selected
    · simp at selected
  · intro selects
    cases selects with
    | only methods_eq callbacks_eq => simp [selectCallback, methods_eq, callbacks_eq]
    | chosen methods_eq named found => simp [selectCallback, methods_eq, named, found]

theorem arityProblems_iff (marker : String) (site : Site) (parameters : List SourceType)
    (callback : Callback) :
    anyError (arityProblems marker site parameters callback) = false ↔
      parameters.length ≤ callback.parameters.length := by
  rw [arityProblems]
  split <;> simp <;> omega

theorem returnProblems_iff (marker : String) (site : Site) (returnType : SourceType)
    (callback : Callback) :
    anyError (returnProblems marker site returnType callback) = false ↔
      (returnsValue returnType = true → returnType.upperBound.display = callback.returnType) := by
  rw [returnProblems]
  by_cases fits : returnType.upperBound.display = callback.returnType <;>
    cases returnsValue returnType <;> simp [fits]

theorem styleProblems_iff (marker : FieldMarker) (site : Site) (use : AnnotationUse) :
    anyError (styleProblems marker site use) = false ↔
      (marker = .bindFont → (styleOf? (use.values.get? "style")).isSome = true) := by
  rw [styleProblems]
  by_cases isFont : marker = .bindFont <;> cases styleOf? (use.values.get? "style") <;>
    simp [isFont]

/-- What a use adds to the target of its class. -/
inductive Addition where
  /-- A field for the view of an id. -/
  | view (id : ResourceId) (field : FieldBinding)
  /-- A field for the views of several ids. -/
  | views (collection : CollectionBinding)
  /-- A field for a resource. -/
  | resource (resource : ResourceBinding)
  /-- A method for a callback on the views of several ids. -/
  | methods (kind : ListenerKind) (callback : Callback) (method : MethodBinding)
      (ids : List ResourceId)

/-- Whether an addition is of the sort that a marker asks for. -/
def Addition.IsAskedBy (request : Request) : Addition → Prop
  | .view _ _ => request = .field .bindView
  | .views _ => request = .field .bindViews
  | .resource _ => ∃ marker, request = .field marker
  | .methods kind _ _ _ => request = .listener kind

/-- The bindings that a member warrants by carrying a marker. -/
inductive Warrants (surroundings : Surroundings) (site : Site) : Request → Addition → Prop where
  /-- A field of a type that views may have, annotated with one id. -/
  | view {type : SourceType} {use : AnnotationUse} {id : IdValue} {code : CodeType}
      (isField : site.member.kind = .field type) (isOpen : IsOpen site)
      (viewable : IsViewable surroundings.world type.upperBound)
      (carried : site.member.use? "BindView" = some use) (given : use.id? "value" = some id)
      (written : CodeType.ofSource surroundings.world type.upperBound = .ok code) :
      Warrants surroundings site (.field .bindView)
        (.view (resolve surroundings site id)
          ⟨site.member.name, code, isFieldRequired site.member⟩)
  /-- A field of an array or list of such a type, annotated with different ids. -/
  | views {type component : SourceType} {kind : CollectionKind} {use : AnnotationUse}
      {code : CodeType} (isField : site.member.kind = .field type) (isOpen : IsOpen site)
      (holds : IsCollectionOf kind component type)
      (viewable : IsViewable surroundings.world component.upperBound)
      (carried : site.member.use? "BindViews" = some use) (given : use.ids "value" ≠ [])
      (different : ((use.ids "value").map IdValue.value).Nodup)
      (written : CodeType.ofSource surroundings.world component.upperBound = .ok code) :
      Warrants surroundings site (.field .bindViews)
        (.views ⟨site.member.name, code, kind, isFieldRequired site.member,
          (use.ids "value").map (resolve surroundings site)⟩)
  /-- A field of a type that the resource can be loaded as, annotated with one id. -/
  | resource {marker : FieldMarker} {type : SourceType} {form : LoadForm} {use : AnnotationUse}
      {id : IdValue} (isResource : marker.bindsViews = false)
      (isField : site.member.kind = .field type) (isOpen : IsOpen site)
      (loadable : classify marker type = .ok form)
      (carried : site.member.use? marker.name = some use) (given : use.id? "value" = some id)
      (styled : marker = .bindFont → (styleOf? (use.values.get? "style")).isSome = true) :
      Warrants surroundings site (.field marker)
        (.resource ⟨resolve surroundings site id, site.member.name,
          kindOf surroundings site use form⟩)
  /-- A method that the selected callback can call with arguments of its own, annotated with
  different ids. -/
  | methods {kind : ListenerKind} {returnType : SourceType} {parameters : List SourceType}
      {use : AnnotationUse} {callback : Callback} {bound : List BoundParameter}
      (isMethod : site.member.kind = .method returnType parameters) (isOpen : IsOpen site)
      (carried : site.member.use? kind.marker = some use)
      (selected : Selects kind (use.text? "callback") callback)
      (different : ((listenerIds use).map IdValue.value).Nodup)
      (mayHaveRoot : MayHaveRoot site.member ((listenerIds use).map IdValue.value))
      (arity : parameters.length ≤ callback.parameters.length)
      (returns : returnsValue returnType = true →
        returnType.upperBound.display = callback.returnType)
      (matched : matchFrom surroundings.world callback.parameters [] parameters = .ok bound)
      (complete : bound.length = parameters.length) :
      Warrants surroundings site (.listener kind)
        (.methods kind callback
          ⟨site.member.name, bound, isListenerRequired site.member, returnsValue returnType⟩
          ((listenerIds use).map (resolve surroundings site)))

namespace Warrants

variable {surroundings : Surroundings} {site : Site} {request : Request} {addition : Addition}

theorem isOpen (warranted : Warrants surroundings site request addition) : IsOpen site := by
  cases warranted with
  | view _ isOpen => exact isOpen
  | views _ isOpen => exact isOpen
  | resource _ _ isOpen => exact isOpen
  | methods _ isOpen => exact isOpen

theorem isAskedBy (warranted : Warrants surroundings site request addition) :
    addition.IsAskedBy request := by
  cases warranted with
  | view => rfl
  | views => rfl
  | @resource marker => exact ⟨marker, rfl⟩
  | methods => rfl

end Warrants

end Collection
end Companion
