import Companion.Collection.Basic

/-!
# Fields bound to views

A field takes one view, or an array or list of views.  A type that is not resolved yet is taken on
trust, with a note.
-/

namespace Companion
namespace Collection

/-- The type of a member that has to be a field. -/
def fieldType (marker : FieldMarker) (site : Site) : Except UseError SourceType :=
  match site.member.kind with
  | .field type => .ok type
  | .method _ _ => .error (.wrongElement marker.name "field")

/-- Reports on the type of a field for a single view. -/
def viewProblems (world : Universe) (site : Site) (type : SourceType) : List Diagnostic :=
  if isViewLike world type then []
  else if type.isUnresolved then
    [.note site.path
      s!"@BindView field with unresolved type ({type.display}) must elsewhere be generated as a View or interface. {site.location}"]
  else
    [.error site.path
      s!"@BindView fields must extend from View or be an interface. {site.location}"]

/-- Judge a field for a single view. -/
def judgeView (surroundings : Surroundings) (collected : Collected) (site : Site) : Verdict :=
  match fieldType .bindView site with
  | .error error => ⟨[], .error error⟩
  | .ok declared =>
    let type := declared.upperBound
    let problems := commonProblems "BindView" "fields" site ++
      viewProblems surroundings.world site type
    if Diagnostic.anyError problems then ⟨problems, .ok collected⟩
    else
      match (site.member.use? "BindView").bind fun use => use.id? "value" with
      | none => ⟨problems, .error (.missingValue "BindView" "value")⟩
      | some id =>
        let resolved := resolve surroundings site id
        match (collected.targets.get? site.decl.name).bind fun target =>
            target.fieldName? resolved with
        | some existing =>
          ⟨problems ++ [.error site.path
            s!"Attempt to use @BindView for an already bound ID {id.value.toInt} on '{existing}'. {site.location}"],
            .ok collected⟩
        | none => ⟨problems, UseError.lift do
            let code ← CodeType.ofSource surroundings.world type
            let target ← targetOf surroundings.world collected site.decl
            let target ← target.addField resolved
              ⟨site.member.name, code, isFieldRequired site.member⟩
            return collected.accept site.decl.name target⟩

/-- The spelled type of lists. -/
def listSpelling : String := "java.util.List"

/-- The sort of collection that a type is, with the type of its views, and the reports on it. -/
def collectionShape (site : Site) :
    SourceType → Option CollectionKind × Option SourceType × List Diagnostic
  | .array component => (some .array, some component.upperBound, [])
  | .declared name args =>
    if name = listSpelling then
      match args with
      | [component] => (some .list, some component.upperBound, [])
      | _ => (some .list, none, [.error site.path
          s!"@BindViews List must have a generic component. {site.location}"])
    else (none, none, [.error site.path s!"@BindViews must be a List or array. {site.location}"])
  | _ => (none, none, [.error site.path s!"@BindViews must be a List or array. {site.location}"])

/-- Reports on the type of the views of a collection. -/
def elementProblems (world : Universe) (site : Site) (type : SourceType) : List Diagnostic :=
  if isViewLike world type then []
  else if type.isUnresolved then
    [.note site.path
      s!"@BindViews List or array with unresolved type ({type.display}) must elsewhere be generated as a View or interface. {site.location}"]
  else
    [.error site.path
      s!"@BindViews List or array type must extend from View or be an interface. {site.location}"]

/-- Reports on the ids of a collection. -/
def collectionIdProblems (site : Site) (ids : List IdValue) : List Diagnostic :=
  (if ids.isEmpty then
    [.error site.path s!"@BindViews must specify at least one ID. {site.location}"]
  else []) ++
  match duplicate? (ids.map IdValue.value) with
  | some value =>
    [.error site.path
      s!"@BindViews annotation contains duplicate ID {value.toInt}. {site.location}"]
  | none => []

/-- Judge a field for a collection of views. -/
def judgeViews (surroundings : Surroundings) (collected : Collected) (site : Site) : Verdict :=
  match fieldType .bindViews site with
  | .error error => ⟨[], .error error⟩
  | .ok declared =>
    let (kind, element, shapeProblems) := collectionShape site declared
    let ids := ((site.member.use? "BindViews").map fun use => use.ids "value").getD []
    let problems := commonProblems "BindViews" "fields" site ++ shapeProblems ++
      (element.map (elementProblems surroundings.world site)).getD [] ++
      collectionIdProblems site ids
    if Diagnostic.anyError problems then ⟨problems, .ok collected⟩
    else
      match kind, element with
      | some kind, some element => ⟨problems, UseError.lift do
          let code ← CodeType.ofSource surroundings.world element
          let target ← targetOf surroundings.world collected site.decl
          let collection := ⟨site.member.name, code, kind, isFieldRequired site.member,
            ids.map (resolve surroundings site)⟩
          return collected.accept site.decl.name (target.addCollection collection)⟩
      | _, _ => ⟨problems, .ok collected⟩

end Collection
end Companion
