import Companion.Collection.Basic

/-!
# Fields bound to resources

The annotation and the type of the field decide together what a resource is loaded as.
-/

namespace Companion
namespace Collection

/-- How a resource field is loaded, before its ids are resolved. -/
inductive LoadForm where
  | plain (kind : ResourceKind)
  /-- A drawable, which may be tinted. -/
  | drawable
  /-- A typeface, which has a style. -/
  | typeface
  deriving DecidableEq, Repr

/-- The resource kind of an array field. -/
def arrayKind? (type : SourceType) : Option ResourceKind :=
  if type.display = "android.content.res.TypedArray" then some .typedArray
  else
    match type with
    | .array component =>
      match component.display with
      | "java.lang.String" => some .stringArray
      | "int" => some .intArray
      | "java.lang.CharSequence" => some .textArray
      | _ => none
    | _ => none

/-- The form of a field whose type has to be spelled in one way. -/
def formIf (isExpected : Bool) (form : LoadForm) (expectation : String) : Except String LoadForm :=
  if isExpected then .ok form else .error expectation

/-- How a field of some type is loaded, or the types that its annotation expects. -/
def classify (marker : FieldMarker) (type : SourceType) : Except String LoadForm :=
  let spelled := type.display
  let isInt := type = .primitive .int
  let isFloat := type = .primitive .float
  let isStateList := spelled = "android.content.res.ColorStateList"
  match marker with
  | .bindAnim =>
    formIf (spelled = "android.view.animation.Animation") (.plain .animation) "'Animation'"
  | .bindArray =>
    match arrayKind? type with
    | some kind => .ok (.plain kind)
    | none => .error "one of: String[], int[], CharSequence[], android.content.res.TypedArray"
  | .bindAttr =>
    if isInt then .ok (.plain .attrColor)
    else formIf isStateList (.plain .attrColorStateList) "'int' or 'ColorStateList'"
  | .bindBitmap => formIf (spelled = "android.graphics.Bitmap") (.plain .bitmap) "'Bitmap'"
  | .bindBool => formIf (type = .primitive .boolean) (.plain .bool) "'boolean'"
  | .bindColor =>
    if isStateList then .ok (.plain .colorStateList)
    else formIf isInt (.plain .color) "'int' or 'ColorStateList'"
  | .bindDimen =>
    if isInt then .ok (.plain .dimenAsInt)
    else formIf isFloat (.plain .dimenAsFloat) "'int' or 'float'"
  | .bindDrawable =>
    formIf (spelled = "android.graphics.drawable.Drawable") .drawable "'Drawable'"
  | .bindFloat => formIf isFloat (.plain .float) "'float'"
  | .bindFont => formIf (spelled = "android.graphics.Typeface") .typeface "'Typeface'"
  | .bindInt => formIf isInt (.plain .int) "'int'"
  | .bindString => formIf (spelled = "java.lang.String") (.plain .string) "'String'"
  | .bindView | .bindViews => .error "a resource type"

/-- The style that an annotation asks for, by the name or the number of its constant. -/
def styleOf? : Option AnnotationValue → Option TypefaceStyle
  | none => some .normal
  | some (.text name) => (TypefaceStyle.ofConstant (Text.lastSegment name)).toOption
  | some (.id id) => TypefaceStyle.ofValue? id.value
  | some _ => none

/-- Reports on the type of a resource field. -/
def formProblems (marker : FieldMarker) (site : Site) (form : Except String LoadForm) :
    List Diagnostic :=
  match form with
  | .ok _ => []
  | .error expectation =>
    [.error site.path s!"@{marker.name} field type must be {expectation}. {site.location}"]

/-- Reports on the style of a typeface. -/
def styleProblems (marker : FieldMarker) (site : Site) (use : AnnotationUse) : List Diagnostic :=
  if marker = .bindFont && (styleOf? (use.values.get? "style")).isNone then
    [.error site.path
      s!"@{marker.name} style must be NORMAL, BOLD, ITALIC, or BOLD_ITALIC. {site.location}"]
  else []

/-- The resource kind of a form, with the ids of the annotation resolved. -/
def kindOf (surroundings : Surroundings) (site : Site) (use : AnnotationUse) :
    LoadForm → ResourceKind
  | .plain kind => kind
  | .drawable =>
    .drawable (((use.id? "tint").filter fun tint => tint.value ≠ 0).map
      (resolve surroundings site))
  | .typeface => .typeface ((styleOf? (use.values.get? "style")).getD .normal)

/-- Judge a field for a resource. -/
def judgeResource (marker : FieldMarker) (surroundings : Surroundings) (collected : Collected)
    (site : Site) : Verdict :=
  match site.member.kind, site.member.use? marker.name with
  | .method _ _, _ => ⟨[], .error (.wrongElement marker.name "field")⟩
  | .field _, none => ⟨[], .error (.missingValue marker.name "value")⟩
  | .field type, some use =>
    let form := classify marker type
    let problems := formProblems marker site form ++ commonProblems marker.name "fields" site ++
      styleProblems marker site use
    match form with
    | .error _ => ⟨problems, .ok collected⟩
    | .ok form =>
      if Diagnostic.anyError problems then ⟨problems, .ok collected⟩
      else
        match use.id? "value" with
        | none => ⟨problems, .error (.missingValue marker.name "value")⟩
        | some id => ⟨problems, UseError.lift do
            let target ← targetOf surroundings.world collected site.decl
            let resource := ⟨resolve surroundings site id, site.member.name,
              kindOf surroundings site use form⟩
            return collected.accept site.decl.name (target.addResource resource)⟩

end Collection
end Companion
