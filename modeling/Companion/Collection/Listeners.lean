import Companion.Collection.Basic

/-!
# Methods bound to listeners

A method is bound to one callback of a listener.  Its parameters take arguments of the callback in
any order: each takes the first argument that fits and that no parameter before it has taken.
-/

namespace Companion
namespace Collection

/-- The callback that an annotation binds to: the only method of the listener, or the callback that
the annotation or else the listener itself selects. -/
def selectCallback (kind : ListenerKind) (requested : Option String) :
    Except UseError Callback :=
  match kind.methods with
  | [] =>
    match (requested.map Text.lastSegment).or kind.defaultCallback with
    | none => .error (.missingValue kind.marker "callback")
    | some constant =>
      match kind.callback? constant with
      | some callback => .ok callback
      | none => .error (.unknownCallback kind.marker constant)
  | [method] =>
    if kind.callbacks.isEmpty then .ok method else .error (.methodAndCallback kind.marker)
  | _ => .error (.multipleListenerMethods kind.marker)

/-- Whether a parameter can receive an argument of a callback. -/
def isAssignable (world : Universe) (type : SourceType) (argument : String) : Bool :=
  (world.isSubtype type argument && world.isSubtype type CodeType.viewSpelling) ||
    type.display = argument || world.isInterface type

/-- The first argument that a parameter can receive and that is not taken. -/
def freePosition? (world : Universe) (arguments : List String) (taken : List Nat)
    (type : SourceType) : Option Nat :=
  (List.range arguments.length).find? fun position =>
    position ∉ taken && (arguments[position]?).any (isAssignable world type)

/-- Match parameters to arguments up to the first parameter for which there is none. -/
def matchFrom (world : Universe) (arguments : List String) (taken : List Nat) :
    List SourceType → Except BindingError (List BoundParameter)
  | [] => .ok []
  | parameter :: rest =>
    match freePosition? world arguments taken parameter.upperBound with
    | none => .ok []
    | some position => do
      let type ← CodeType.ofSource world parameter.upperBound
      return ⟨position, type⟩ :: (← matchFrom world arguments (position :: taken) rest)

/-- The line about one parameter in the report on a mismatch. -/
def parameterReport (index : Nat) (parameter : SourceType) (found : Option BoundParameter) :
    String :=
  let outcome := match found with
    | none => "did not match any listener parameters"
    | some found =>
      s!"matched listener parameter #{found.position + 1}: {found.type.display}"
  s!"\n\n  Parameter #{index + 1}: {parameter.display}\n    {outcome}"

/-- The report on parameters that do not all match. -/
def mismatchReport (marker : String) (site : Site) (parameters : List SourceType)
    (found : List BoundParameter) (callback : Callback) : String :=
  let heading := s!"Unable to match @{marker} method arguments. {site.location}"
  let reports := parameters.zipIdx.map fun (parameter, index) =>
    parameterReport index parameter found[index]?
  let limit := s!"\n\nMethods may have up to {callback.parameters.length} parameter(s):\n"
  let choices := callback.parameters.map fun parameter => s!"\n  {parameter}"
  let closing :=
    "\n\nThese may be listed in any order but will be searched for from top to bottom."
  heading ++ String.join reports ++ limit ++ String.join choices ++ closing

/-- Match the parameters of a method to the arguments of a callback: what each of them takes, or the
report on why they do not all match. -/
def matchParameters (world : Universe) (marker : String) (site : Site)
    (parameters : List SourceType) (callback : Callback) :
    Except BindingError (Except String (List BoundParameter)) := do
  let found ← matchFrom world callback.parameters [] parameters
  if found.length < parameters.length then
    return .error (mismatchReport marker site parameters found callback)
  return .ok found

/-- Reports on the ids of a listener. -/
def listenerIdProblems (marker : String) (site : Site) (values : List Int32) : List Diagnostic :=
  (match duplicate? values with
  | some value =>
    [.error site.path
      s!"@{marker} annotation for method contains duplicate ID {value.toInt}. {site.location}"]
  | none => []) ++
  ((values.filter fun value => value = ResourceId.rootValue).flatMap fun value =>
    if values.length = 1 then
      if isListenerRequired site.member then []
      else [.error site.path
        s!"ID-free binding must not be annotated with @Optional. {site.location}"]
    else [.error site.path
      s!"@{marker} annotation contains invalid ID {value.toInt}. {site.location}"])

/-- Reports on the number of a method's parameters. -/
def arityProblems (marker : String) (site : Site) (parameters : List SourceType)
    (callback : Callback) : List Diagnostic :=
  if callback.parameters.length < parameters.length then
    [.error site.path
      s!"@{marker} methods can have at most {callback.parameters.length} parameter(s). {site.location}"]
  else []

/-- Whether a method with a return type returns a value. -/
def returnsValue (returnType : SourceType) : Bool := returnType.upperBound.display ≠ "void"

/-- Reports on the return type of a method. -/
def returnProblems (marker : String) (site : Site) (returnType : SourceType)
    (callback : Callback) : List Diagnostic :=
  if returnsValue returnType && returnType.upperBound.display ≠ callback.returnType then
    [.error site.path
      s!"@{marker} methods must have a '{callback.returnType}' return type. {site.location}"]
  else []

/-- Bind a method to the views of several ids, up to the first one that refuses it. -/
def addMethods (kind : ListenerKind) (callback : Callback) (method : MethodBinding)
    (target : Target) : List (Int32 × ResourceId) → Target × Option Int32
  | [] => (target, none)
  | (value, id) :: rest =>
    match target.addMethod? id kind callback method with
    | some target => addMethods kind callback method target rest
    | none => (target, some value)

/-- The targets with a method bound, and the report on an id that refuses it. -/
def bindMethod (surroundings : Surroundings) (collected : Collected) (kind : ListenerKind)
    (site : Site) (callback : Callback) (method : MethodBinding) (ids : List IdValue) :
    Except BindingError (Collected × List Diagnostic) := do
  let target ← targetOf surroundings.world collected site.decl
  let resolved := ids.map fun id => (id.value, resolve surroundings site id)
  match addMethods kind callback method target resolved with
  | (target, none) => return (collected.accept site.decl.name target, [])
  | (target, some value) =>
    return (collected.keep site.decl.name target, [.error site.path
      s!"Multiple listener methods with return value specified for ID {value.toInt}. {site.location}"])

/-- The ids that a listener is attached for: those of its annotation, or the bound object. -/
def listenerIds (use : AnnotationUse) : List IdValue :=
  let ids := use.ids "value"
  if ids.isEmpty then [.literal ResourceId.rootValue] else ids

/-- Match the parameters of a method and bind it. -/
def judgeMatched (surroundings : Surroundings) (collected : Collected) (kind : ListenerKind)
    (site : Site) (returnType : SourceType) (parameters : List SourceType) (callback : Callback)
    (ids : List IdValue) : Except BindingError (Collected × List Diagnostic) := do
  match ← matchParameters surroundings.world kind.marker site parameters callback with
  | .error report => return (collected, [.error site.path report])
  | .ok found =>
    bindMethod surroundings collected kind site callback
      ⟨site.member.name, found, isListenerRequired site.member, returnsValue returnType⟩ ids

/-- Judge a method for a listener. -/
def judgeListener (kind : ListenerKind) (surroundings : Surroundings) (collected : Collected)
    (site : Site) : Verdict :=
  let marker := kind.marker
  match site.member.kind, site.member.use? marker with
  | .field _, _ => ⟨[], .error (.wrongElement marker "method")⟩
  | .method _ _, none => ⟨[], .error (.missingValue marker "value")⟩
  | .method returnType parameters, some use =>
    let ids := listenerIds use
    let first := commonProblems marker "methods" site ++
      listenerIdProblems marker site (ids.map IdValue.value)
    match selectCallback kind (use.text? "callback") with
    | .error error => ⟨first, .error error⟩
    | .ok callback =>
      let problems := first ++ arityProblems marker site parameters callback ++
        returnProblems marker site returnType callback
      if Diagnostic.anyError problems then ⟨problems, .ok collected⟩
      else
        match judgeMatched surroundings collected kind site returnType parameters callback ids with
        | .error error => ⟨problems, .error (.binding error)⟩
        | .ok (collected, reports) => ⟨problems ++ reports, .ok collected⟩

end Collection
end Companion
