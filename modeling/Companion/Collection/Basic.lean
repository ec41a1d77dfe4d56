import Companion.CodeType.OfSource
import Companion.Diagnostic
import Companion.Marker
import Companion.SymbolTable
import Companion.Target

/-!
# Collecting bindings

Each use of a marker on a member is judged on its own.  A judgement reports what is wrong with the
use; when nothing is, the targets take the binding up.
-/

namespace Companion

/-- Why the judgement of a use is given up. -/
inductive UseError where
  | wrongElement (marker expected : String)
  | missingValue (marker key : String)
  | multipleListenerMethods (marker : String)
  | methodAndCallback (marker : String)
  | unknownCallback (marker callback : String)
  | binding (error : BindingError)
  deriving DecidableEq, Repr

/-- The error in words. -/
def UseError.message : UseError → String
  | .wrongElement marker expected => s!"@{marker} annotation must be on a {expected}."
  | .missingValue marker key => s!"@{marker} annotation is missing its '{key}' value."
  | .multipleListenerMethods marker => s!"Multiple listener methods specified on @{marker}."
  | .methodAndCallback marker => s!"Both method() and callback() defined on @{marker}."
  | .unknownCallback marker callback =>
    s!"No @ListenerMethod defined on @{marker}'s Callback.{callback}."
  | .binding error => error.message

/-- A binding error gives the judgement up. -/
def UseError.lift {α : Type} : Except BindingError α → Except UseError α :=
  Except.mapError .binding

/-- The targets of a round as they are collected. -/
structure Collected where
  /-- The targets by the qualified name of their class. -/
  targets : Table String Target
  /-- The classes with at least one accepted binding, in order. -/
  bound : List String
  deriving DecidableEq

namespace Collected

/-- No target. -/
def empty : Collected := ⟨.empty, []⟩

/-- Keep a target as it is now. -/
def keep (collected : Collected) (name : String) (target : Target) : Collected :=
  { collected with targets := collected.targets.insert name target }

/-- Count a class among those with an accepted binding. -/
def markBound (collected : Collected) (name : String) : Collected :=
  { collected with bound := Listing.addNew name collected.bound }

/-- Keep a target that has taken a binding up. -/
def accept (collected : Collected) (name : String) (target : Target) : Collected :=
  (collected.keep name target).markBound name

end Collected

/-- What is known while uses are judged. -/
structure Surroundings where
  /-- The types of the round. -/
  world : Universe
  /-- The constants that ids stand for. -/
  symbols : SymbolTable

/-- The outcome of judging one use. -/
structure Verdict where
  /-- What is reported. -/
  diagnostics : List Diagnostic
  /-- The targets afterwards, or why the judgement was given up. -/
  result : Except UseError Collected

namespace Collection

/-- The spelled type of activities. -/
def activitySpelling : String := "android.app.Activity"

/-- The spelled type of dialogs. -/
def dialogSpelling : String := "android.app.Dialog"

/-- What kind of host a class is. -/
def categoryOf (world : Universe) (decl : TypeDecl) : HostCategory :=
  if world.isSubtype decl.asType CodeType.viewSpelling then .view
  else if world.isSubtype decl.asType activitySpelling then .activity
  else if world.isSubtype decl.asType dialogSpelling then .dialog
  else .generic

/-- The target of a class in which nothing is bound yet. -/
def newTarget (world : Universe) (decl : TypeDecl) : Except BindingError Target := do
  return .empty (.classType (← decl.className)) (companionName decl.package decl.simpleNames)
    (decl.has .final) (categoryOf world decl)

/-- The target of a class. -/
def targetOf (world : Universe) (collected : Collected) (decl : TypeDecl) :
    Except BindingError Target :=
  match collected.targets.get? decl.name with
  | some target => .ok target
  | none => newTarget world decl

/-- The id that a number stands for on a member of a class. -/
def resolve (surroundings : Surroundings) (site : Site) (id : IdValue) : ResourceId :=
  surroundings.symbols.idOf ⟨site.decl.package, id.value⟩

/-- The first number that occurs a second time. -/
def duplicateIn? (seen : List Int32) : List Int32 → Option Int32
  | [] => none
  | value :: rest => if value ∈ seen then some value else duplicateIn? (value :: seen) rest

/-- The first number that occurs a second time in a list. -/
def duplicate? (values : List Int32) : Option Int32 := duplicateIn? [] values

/-- Reports on members and classes that generated code cannot reach. -/
def accessProblems (marker thing : String) (site : Site) : List Diagnostic :=
  (if site.member.has .privateAccess || site.member.has .static then
    [.error site.path s!"@{marker} {thing} must not be private or static. {site.location}"]
  else []) ++
  (if site.decl.kind ≠ .classType then
    [.error site.decl.name
      s!"@{marker} {thing} may only be contained in classes. {site.location}"]
  else []) ++
  (if site.decl.has .privateAccess then
    [.error site.decl.name
      s!"@{marker} {thing} may not be contained in private classes. {site.location}"]
  else [])

/-- The framework that a qualified name belongs to. -/
def framework? (name : String) : Option String :=
  if "android.".toList.isPrefixOf name.toList then some "Android"
  else if "java.".toList.isPrefixOf name.toList then some "Java"
  else none

/-- Reports on classes in a package of a framework. -/
def packageProblems (marker : String) (site : Site) : List Diagnostic :=
  match framework? site.decl.name with
  | some framework =>
    [.error site.path
      s!"@{marker}-annotated class incorrectly in {framework} framework package. ({site.decl.name})"]
  | none => []

/-- Reports that every use is checked for. -/
def commonProblems (marker thing : String) (site : Site) : List Diagnostic :=
  accessProblems marker thing site ++ packageProblems marker site

/-- Whether a type is one that views can have. -/
def isViewLike (world : Universe) (type : SourceType) : Bool :=
  world.isSubtype type CodeType.viewSpelling || world.isInterface type

mutual

/-- Whether a type is unresolved in some part. -/
def isIncomplete : SourceType → Bool
  | .unresolved _ => true
  | .declared _ args => anyIncomplete args
  | .array component => isIncomplete component
  | .typeVariable _ bound => isIncomplete bound
  | .wildcard bound => isIncomplete bound
  | .primitive _ | .void | .anyWildcard => false

/-- Whether one of several types is unresolved in some part. -/
def anyIncomplete : List SourceType → Bool
  | [] => false
  | type :: rest => isIncomplete type || anyIncomplete rest

end

/-- Whether all types of a member are resolved; otherwise a later round may judge it. -/
def isComplete (member : Member) : Bool :=
  match member.kind with
  | .field type => !isIncomplete type
  | .method returnType parameters => !isIncomplete returnType && !anyIncomplete parameters

/-- Whether the view of a field must be found. -/
def isFieldRequired (member : Member) : Bool := !member.carries "Nullable"

/-- Whether the view of a listener must be found. -/
def isListenerRequired (member : Member) : Bool := !member.carries "Optional"

end Collection
end Companion
