import Companion.Resource
import Companion.ViewGroup

/-!
# Targets

A target is a class with everything that is bound in it.  Its companion is the class that does the
binding.  Once the companion that this one extends is known, the target is linked.
-/

namespace Companion

/-- The name of a companion: the nested names of its target joined by `$`, and a suffix. -/
def companionName (package : String) (names : List String) : ClassName :=
  .ofOuter package (Text.joined "$" names ++ "_ViewBinding")

/-- What kind of host a target is; it decides on the shortest constructor of the companion. -/
inductive HostCategory where
  | view
  | activity
  | dialog
  | generic
  deriving DecidableEq, Repr

/-- A class and what is bound in it. -/
structure Target where
  /-- The class. -/
  type : CodeType
  /-- Its companion. -/
  companion : ClassName
  /-- Whether the class cannot be extended. -/
  isFinal : Bool
  /-- What kind of host it is. -/
  category : HostCategory
  /-- The view groups, one for each id. -/
  groups : List ViewGroup
  /-- The collections of views. -/
  collections : List CollectionBinding
  /-- The resources. -/
  resources : List ResourceBinding
  deriving DecidableEq

namespace Target

/-- A target in which nothing is bound. -/
def empty (type : CodeType) (companion : ClassName) (isFinal : Bool) (category : HostCategory) :
    Target :=
  ⟨type, companion, isFinal, category, [], [], []⟩

/-- The group of an id. -/
def group? (target : Target) (id : ResourceId) : Option ViewGroup :=
  target.groups.find? fun group => group.id.same id

/-- The group of an id, which is empty when nothing is bound to it. -/
def groupOf (target : Target) (id : ResourceId) : ViewGroup := (target.group? id).getD (.empty id)

/-- The field that is bound to an id. -/
def fieldName? (target : Target) (id : ResourceId) : Option String :=
  ((target.group? id).bind ViewGroup.field).map FieldBinding.name

/-- The target with another group for an id. -/
def setGroup (target : Target) (id : ResourceId) (group : ViewGroup) : Target :=
  { target with
    groups := Listing.alter (fun present => present.id.same id) (fun _ => group) group
      target.groups }

/-- Bind the view of an id to a field. -/
def addField (target : Target) (id : ResourceId) (field : FieldBinding) :
    Except BindingError Target := do
  return target.setGroup id (← (target.groupOf id).setField field)

/-- Bind a method to a callback of the view of an id, unless the callback returns a value and has
a method already. -/
def addMethod? (target : Target) (id : ResourceId) (kind : ListenerKind) (callback : Callback)
    (method : MethodBinding) : Option Target :=
  let group := target.groupOf id
  if group.hasMethod kind callback && callback.returnsValue then none
  else some (target.setGroup id (group.addMethod kind callback method))

/-- Bind a collection of views. -/
def addCollection (target : Target) (collection : CollectionBinding) : Target :=
  { target with collections := target.collections ++ [collection] }

/-- Bind a resource. -/
def addResource (target : Target) (resource : ResourceBinding) : Target :=
  { target with resources := target.resources ++ [resource] }

/-- Whether the target itself binds views. -/
def bindsViews (target : Target) : Bool := target.groups ≠ [] || target.collections ≠ []

/-- Whether the target binds methods. -/
def bindsMethods (target : Target) : Bool :=
  target.groups.any fun group => group.listeners ≠ []

/-- Whether the target binds views to fields. -/
def bindsFields (target : Target) : Bool :=
  target.groups.any (fun group => group.field.isSome) || target.collections ≠ []

/-- Whether the companion keeps the target. -/
def keepsTarget (target : Target) : Bool := target.bindsFields || target.bindsMethods

/-- Whether some view found is held in a local variable. -/
def needsViewLocal (target : Target) : Bool := target.groups.any ViewGroup.needsLocal

/-- Whether some view has a listener of some kind. -/
def hasListener (target : Target) (kind : ListenerKind) : Bool :=
  target.groups.any fun group => group.hasListener kind

/-- Whether some resource has a plain number for its id. -/
def hasPlainResources (target : Target) : Bool :=
  target.resources.any fun resource => !resource.id.isReference

/-- Whether some resource is read from the resources of the context. -/
def needsResources (target : Target) (minSdk : Nat) : Bool :=
  target.resources.any fun resource => resource.kind.needsResources minSdk

end Target

/-- The companion that another one extends. -/
inductive ParentLink where
  /-- The companion of a target of the same round. -/
  | round (target : String) (companion : ClassName) (needsView : Bool)
  /-- A companion that was compiled earlier. -/
  | classpath (companion : ClassName) (needsView : Bool)
  deriving DecidableEq, Repr

namespace ParentLink

/-- The companion that is extended. -/
def companion : ParentLink → ClassName
  | .round _ companion _ => companion
  | .classpath companion _ => companion

/-- Whether the constructor of the companion that is extended takes a view. -/
def needsView : ParentLink → Bool
  | .round _ _ needsView => needsView
  | .classpath _ needsView => needsView

end ParentLink

/-- A target with the companion that its own one extends. -/
structure LinkedTarget extends Target where
  /-- The companion that is extended, if any. -/
  parent : Option ParentLink
  deriving DecidableEq

namespace LinkedTarget

/-- Whether the main constructor takes a view rather than a context. -/
def needsView (target : LinkedTarget) : Bool :=
  target.bindsViews || target.parent.any ParentLink.needsView

/-- The link to a target of the same round. -/
def asParent (target : LinkedTarget) (name : String) : ParentLink :=
  .round name target.companion target.needsView

end LinkedTarget
end Companion
