import Companion.Code.Imports
import Companion.Code.Known
import Companion.Code.Statement

/-!
# Classes that a companion refers to

Every part of a companion lists the classes that it refers to by simple name, in the order in which
they claim their names.  The fields come first, then the constructors and the teardown, and the
class that is extended or implemented comes last.
-/

namespace Companion

namespace ResourceId

/-- The class of a reference, unless it is written in full. -/
def classes : ResourceId → List ClassName
  | .constant _ => []
  | .reference owner _ _ => if owner.package = Known.platformPackage then [] else [owner]

end ResourceId

namespace Lookup

/-- The classes of a search. -/
def classes : Lookup → List ClassName
  | .plain cast id => id.classes ++ (cast.map CodeType.classes).getD []
  | .described _ id _ type => id.classes ++ Known.utils :: (type.map CodeType.classes).getD []

end Lookup

namespace ViewValue

/-- The classes of a view. -/
def classes : ViewValue → List ClassName
  | .search lookup => lookup.classes
  | .place _ => []
  | .checked _ _ type => Known.utils :: type.classes
  | .cast _ type => type.classes

end ViewValue

namespace Argument

/-- The classes of an argument. -/
def classes : Argument → List ClassName
  | .plain _ => []
  | .checked _ _ type => Known.utils :: type.classes
  | .cast _ type => type.classes

end Argument

namespace CallbackCode

/-- The classes of a callback. -/
def classes (callback : CallbackCode) : List ClassName :=
  callback.returnType.classes ++ callback.parameters.flatMap CodeType.classes ++
    callback.calls.flatMap fun call => call.arguments.flatMap Argument.classes

end CallbackCode

namespace Attachment

/-- The classes of a listener that is attached. -/
def classes (attachment : Attachment) : List ClassName :=
  (attachment.receiver.map CodeType.classes).getD [] ++
    attachment.listener :: attachment.callbacks.flatMap CallbackCode.classes

end Attachment

namespace GroupStep

/-- The classes of a step that binds a view group. -/
def classes : GroupStep → List ClassName
  | .find lookup => lookup.classes
  | .assign _ value => value.classes
  | .attach block => block.attachments.flatMap Attachment.classes

end GroupStep

namespace ResourceValue

/-- The classes of a resource. -/
def classes : ResourceValue → List ClassName
  | .ofResources _ id => id.classes
  | .ofContext _ id => id.classes
  | .byHelper helper _ id => id.classes ++ [helper]
  | .bitmap id => id.classes ++ [Known.bitmapFactory]
  | .tinted id tint => id.classes ++ Known.utils :: tint.classes
  | .styled font _ => font.classes ++ [Known.typeface]

end ResourceValue

namespace BindStatement

/-- The classes of a statement of the constructor. -/
def classes : BindStatement → List ClassName
  | .callSuper _ | .keepTarget => []
  | .declareView => [Known.view]
  | .group id step => id.classes ++ step.classes
  | .assignCollection _ _ items => Known.utils :: items.flatMap Lookup.classes
  | .declareContext => [Known.context]
  | .declareResources => [Known.resources]
  | .assignResource _ value => value.classes

end BindStatement

namespace UnbindStatement

/-- The classes of a statement of the teardown. -/
def classes : UnbindStatement → List ClassName
  | .copyTarget type => type.classes
  | .detach block =>
    block.detachments.flatMap fun detachment =>
      (detachment.receiver.map CodeType.classes).getD []
  | .checkTarget | .forgetTarget _ | .clearField _ | .callSuper => []

end UnbindStatement

namespace CompanionCode

/-- The classes of the constructors that pass on to the one that binds. -/
def shortcutClasses (companion : CompanionCode) : List ClassName :=
  (if companion.host.isSome then Known.uiThread :: companion.target.classes else []) ++
    if companion.delegates then
      Known.uiThread :: Known.view :: Known.context :: companion.target.classes
    else []

/-- The classes of the constructor that binds. -/
def bindClasses (companion : CompanionCode) : List ClassName :=
  Known.uiThread :: (if companion.bind.touches then [Known.suppressLint] else []) ++
    companion.target.classes ++
    (if companion.bind.takesView then Known.view else Known.context) ::
      companion.bind.body.flatten.flatMap BindStatement.classes

/-- The classes of the teardown. -/
def unbindClasses (method : UnbindMethod) : List ClassName :=
  (if method.mustBeCalled then [Known.callSuper] else []) ++
    method.body.flatten.flatMap UnbindStatement.classes

/-- The class that is extended or implemented. -/
def base (companion : CompanionCode) : ClassName := companion.parent.getD Known.unbinder

/-- The classes of a companion. -/
def classes (companion : CompanionCode) : List ClassName :=
  companion.fields.flatMap (fun field => field.type.classes) ++ companion.shortcutClasses ++
    companion.bindClasses ++ (companion.unbind.map unbindClasses).getD [] ++ [companion.base]

/-- The imports of a companion. -/
def imports (companion : CompanionCode) : Imports :=
  (Imports.ofOwn companion.name).claimAll companion.classes

end CompanionCode
end Companion
