import Companion.Code.Classes
import Companion.Code.Literal
import Companion.Code.SourceText

/-!
# Printing companions

The text of a companion, given how class names are written.  Members are separated by blank lines,
and so are the paragraphs of a method.
-/

namespace Companion

/-- How class names are written. -/
abbrev Spelling := ClassName → String

namespace ResourceId

/-- The text of an id; an index of the platform is written in full. -/
def write (spell : Spelling) : ResourceId → String
  | .constant value => toString value.toInt
  | .reference owner member _ =>
    let owner := if owner.package = Known.platformPackage then owner.canonical else spell owner
    owner ++ "." ++ member

end ResourceId

namespace CodeType

/-- The text of a cast. -/
def writeCast (spell : Spelling) : Option CodeType → String
  | none => ""
  | some type => s!"({type.write spell}) "

end CodeType

namespace ViewPlace

/-- The variable that holds a view. -/
def write : ViewPlace → String
  | .source => "source"
  | .found => "view"

end ViewPlace

namespace Lookup

/-- The text of a search. -/
def write (spell : Spelling) : Lookup → String
  | .plain cast id => s!"{CodeType.writeCast spell cast}source.findViewById({id.write spell})"
  | .described required id description type =>
    let strictness := if required then "Required" else "Optional"
    let typing := if type.isSome then "AsType" else ""
    let typeArgument := match type with
      | some type => s!", {type.write spell}.class"
      | none => ""
    s!"{spell Known.utils}.find{strictness}View{typing}(source, {id.write spell}, {Literal.ofText description}{typeArgument})"

end Lookup

namespace ViewValue

/-- The text of a view of some id. -/
def write (spell : Spelling) (id : ResourceId) : ViewValue → String
  | .search lookup => lookup.write spell
  | .place here => here.write
  | .checked here description type =>
    s!"{spell Known.utils}.castView({here.write}, {id.write spell}, {Literal.ofText description}, {type.write spell}.class)"
  | .cast here type => s!"({type.write spell}) {here.write}"

end ViewValue

namespace Argument

/-- The text of an argument of a bound method in a callback. -/
def write (spell : Spelling) (callback method : String) : Argument → String
  | .plain position => s!"p{position}"
  | .checked position index type =>
    s!"{spell Known.utils}.castParam(p{position}, {Literal.ofText callback}, {position}, {Literal.ofText method}, {index}, {type.write spell}.class)"
  | .cast position type => s!"({type.write spell}) p{position}"

end Argument

namespace MethodCall

/-- The text of a call in a callback. -/
def write (spell : Spelling) (callback : String) (call : MethodCall) : String :=
  let arguments := Text.joined ", " (call.arguments.map (Argument.write spell callback call.method))
  let invocation := s!"target.{call.method}({arguments})"
  if call.returns then s!"return {invocation}" else invocation

end MethodCall

namespace ResourceValue

/-- The text of a resource. -/
def write (spell : Spelling) : ResourceValue → String
  | .ofResources method id => s!"res.{method}({id.write spell})"
  | .ofContext method id => s!"context.{method}({id.write spell})"
  | .byHelper helper method id => s!"{spell helper}.{method}(context, {id.write spell})"
  | .bitmap id => s!"{spell Known.bitmapFactory}.decodeResource(res, {id.write spell})"
  | .tinted id tint =>
    s!"{spell Known.utils}.getTintedDrawable(context, {id.write spell}, {tint.write spell})"
  | .styled font style =>
    let typeface := spell Known.typeface
    s!"{typeface}.create({font.write spell}, {typeface}.{style.constant})"

end ResourceValue

namespace SourceText

/-- Print parts one after the other. -/
def each {α : Type} (print : SourceText → α → SourceText) (parts : List α)
    (source : SourceText) : SourceText :=
  parts.foldl print source

/-- Print parts with blank lines between them. -/
def separated {α : Type} (print : SourceText → α → SourceText) :
    List α → SourceText → SourceText
  | [], source => source
  | [part], source => print source part
  | part :: rest, source => separated print rest (print source part).blank

/-- Print a part inside a guard, if it needs one. -/
def guarded (needed : Bool) (name : String) (print : SourceText → SourceText)
    (source : SourceText) : SourceText :=
  if needed then (print (source.begin s!"if ({name} != null)")).close else print source

end SourceText

namespace CallbackCode

/-- Print a callback. -/
def print (spell : Spelling) (source : SourceText) (callback : CallbackCode) : SourceText :=
  let parameters := callback.parameters.zipIdx.map fun (type, position) =>
    s!"{type.write spell} p{position}"
  let listed := Text.joined ", " parameters
  let header := s!"public {callback.returnType.write spell} {callback.name}({listed})"
  let source := (source.line "@Override").begin header
  let source := source.each (fun source call => source.statement (call.write spell callback.name))
    callback.calls
  let source := match callback.fallback with
    | some value => source.statement s!"return {value}"
    | none => source
  source.close

end CallbackCode

/-- The text of a view that a listener is attached to or detached from. -/
def receiverText (spell : Spelling) (receiver : Option CodeType) (name : String) : String :=
  match receiver with
  | none => name
  | some type => s!"(({type.write spell}) {name})"

namespace Attachment

/-- Print a listener with what stands before and after it in its statement. -/
def printListener (spell : Spelling) (before after : String) (attachment : Attachment)
    (source : SourceText) : SourceText :=
  let source := (source.line s!"{before}new {spell attachment.listener}() \x7b").indent
  let source := source.separated (CallbackCode.print spell) attachment.callbacks
  source.dedent.line s!"\x7d{after};"

/-- Print the attaching of a listener to a view. -/
def print (spell : Spelling) (name : String) (source : SourceText) (attachment : Attachment) :
    SourceText :=
  let receiver := receiverText spell attachment.receiver name
  match attachment.keptIn with
  | some field =>
    (attachment.printListener spell s!"{field} = " "" source).statement
      s!"{receiver}.{attachment.setter}({field})"
  | none => attachment.printListener spell s!"{receiver}.{attachment.setter}(" ")" source

end Attachment

namespace AttachBlock

/-- Print the listeners of a view. -/
def print (spell : Spelling) (block : AttachBlock) (source : SourceText) : SourceText :=
  let name := block.place.write
  source.guarded block.guarded name fun source =>
    (source.statement s!"{block.slot} = {name}").each (Attachment.print spell name)
      block.attachments

end AttachBlock

namespace SuperArgument

/-- The text of the argument. -/
def write : SuperArgument → String
  | .source => "source"
  | .contextOfSource => "source.getContext()"
  | .context => "context"

end SuperArgument

namespace BindStatement

/-- Print a statement of the constructor. -/
def print (spell : Spelling) (source : SourceText) : BindStatement → SourceText
  | .callSuper argument => source.statement s!"super(target, {argument.write})"
  | .keepTarget => source.statement "this.target = target"
  | .declareView => source.statement s!"{spell Known.view} view"
  | .group _ (.find lookup) => source.statement s!"view = {lookup.write spell}"
  | .group id (.assign field value) =>
    source.statement s!"target.{field} = {value.write spell id}"
  | .group _ (.attach block) => block.print spell source
  | .assignCollection field factory items =>
    let items := Text.joined ",\n" (items.map (Lookup.write spell))
    source.statement s!"target.{field} = {spell Known.utils}.{factory}(\n{items})"
  | .declareContext => source.statement s!"{spell Known.context} context = source.getContext()"
  | .declareResources =>
    source.statement s!"{spell Known.resources} res = context.getResources()"
  | .assignResource field value => source.statement s!"target.{field} = {value.write spell}"

end BindStatement

namespace DetachBlock

/-- Print the detaching of a listener from the view in a slot. -/
def printDetachment (spell : Spelling) (slot : String) (source : SourceText)
    (detachment : Detachment) : SourceText :=
  let receiver := receiverText spell detachment.receiver slot
  match detachment.keptIn with
  | some field =>
    (source.statement s!"{receiver}.{detachment.method}({field})").statement s!"{field} = null"
  | none => source.statement s!"{receiver}.{detachment.method}(null)"

/-- Print the teardown of a view's listeners. -/
def print (spell : Spelling) (block : DetachBlock) (source : SourceText) : SourceText :=
  source.guarded block.guarded block.slot fun source =>
    (source.each (printDetachment spell block.slot) block.detachments).statement
      s!"{block.slot} = null"

end DetachBlock

namespace UnbindStatement

/-- Print a statement of the teardown. -/
def print (spell : Spelling) (source : SourceText) : UnbindStatement → SourceText
  | .copyTarget type => source.statement s!"{type.write spell} target = this.target"
  | .checkTarget =>
    source.statement
      "if (target == null) throw new IllegalStateException(\"Bindings already cleared.\")"
  | .forgetTarget shadowed =>
    source.statement (if shadowed then "this.target = null" else "target = null")
  | .clearField field => source.statement s!"target.{field} = null"
  | .detach block => block.print spell source
  | .callSuper => source.statement "super.unbind()"

end UnbindStatement

namespace HostArgument

/-- The text of the argument. -/
def write : HostArgument → String
  | .target => "target"
  | .contextOfTarget => "target.getContext()"
  | .decorView => "target.getWindow().getDecorView()"

end HostArgument

/-- Print the paragraphs of a method and close it. -/
def SourceText.body {α : Type} (print : SourceText → α → SourceText)
    (paragraphs : List (List α)) (source : SourceText) : SourceText :=
  (source.separated (fun source statements => source.each print statements)
    paragraphs).trimmed.close

namespace CompanionCode

/-- The name that constructors have. -/
def simpleName (companion : CompanionCode) : String := companion.name.simpleName

/-- Print the constructor that takes only a target. -/
def printHost (spell : Spelling) (companion : CompanionCode) (argument : HostArgument)
    (source : SourceText) : SourceText :=
  let source := source.line s!"@{spell Known.uiThread}"
  let source := source.begin
    s!"public {companion.simpleName}({companion.target.write spell} target)"
  (source.statement s!"this(target, {argument.write})").close

/-- Print the constructor that takes a view for its context. -/
def printDelegate (spell : Spelling) (companion : CompanionCode) (source : SourceText) :
    SourceText :=
  let target := companion.target.write spell
  let name := companion.simpleName
  let context := spell Known.context
  let link := "\x7b@link #" ++ s!"{name}({target}, {context})" ++ "\x7d"
  let source := source.line "/**"
  let source := source.line s!" * @deprecated Use {link} for direct creation."
  let source := source.line
    " *     Only present for runtime invocation through \x7b@code ButterKnife.bind()\x7d."
  let source := source.line " */"
  let source := (source.line "@Deprecated").line s!"@{spell Known.uiThread}"
  let source := source.begin s!"public {name}({target} target, {spell Known.view} source)"
  (source.statement "this(target, source.getContext())").close

/-- Print the constructor that binds. -/
def printBind (spell : Spelling) (companion : CompanionCode) (source : SourceText) : SourceText :=
  let bind := companion.bind
  let source := source.line s!"@{spell Known.uiThread}"
  let source := if bind.plainResources then
    source.line "@SuppressWarnings(\"ResourceType\")" else source
  let source := if bind.touches then
    source.line s!"@{spell Known.suppressLint}(\"ClickableViewAccessibility\")" else source
  let final := if bind.targetIsFinal then "final " else ""
  let parameter := if bind.takesView then s!"{spell Known.view} source"
    else s!"{spell Known.context} context"
  let source := source.begin
    s!"public {companion.simpleName}({final}{companion.target.write spell} target, {parameter})"
  source.body (BindStatement.print spell) bind.body

/-- Print the teardown. -/
def printUnbind (spell : Spelling) (method : UnbindMethod) (source : SourceText) : SourceText :=
  let source := source.line "@Override"
  let source := if method.mustBeCalled then source.line s!"@{spell Known.callSuper}" else source
  (source.begin "public void unbind()").body (UnbindStatement.print spell) method.body

/-- The members of a companion, each with a way to print it. -/
def members (spell : Spelling) (companion : CompanionCode) : List (SourceText → SourceText) :=
  (companion.fields.map fun field source =>
      source.line s!"private {field.type.write spell} {field.name};") ++
    (companion.host.toList.map fun argument => companion.printHost spell argument) ++
    (if companion.delegates then [companion.printDelegate spell] else []) ++
    [companion.printBind spell] ++
    (companion.unbind.toList.map fun method => printUnbind spell method)

/-- The header of a companion. -/
def header (spell : Spelling) (companion : CompanionCode) : String :=
  let final := if companion.isFinal then "final " else ""
  let relation := if companion.parent.isSome then "extends" else "implements"
  s!"public {final}class {companion.simpleName} {relation} {spell companion.base}"

/-- The declaration of a companion. -/
def declaration (indentation : String) (companion : CompanionCode) : String :=
  let spell := companion.imports.spell
  let source := (SourceText.empty indentation).begin (companion.header spell)
  let source := source.separated (fun source member => member source) (companion.members spell)
  source.close.content

end CompanionCode
end Companion
