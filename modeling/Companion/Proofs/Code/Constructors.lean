import Companion.Code.Unit
import Companion.Proofs.Code.Blocks
import Mathlib.Tactic.MkIffOfInductiveProp

/-!
# Constructors of companions

The constructor that binds takes the target and a second parameter, which is a view or a context.
A companion over another one constructs that one first, and what it passes on is formed from its
second parameter alone.
-/

namespace Companion

/-- A parameter of a constructor. -/
structure Parameter where
  /-- Its name. -/
  name : String
  /-- The class of its values. -/
  type : ClassName
  deriving DecidableEq, Repr

namespace Parameter

/-- The second parameter of a constructor, for a view or a context. -/
def ofView (takesView : Bool) : Parameter :=
  if takesView then ⟨"source", Known.view⟩ else ⟨"context", Known.context⟩

/-- The text of the parameter. -/
def write (spell : Spelling) (parameter : Parameter) : String :=
  s!"{spell parameter.type} {parameter.name}"

/-- The expressions that are formed from a parameter alone, with the classes of their values. -/
@[mk_iff]
inductive HasType (parameter : Parameter) : String → ClassName → Prop where
  /-- The parameter itself. -/
  | itself : HasType parameter parameter.name parameter.type
  /-- The context of a view. -/
  | context (isView : parameter.type = Known.view) :
    HasType parameter (parameter.name ++ ".getContext()") Known.context

end Parameter

/-- What a statement gives the companion above. -/
def BindStatement.superArgument? : BindStatement → Option SuperArgument
  | .callSuper argument => some argument
  | _ => none

namespace BindConstructor

/-- The parameter beside the target. -/
def parameter (bind : BindConstructor) : Parameter := .ofView bind.takesView

/-- What the companion above is given, call by call. -/
def superArguments (bind : BindConstructor) : List SuperArgument :=
  bind.body.flatten.filterMap BindStatement.superArgument?

end BindConstructor

/-- The text of the constructor that binds declares this parameter. -/
theorem CompanionCode.exists_printBind_eq (spell : Spelling) (companion : CompanionCode)
    (source : SourceText) :
    ∃ (before : SourceText) (final : String), companion.printBind spell source =
      (before.begin ("public " ++ companion.simpleName ++ "(" ++ final ++
        companion.target.write spell ++ " target, " ++ companion.bind.parameter.write spell ++
        ")")).body (BindStatement.print spell) companion.bind.body := by
  have written : companion.bind.parameter.write spell =
      if companion.bind.takesView then s!"{spell Known.view} source"
      else s!"{spell Known.context} context" := by
    unfold BindConstructor.parameter Parameter.ofView Parameter.write
    cases companion.bind.takesView with
    | false => exact String.append_assoc
    | true => exact String.append_assoc
  rw [written]
  exact ⟨_, _, rfl⟩

namespace Generation

variable {options : Options} {target : LinkedTarget}

/-- The constructor that binds constructs the companion above once, if there is one. -/
theorem superArguments_of_bindConstructor {bind : BindConstructor}
    (made : bindConstructor options target = .ok bind) :
    bind.superArguments = target.parent.toList.map (superArgument target.needsView) := by
  obtain ⟨groups, groupsMade, arguments_eq⟩ :=
    exists_filterMap_eq_of_bindConstructor made BindStatement.superArgument? (by
      simp [BindStatement.superArgument?])
  rw [BindConstructor.superArguments, arguments_eq,
    filterMap_groups_eq_nil groupsMade fun _ _ => rfl]
  simp [BindStatement.superArgument?, collectionStatement, resourceStatement]

end Generation

/-- Whether a companion extends another one and constructs it with what its constructor takes. -/
structure CompanionCode.Extends (code parentCode : CompanionCode) : Prop where
  /-- It extends the other companion. -/
  parent : code.parent = some parentCode.name
  /-- It constructs the other companion once, from its own second parameter alone and with an
  expression of the class of the other one's second parameter. -/
  call : ∃ argument, code.bind.superArguments = [argument] ∧
    ∀ type, code.bind.parameter.HasType argument.write type ↔
      type = parentCode.bind.parameter.type

namespace Generation

variable {options : Options} {target parentTarget : LinkedTarget} {code parentCode : CompanionCode}

theorem bindConstructor_of_ofTarget (made : CompanionCode.ofTarget options target = .ok code) :
    code.name = target.companion ∧ code.parent = target.parent.map ParentLink.companion ∧
      bindConstructor options target = .ok code.bind := by
  obtain ⟨fields, -, made⟩ := exists_ok_of_bind made
  obtain ⟨bind, bindMade, made⟩ := exists_ok_of_bind made
  obtain ⟨unbind, -, made⟩ := exists_ok_of_bind made
  cases made
  exact ⟨rfl, rfl, bindMade⟩

theorem parameter_of_bindConstructor {bind : BindConstructor}
    (made : bindConstructor options target = .ok bind) :
    bind.parameter = .ofView target.needsView := by
  obtain ⟨body, -, made⟩ := exists_ok_of_bind made
  cases made
  rfl

/-- What a parent is given has the class that it takes, when a view is at hand for those that take
one. -/
theorem hasType_superArgument_iff {takesView : Bool} {parent : ParentLink}
    (propagated : parent.needsView = true → takesView = true) (type : ClassName) :
    (Parameter.ofView takesView).HasType (superArgument takesView parent).write type ↔
      type = (Parameter.ofView parent.needsView).type := by
  rw [Parameter.hasType_iff]
  cases needsView : parent.needsView with
  | true =>
      simp [Parameter.ofView, superArgument, SuperArgument.write, needsView, propagated needsView]
  | false =>
      cases takesView with
      | true =>
          have apart : "source.getContext()" ≠ "source" := by decide
          have joined : "source" ++ ".getContext()" = "source.getContext()" := by decide
          simp [Parameter.ofView, superArgument, SuperArgument.write, needsView, apart, joined]
      | false =>
          have apart : Known.context ≠ Known.view := by decide
          simp [Parameter.ofView, superArgument, SuperArgument.write, needsView, apart]

/-- The companion of a target extends the one of its parent in the round. -/
theorem extends_of_ofTarget {name : String}
    (parent_eq : target.parent = some (parentTarget.asParent name))
    (made : CompanionCode.ofTarget options target = .ok code)
    (parentMade : CompanionCode.ofTarget options parentTarget = .ok parentCode) :
    code.Extends parentCode := by
  obtain ⟨-, extended, bindMade⟩ := bindConstructor_of_ofTarget made
  obtain ⟨parentName, -, parentBindMade⟩ := bindConstructor_of_ofTarget parentMade
  have propagated : (parentTarget.asParent name).needsView = true → target.needsView = true := by
    intro needsView
    simp [LinkedTarget.needsView, parent_eq, needsView]
  have call_eq := superArguments_of_bindConstructor bindMade
  rw [parent_eq] at extended call_eq
  refine ⟨extended.trans (congrArg some parentName.symm), _, call_eq, fun type => ?_⟩
  rw [parameter_of_bindConstructor bindMade, parameter_of_bindConstructor parentBindMade]
  exact hasType_superArgument_iff propagated type

end Generation

end Companion
