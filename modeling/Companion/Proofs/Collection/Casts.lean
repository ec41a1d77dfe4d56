import Companion.Proofs.Code.Making
import Companion.Proofs.CodeType.OfSource
import Companion.Proofs.CodeType.Outline
import Companion.Proofs.Collection.FirstFit
import Companion.Proofs.Text.Arguments

/-!
# Casts of callback arguments

Whether a callback argument is cast is told by comparing the spelling of the parameter's type in
generated code with that of the argument in the listener.  The two are written by different hands,
but no standard callback has an argument on whose spelling they differ.
-/

namespace Companion

open Text

/-- The number of type arguments of a type. -/
def CodeType.arity : CodeType → Nat
  | .parameterized _ args => args.length
  | _ => 0

/-- A text without commas is read as a type with at most one type argument. -/
theorem CodeType.arity_le_one_of_parse {input : List Char} {type : CodeType}
    (unlisted : ',' ∉ input) (read : parse input = .ok type) : type.arity ≤ 1 := by
  have outline := outline_shape (trim input)
  have yields := parse_eq_ok_iff.1 read
  generalize shape (trim input) = found at outline yields
  cases outline with
  | void | primitive | anyWildcard =>
      obtain rfl := yields
      exact Nat.zero_le 1
  | array | wildcard | plain =>
      obtain ⟨_, _, rfl⟩ := yields
      exact Nat.zero_le 1
  | unbalanced => exact yields.elim
  | @generic name inner _ _ text_eq _ =>
      obtain ⟨reads, allRead, raw, -, rfl⟩ := yields
      have innerUnlisted : ',' ∉ inner := fun listed =>
        unlisted ((trim_isInfix input).subset (by simp [text_eq, listed]))
      have uncut := isUncut_iff_argumentsFrom.1 (isUncut_of_comma_not_mem 0 innerUnlisted)
      have length_eq := allRead.length_eq
      rw [splitArguments, List.length_map, List.length_cons, uncut, List.length_nil] at length_eq
      exact length_eq.ge

theorem CodeType.display_ofSource {world : Universe} (packaged : world.IsPackaged)
    {type : SourceType} {written : CodeType} (done : ofSource world type = .ok written) :
    written.display = type.resolved.displayWith ", " :=
  congrArg String.ofList (chars_ofSource packaged done)

/-- Both separators spell a type alike where the spelling has no comma. -/
theorem SourceType.displayWith_eq_iff {type : SourceType} {text : String}
    (unlisted : ',' ∉ text.toList) : type.displayWith ", " = text ↔ type.display = text := by
  rw [← displayWith_comma]
  constructor
  · rintro rfl
    rw [displayWith, String.toList_ofList] at unlisted
    exact congrArg String.ofList (charsWith_eq_of_comma_not_mem [' '] [] unlisted).symm
  · rintro rfl
    rw [displayWith, String.toList_ofList] at unlisted
    exact congrArg String.ofList (charsWith_eq_of_comma_not_mem [] [' '] unlisted).symm

namespace Collection

variable {world : Universe}

/-- No argument of a standard callback has several type arguments. -/
theorem comma_not_mem_of_standard : ∀ kind ∈ ListenerKind.standard, ∀ callback ∈ kind.declared,
    ∀ argument ∈ callback.parameters, ',' ∉ argument.toList := by
  decide

/-- A parameter without type variables needs a cast if it is spelled unlike the argument. -/
theorem needsCast_iff (packaged : world.IsPackaged) {parameter : SourceType}
    {item : BoundParameter} {argument : String} (ground : parameter.isGround = true)
    (written : CodeType.ofSource world parameter.upperBound = .ok item.type)
    (unlisted : ',' ∉ argument.toList) :
    item.needsCast argument = true ↔ parameter.display ≠ argument := by
  rw [SourceType.upperBound_of_isGround ground] at written
  have display_eq := CodeType.display_ofSource packaged written
  rw [SourceType.resolved_of_isGround ground] at display_eq
  rw [BoundParameter.needsCast, decide_eq_true_iff, display_eq, ne_eq,
    SourceType.displayWith_eq_iff unlisted]

theorem matchFrom_of_matchParameters {marker : String} {site : Site}
    {parameters : List SourceType} {callback : Callback} {bound : List BoundParameter}
    (matched : matchParameters world marker site parameters callback = .ok (.ok bound)) :
    matchFrom world callback.parameters [] parameters = .ok bound := by
  obtain ⟨found, found_eq, matched⟩ := exists_ok_of_bind matched
  split at matched
  · cases matched
  · cases matched
    exact found_eq

/-- Whether each parameter without type variables is cast when it is spelled unlike the argument
that it takes, and only then. -/
def CastsUnlike (callback : Callback) (parameters : List SourceType)
    (bound : List BoundParameter) : Prop :=
  ∀ (index : Nat) (parameter : SourceType) (item : BoundParameter),
    parameters[index]? = some parameter → bound[index]? = some item →
    parameter.isGround = true → ∃ argument, callback.parameters[item.position]? = some argument ∧
      (item.needsCast argument = true ↔ parameter.display ≠ argument)

/-- The types of elements keep their spelling in generated code, where their classes have the names
of their declarations.  So a parameter of a method for a standard callback is cast exactly when it
is spelled unlike the argument that it takes. -/
theorem spelling_ofSource {types : List TypeDecl}
    (accepted : Universe.platform.insertAll types = .ok world) :
    (∀ type written, CodeType.ofSource world type = .ok written →
      written.display = type.resolved.displayWith ", " ∧
        type.resolved.display = type.resolved.displayWith ",") ∧
    (∀ name args decl written, world.get? name = some decl →
      CodeType.ofSource world (.declared name args) = .ok written →
        ∃ raw, written.raw = .classType raw ∧ raw.canonical = decl.name) ∧
    ∀ kind ∈ ListenerKind.standard, ∀ callback ∈ kind.declared,
      (∀ argument ∈ callback.parameters,
        ∃ type, CodeType.ofText argument = .ok type ∧ type.arity ≤ 1) ∧
      ∀ marker site parameters bound,
        matchParameters world marker site parameters callback = .ok (.ok bound) →
          CastsUnlike callback parameters bound := by
  have packaged := Universe.isPackaged_platform.insertAll accepted
  refine ⟨fun type written done => ?_, fun name args decl written found done => ?_,
    fun kind standard callback declared => ⟨fun argument listed => ?_, ?_⟩⟩
  · exact ⟨CodeType.display_ofSource packaged done, type.resolved.displayWith_comma.symm⟩
  · obtain ⟨raw, named, done⟩ := exists_ok_of_bind done
    refine ⟨raw, ?_, ?_⟩
    · split at done
      · cases done
        rfl
      · obtain ⟨writtens, -, done⟩ := exists_ok_of_bind done
        cases done
        rfl
    · rw [packaged.canonical_eq named, Universe.name_of_get? found]
  · have readable := ListenerKind.isReadable_of_mem_standard standard
    obtain ⟨type, made⟩ := readable.parameter callback declared argument listed
    have read := Generation.ofText_of_typeOf made
    have unlisted := comma_not_mem_of_standard kind standard callback declared argument listed
    exact ⟨type, read, CodeType.arity_le_one_of_parse unlisted read⟩
  · intro marker site parameters bound matched index parameter item isParameter found ground
    have inTurn := areInTurn_of_matchFrom (matchFrom_of_matchParameters matched)
    obtain ⟨other, isOther, chosen, written⟩ := inTurn.takes index item found
    obtain rfl := Option.some.inj (isParameter.symm.trans isOther)
    obtain ⟨argument, isArgument, -⟩ := chosen.fits
    have listed := List.mem_of_getElem? isArgument
    have unlisted := comma_not_mem_of_standard kind standard callback declared argument listed
    exact ⟨argument, isArgument, needsCast_iff packaged ground written unlisted⟩

/-- A nested class in a package that is given, and one in a package that is read off its name. -/
def someTypes : List TypeDecl :=
  [{ TypeDecl.ofName .classType "a.b.Outer.Pair" with package := "a.b" },
    { TypeDecl.ofName .classType "c.Item" with package := "" }]

/-- A use of them with type variables inside one another. -/
def someUse : SourceType :=
  .declared "a.b.Outer.Pair"
    [.typeVariable "K" (.declared "java.util.List" [.typeVariable "V" (.named "c.Item")]),
      .array (.wildcard (.unresolved "d.Later"))]

/-- A parameter that is spelled unlike the argument that it takes, and one that is spelled like its
own. -/
def someParameters : List SourceType :=
  [.named "java.lang.Runnable", .primitive .int]

theorem spelling_ofSource_someTypes : ∃ world,
    Universe.platform.insertAll someTypes = .ok world ∧
      (∃ written, CodeType.ofSource world someUse = .ok written ∧
        written.display = someUse.resolved.displayWith ", ") ∧
      (∃ decl, world.get? "a.b.Outer.Pair" = some decl ∧
        ∃ raw : ClassName, raw.canonical = decl.name) ∧
      ∃ bound, matchParameters world "OnItemClick" (itemClicked someParameters) someParameters
          itemClick = .ok (.ok bound) ∧ CastsUnlike itemClick someParameters bound := by
  obtain ⟨world, accepted, facts⟩ : ∃ world, Universe.platform.insertAll someTypes = .ok world ∧
      ((CodeType.ofSource world someUse).isOk, (world.get? "a.b.Outer.Pair").isSome,
        (matchParameters world "OnItemClick" (itemClicked someParameters) someParameters
          itemClick).toOption.map Except.isOk) = (true, true, some true) :=
    exists_ok_of_map_toOption (by decide +kernel)
  obtain ⟨isWritten, isDeclared, isMatched⟩ := Prod.mk.inj facts |>.imp_right Prod.mk.inj
  obtain ⟨spelled, named, cast⟩ := spelling_ofSource accepted
  obtain ⟨written, done⟩ := exists_ok_of_isOk isWritten
  obtain ⟨decl, found⟩ := Option.isSome_iff_exists.1 isDeclared
  obtain ⟨outcome, matched, complete⟩ := exists_ok_of_map_toOption isMatched
  obtain ⟨bound, rfl⟩ := exists_ok_of_isOk complete
  obtain ⟨raw, -, raw_eq⟩ := named _ _ decl written found done
  have standard : ListenerKind.onItemClick ∈ ListenerKind.standard := by
    simp [ListenerKind.standard]
  have declared : itemClick ∈ ListenerKind.onItemClick.declared := by decide
  exact ⟨world, accepted, ⟨written, done, (spelled _ written done).1⟩, ⟨decl, found, raw, raw_eq⟩,
    bound, matched, (cast _ standard itemClick declared).2 _ _ _ bound matched⟩

end Collection
end Companion
