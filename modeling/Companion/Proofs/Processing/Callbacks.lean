import Companion.Code.Printer
import Companion.Proofs.Code.Blocks
import Companion.Proofs.Code.Constructors
import Companion.Proofs.Processing.Companions

/-!
# Callbacks of attached listeners

A listener is written with every callback that it declares.  A callback calls the methods bound to
it and then returns a value, unless one of them has done so: a callback that returns a value has at
most one method, so that nothing stands behind the return.
-/

namespace Companion

/-- A statement of a callback. -/
inductive CallbackStatement where
  /-- Call a bound method. -/
  | invoke (call : MethodCall)
  /-- Return a value. -/
  | fallBack (value : String)

namespace CallbackStatement

/-- Whether the statement returns. -/
def isReturn : CallbackStatement → Bool
  | .invoke call => call.returns
  | .fallBack _ => true

/-- Print a statement of a callback. -/
def print (spell : Spelling) (callback : String) (source : SourceText) :
    CallbackStatement → SourceText
  | .invoke call => source.statement (call.write spell callback)
  | .fallBack value => source.statement s!"return {value}"

end CallbackStatement

namespace CallbackCode

/-- The statements of a callback. -/
def statements (code : CallbackCode) : List CallbackStatement :=
  code.calls.map .invoke ++ code.fallback.toList.map .fallBack

/-- The text of a callback is that of its statements. -/
theorem exists_print_eq (spell : Spelling) (source : SourceText) (code : CallbackCode) :
    ∃ header, code.print spell source =
      (((source.line "@Override").begin header).each (CallbackStatement.print spell code.name)
        code.statements).close := by
  obtain ⟨name, returnType, parameters, calls, fallback⟩ := code
  apply Exists.intro
  simp only [print, statements, SourceText.each, List.foldl_append, List.foldl_map]
  cases fallback with
  | none => rfl
  | some value => rfl

end CallbackCode

/-- Whether the last of some statements returns, and no other does. -/
def ReturnsLast (statements : List CallbackStatement) : Prop :=
  ∃ before last, statements = before ++ [last] ∧ last.isReturn = true ∧
    ∀ statement ∈ before, statement.isReturn = false

/-- Whether a call in a callback is that of a bound method of a class. -/
structure MethodCall.Performs (world : Universe) (decl : TypeDecl) (callback : Callback)
    (method : MethodBinding) (call : MethodCall) : Prop where
  /-- It calls the method. -/
  named : call.method = method.name
  /-- The arguments are those of the binding, in the same order. -/
  positions : call.arguments.map Argument.position =
    method.parameters.map BoundParameter.position
  /-- The class declares the method, and each parameter is given one argument of the callback that
  it can receive. -/
  receives : ∃ member ∈ decl.members, member.name = call.method ∧
    ∃ returnType parameters, member.kind = .method returnType parameters ∧
      call.returns = Collection.returnsValue returnType ∧
      List.Forall₂ (fun parameter argument => ∃ text,
        callback.parameters[argument.position]? = some text ∧
        Collection.isAssignable world parameter.upperBound text = true) parameters call.arguments
  /-- No argument of the callback is given twice. -/
  different : (call.arguments.map Argument.position).Nodup

/-- Whether a callback is written as it is declared and calls some bound methods in order. -/
structure CallbackCode.Implements (world : Universe) (decl : TypeDecl)
    (methods : List MethodBinding) (callback : Callback) (code : CallbackCode) : Prop where
  /-- The names are the same. -/
  name : code.name = callback.name
  /-- The return types are the same. -/
  returnType : CodeType.ofText callback.returnType = .ok code.returnType
  /-- So are the types of the parameters. -/
  parameters : List.Forall₂ (fun text type => CodeType.ofText text = .ok type)
    callback.parameters code.parameters
  /-- Each method is called once. -/
  calls : List.Forall₂ (MethodCall.Performs world decl callback) methods code.calls
  /-- When a value is expected, it is returned in the end. -/
  returnsLast : callback.returnsValue = true → ReturnsLast code.statements
  /-- Otherwise nothing is returned. -/
  returnsNothing : callback.returnsValue = false →
    ∀ statement ∈ code.statements, statement.isReturn = false

/-- Whether a listener is attached with all callbacks of its kind, each of them once, and none of
its methods is left out. -/
structure Attachment.Implements (world : Universe) (decl : TypeDecl) (listener : ListenerBinding)
    (attachment : Attachment) : Prop where
  /-- The listener is of the type of its kind. -/
  type : ClassName.ofText listener.kind.listenerType = .ok attachment.listener
  /-- The callbacks are those that the kind declares. -/
  callbacks : List.Forall₂
    (fun callback => CallbackCode.Implements world decl (listener.methodsOf callback) callback)
    listener.kind.declared attachment.callbacks
  /-- No two of them have the same name. -/
  once : (attachment.callbacks.map CallbackCode.name).Nodup
  /-- Every bound method is bound to one of them, and to it once. -/
  complete : ∀ bound ∈ listener.callbacks, bound.callback ∈ listener.kind.declared ∧
    listener.methodsOf bound.callback = bound.methods ∧ bound.methods.Nodup

/-- Whether every callback is bound to the methods that some calls give for it, each once and in the
order of the calls. -/
def Target.FollowsOrder (calls : List Target.Call) (target : Target) : Prop :=
  ∀ group ∈ target.groups, ∀ listener ∈ group.listeners, ∀ bound ∈ listener.callbacks,
    bound.methods = (calls.filterMap
      (Target.Call.methodFor? group.id listener.kind bound.callback)).eraseDups

namespace Generation

variable {debuggable : Bool} {world : Universe} {decl : TypeDecl}

theorem position_of_argumentCode {kind : ListenerKind} {callback : Callback} {index : Nat}
    {parameter : BoundParameter} {argument : Argument}
    (made : argumentCode debuggable kind callback index parameter = .ok argument) :
    argument.position = parameter.position := by
  unfold argumentCode at made
  split at made
  · cases made
  · repeat' split at made
    all_goals
      cases made
      rfl

theorem positions_of_arguments {kind : ListenerKind} {callback : Callback}
    {parameters : List (BoundParameter × Nat)} {arguments : List Argument}
    (made : List.Forall₂ (fun parameter argument =>
      argumentCode debuggable kind callback parameter.2 parameter.1 = .ok argument)
      parameters arguments) :
    arguments.map Argument.position = parameters.map fun parameter => parameter.1.position := by
  induction made with
  | nil => rfl
  | cons argumentMade _ ih =>
      rw [List.map_cons, List.map_cons, position_of_argumentCode argumentMade, ih]

theorem performs_of_methodCall {kind : ListenerKind} {callback : Callback} {member : Member}
    {method : MethodBinding} {call : MethodCall} (listed : member ∈ decl.members)
    (suits : Collection.Suits world callback member method)
    (made : methodCall debuggable kind callback method = .ok call) :
    call.Performs world decl callback method := by
  obtain ⟨arguments, argumentsMade, made⟩ := exists_ok_of_bind made
  cases made
  have positions : arguments.map Argument.position =
      method.parameters.map BoundParameter.position :=
    calc arguments.map Argument.position
        = method.parameters.zipIdx.map (fun parameter => parameter.1.position) :=
          positions_of_arguments (forall₂_of_mapM argumentsMade)
      _ = (method.parameters.zipIdx.map Prod.fst).map BoundParameter.position := by
          rw [List.map_map]
          rfl
      _ = method.parameters.map BoundParameter.position := by rw [List.zipIdx_map_fst]
  obtain ⟨returnType, parameters, isMethod, returns, takes⟩ := suits.takes
  refine ⟨rfl, positions, ⟨member, listed, suits.name.symm, returnType, parameters, isMethod,
    returns, ?_⟩, positions ▸ suits.different⟩
  -- what holds of a bound parameter is about its position alone
  have receives : List.Forall₂ (fun parameter position => ∃ text,
      callback.parameters[position]? = some text ∧
      Collection.isAssignable world parameter.upperBound text = true) parameters
      (arguments.map Argument.position) := by
    rw [positions, List.forall₂_map_right_iff]
    exact takes.imp fun _ _ takes => takes.fits
  exact List.forall₂_map_right_iff.1 receives

theorem not_returns_of_methodCall {kind : ListenerKind} {callback : Callback} {member : Member}
    {method : MethodBinding} {call : MethodCall} (isVoid : callback.returnsValue = false)
    (suits : Collection.Suits world callback member method)
    (made : methodCall debuggable kind callback method = .ok call) : call.returns = false := by
  obtain ⟨arguments, -, made⟩ := exists_ok_of_bind made
  cases made
  refine Bool.eq_false_iff.2 fun returns => ?_
  have fits := suits.returns returns
  rw [isVoid] at fits
  cases fits

/-- A callback that is to return a value does so last: what it calls is one method at most. -/
theorem returnsLast_of_single {calls : List MethodCall} (single : calls.length ≤ 1)
    (fallback : String) :
    ReturnsLast (calls.map .invoke ++ (if calls.any MethodCall.returns then none
      else some fallback).toList.map .fallBack) := by
  match calls with
  | [] => exact ⟨[], .fallBack fallback, rfl, rfl, by simp⟩
  | [call] =>
      cases returns : call.returns with
      | true => exact ⟨[], .invoke call, by simp [returns], returns, by simp⟩
      | false =>
          exact ⟨[.invoke call], .fallBack fallback, by simp [returns], rfl,
            by simpa [CallbackStatement.isReturn] using returns⟩
  | _ :: _ :: _ =>
      simp only [List.length_cons] at single
      omega

variable {listener : ListenerBinding}

theorem length_methodsOf_le (callable : Collection.IsCallable world decl listener)
    {callback : Callback} (returns : callback.returnsValue = true) :
    (listener.methodsOf callback).length ≤ 1 := by
  cases methods_eq : listener.methodsOf callback with
  | nil => exact Nat.zero_le 1
  | cons method rest =>
      have listed : method ∈ listener.methodsOf callback := methods_eq ▸ List.mem_cons_self
      rw [ListenerBinding.methodsOf] at listed methods_eq
      cases found : listener.callbacks.find? fun bound => bound.callback = callback with
      | none => simp [found] at listed
      | some bound =>
          have isFor : bound.callback = callback := by simpa using List.find?_some found
          have single := callable.single bound (List.mem_of_find?_eq_some found) (isFor ▸ returns)
          rw [found] at methods_eq
          rw [← methods_eq]
          exact Nat.le_of_eq single

theorem exists_suits_of_mem_methodsOf (callable : Collection.IsCallable world decl listener)
    {callback : Callback} {method : MethodBinding} (listed : method ∈ listener.methodsOf callback) :
    ∃ member ∈ decl.members, Collection.Suits world callback member method := by
  obtain ⟨bound, isBound, rfl, calls⟩ := ListenerBinding.exists_of_mem_methodsOf listed
  exact callable.suits bound isBound method calls

theorem implements_of_callbackCode (callable : Collection.IsCallable world decl listener)
    {callback : Callback} {code : CallbackCode}
    (made : callbackCode debuggable listener callback = .ok code) :
    code.Implements world decl (listener.methodsOf callback) callback := by
  obtain ⟨returnType, typed, made⟩ := exists_ok_of_bind made
  obtain ⟨parameters, parametersMade, made⟩ := exists_ok_of_bind made
  obtain ⟨calls, callsMade, made⟩ := exists_ok_of_bind made
  cases made
  have suits : ∀ method ∈ listener.methodsOf callback, ∃ member ∈ decl.members,
      Collection.Suits world callback member method :=
    fun _ listed => exists_suits_of_mem_methodsOf callable listed
  have performed : List.Forall₂ (MethodCall.Performs world decl callback)
      (listener.methodsOf callback) calls := by
    refine List.Forall₂.imp ?_ ((List.forall₂_and_left _ _).2 ⟨suits, forall₂_of_mapM callsMade⟩)
    rintro method call ⟨⟨member, listed, suits⟩, callMade⟩
    exact performs_of_methodCall listed suits callMade
  refine ⟨rfl, ofText_of_typeOf typed, (forall₂_of_mapM parametersMade).imp
    fun _ _ typed => ofText_of_typeOf typed, performed, ?_, ?_⟩
  · intro returns
    have single : calls.length ≤ 1 := performed.length_eq ▸ length_methodsOf_le callable returns
    have returnsLast := returnsLast_of_single single callback.defaultReturn
    simp only [CallbackCode.statements, returns, Bool.true_and]
    cases isReturned : calls.any MethodCall.returns <;> simpa [isReturned] using returnsLast
  · intro isVoid statement listed
    simp only [CallbackCode.statements, isVoid, Bool.false_and, Bool.false_eq_true, if_false,
      Option.toList_none, List.map_nil, List.append_nil] at listed
    obtain ⟨call, called, rfl⟩ := List.mem_map.1 listed
    obtain ⟨method, bound, callMade⟩ := exists_ok_of_mem_mapM callsMade called
    obtain ⟨member, -, suits⟩ := suits method bound
    exact not_returns_of_methodCall isVoid suits callMade

theorem nodup_name_of_mem_standard {kind : ListenerKind} (listed : kind ∈ ListenerKind.standard) :
    (kind.declared.map Callback.name).Nodup := by
  have nodup : ∀ kind ∈ ListenerKind.standard, (kind.declared.map Callback.name).Nodup := by
    decide +kernel
  exact nodup kind listed

theorem implements_of_attachment (callable : Collection.IsCallable world decl listener)
    (filled : listener.IsFilled) (nodup : ∀ bound ∈ listener.callbacks, bound.methods.Nodup)
    (names : (listener.kind.declared.map Callback.name).Nodup) {slot : String}
    {code : Attachment} (made : attachment debuggable slot listener = .ok code) :
    code.Implements world decl listener := by
  obtain ⟨type, typed, made⟩ := exists_ok_of_bind made
  obtain ⟨receiver, -, made⟩ := exists_ok_of_bind made
  obtain ⟨callbacks, callbacksMade, made⟩ := exists_ok_of_bind made
  cases made
  have implemented : List.Forall₂
      (fun callback => CallbackCode.Implements world decl (listener.methodsOf callback) callback)
      listener.kind.declared callbacks :=
    (forall₂_of_mapM callbacksMade).imp fun _ _ callbackMade =>
      implements_of_callbackCode callable callbackMade
  refine ⟨ofText_of_className typed, implemented, ?_, ?_⟩
  · have names_eq : callbacks.map CallbackCode.name = listener.kind.declared.map Callback.name := by
      refine List.forall₂_eq_eq_eq ▸ ?_
      rw [List.forall₂_map_left_iff, List.forall₂_map_right_iff]
      exact implemented.flip.imp fun _ _ implements => implements.name
    exact names_eq ▸ names
  · intro bound isBound
    exact ⟨callable.declared bound isBound,
      ListenerBinding.methodsOf_eq_of_mem filled isBound, nodup bound isBound⟩

end Generation

namespace Processing

variable {environment : Environment} {name : String} {set : LinkedTarget}

theorem implements_of_mem_listeners
    (found : (collect environment ListenerKind.standard).targets.get? name = some set) :
    ∃ decl, environment.world.get? name = some decl ∧
      ∀ group ∈ set.groups, ∀ listener ∈ group.listeners, ∀ debuggable slot code,
        Generation.attachment debuggable slot listener = .ok code →
          code.Implements environment.world decl listener := by
  obtain ⟨decl, known, justified, entries, recorded⟩ :=
    Collection.exists_isRecorded_of_collect found
  refine ⟨decl, known, fun group listed listener listens debuggable slot code made => ?_⟩
  have standard := (justified.group group listed).kind listener listens
  refine Generation.implements_of_attachment
    (justified.isCallable recorded.records listed listens)
    ((recorded.records.filled group listed).listeners listener listens) ?_
    (Generation.nodup_name_of_mem_standard standard) made
  intro bound isBound
  exact (recorded.records.isMadeBy.methods group listed listener listens bound isBound).1

/-- The methods of a target are those that the uses of markers in its class bind, in the order of
the uses. -/
theorem exists_followsOrder_of_collect
    (found : (collect environment ListenerKind.standard).targets.get? name = some set) :
    ∃ entries, Collection.IsRecorded (Collection.surroundingsOf environment ListenerKind.standard)
        (Collection.uses environment.world ListenerKind.standard) name entries set.toTarget ∧
      set.FollowsOrder (entries.flatMap Prod.snd) := by
  obtain ⟨-, -, -, entries, recorded⟩ := Collection.exists_isRecorded_of_collect found
  refine ⟨entries, recorded, fun group listed listener listens bound isBound => ?_⟩
  exact (recorded.records.isMadeBy.methods group listed listener listens bound isBound).2

/-- The constructor of each set of a round attaches one listener for each group and kind.  It has
all callbacks of the kind, and these call every bound method once, in the order in which they were
bound, with arguments that the method declares and in its own order, and return a value last when
one is expected. -/
theorem implements_of_collect
    (found : (collect environment ListenerKind.standard).targets.get? name = some set) :
    (∃ entries, Collection.IsRecorded (Collection.surroundingsOf environment ListenerKind.standard)
        (Collection.uses environment.world ListenerKind.standard) name entries set.toTarget ∧
      set.FollowsOrder (entries.flatMap Prod.snd)) ∧
    ∃ decl, environment.world.get? name = some decl ∧ ∀ options, ∃ code,
      CompanionCode.ofTarget options set = .ok code ∧
      List.Forall₂ (fun group block => List.Forall₂
          (Attachment.Implements environment.world decl) group.listeners block.attachments)
        (Generation.listenerGroups set.toTarget) code.bind.attachBlocks := by
  refine ⟨exists_followsOrder_of_collect found, ?_⟩
  obtain ⟨decl, known, implements⟩ := implements_of_mem_listeners found
  refine ⟨decl, known, fun options => ?_⟩
  obtain ⟨code, made⟩ := exists_made_of_collect found options
  refine ⟨code, made, ?_⟩
  have blocks := Generation.attachBlocks_of_bindConstructor
    (Generation.bindConstructor_of_ofTarget made).2.2
  have listed : ∀ group ∈ Generation.listenerGroups set.toTarget, group ∈ set.groups :=
    fun group listening => (List.mem_filter.1 listening).1
  refine List.Forall₂.imp ?_ ((List.forall₂_and_left _ _).2 ⟨listed, blocks⟩)
  rintro group block ⟨groupListed, blockMade⟩
  obtain ⟨attachments, attachmentsMade, blockMade⟩ := exists_ok_of_bind blockMade
  cases blockMade
  refine List.Forall₂.imp ?_
    ((List.forall₂_and_left _ _).2 ⟨fun _ listens => listens, forall₂_of_mapM attachmentsMade⟩)
  rintro listener attachment ⟨listens, attachmentMade⟩
  exact implements group groupListed listener listens _ _ _ attachmentMade

/-- The methods of a target with the callbacks that call them and the arguments that they take. -/
def boundMethods (target : Target) : List (String × String × List Nat) :=
  target.groups.flatMap fun group => group.listeners.flatMap fun listener =>
    listener.callbacks.flatMap fun bound => bound.methods.map fun method =>
      (bound.callback.name, method.name, method.parameters.map BoundParameter.position)

/-- In the crowded class, a method takes the arguments of its callback in another order, and two
methods are bound to one callback. -/
theorem implements_crowdedRound : ∃ set decl code entries,
    (collect crowdedRound ListenerKind.standard).targets.get? "a.Host" = some set ∧
    crowdedRound.world.get? "a.Host" = some decl ∧
    CompanionCode.ofTarget .default set = .ok code ∧
    boundMethods set.toTarget = [("onLongClick", "hold", []), ("onPageSelected", "turn", [0]),
      ("onTextChanged", "write", [1, 0]), ("onTextChanged", "note", []),
      ("onTextChanged", "write", [1, 0]), ("onTouch", "touch", [])] ∧
    Collection.IsRecorded (Collection.surroundingsOf crowdedRound ListenerKind.standard)
      (Collection.uses crowdedRound.world ListenerKind.standard) "a.Host" entries set.toTarget ∧
    set.FollowsOrder (entries.flatMap Prod.snd) ∧
    List.Forall₂ (fun group block => List.Forall₂
        (Attachment.Implements crowdedRound.world decl) group.listeners block.attachments)
      (Generation.listenerGroups set.toTarget) code.bind.attachBlocks := by
  obtain ⟨set, found⟩ := exists_set_crowdedRound
  obtain ⟨⟨entries, recorded, follows⟩, decl, known, implements⟩ := implements_of_collect found
  obtain ⟨code, made, implements⟩ := implements .default
  have methods : boundMethods set.toTarget = [("onLongClick", "hold", []),
      ("onPageSelected", "turn", [0]), ("onTextChanged", "write", [1, 0]),
      ("onTextChanged", "note", []), ("onTextChanged", "write", [1, 0]),
      ("onTouch", "touch", [])] :=
    value_of_collect _ found (by decide +kernel)
  exact ⟨set, decl, code, entries, found, known, made, methods, recorded, follows, implements⟩

end Processing
end Companion
