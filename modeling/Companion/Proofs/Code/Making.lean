import Companion.Code.OfTarget
import Companion.Proofs.Success

/-!
# Targets whose companions can be made

A companion is made unless a text of the listener table is not the text of a class or type, or a
method takes an argument that its callback does not have.  The standard listeners are readable.
-/

namespace Companion

/-- Whether the texts of a listener kind are those of classes and types. -/
structure ListenerKind.IsReadable (kind : ListenerKind) : Prop where
  /-- The type of the listener. -/
  listener : ∃ name, Generation.className kind.listenerType = .ok name
  /-- The type of the views. -/
  receiver : ∃ type, Generation.receiverType kind = .ok type
  /-- The return types of the callbacks. -/
  returnType : ∀ callback ∈ kind.declared, ∃ type,
    Generation.typeOf callback.returnType = .ok type
  /-- The types of their parameters. -/
  parameter : ∀ callback ∈ kind.declared, ∀ parameter ∈ callback.parameters, ∃ type,
    Generation.typeOf parameter = .ok type

namespace ListenerKind

/-- The kinds that are readable, as far as this can be computed. -/
def isReadable (kind : ListenerKind) : Bool :=
  (Generation.className kind.listenerType).isOk && (Generation.receiverType kind).isOk &&
    kind.declared.all fun callback => (Generation.typeOf callback.returnType).isOk &&
      callback.parameters.all fun parameter => (Generation.typeOf parameter).isOk

theorem IsReadable.of_isReadable {kind : ListenerKind} (readable : kind.isReadable = true) :
    kind.IsReadable := by
  simp only [isReadable, Bool.and_eq_true, List.all_eq_true] at readable
  obtain ⟨⟨listener, receiver⟩, callbacks⟩ := readable
  refine ⟨exists_ok_of_isOk listener, exists_ok_of_isOk receiver, ?_, ?_⟩
  · intro callback declared
    exact exists_ok_of_isOk (callbacks callback declared).1
  · intro callback declared parameter listed
    exact exists_ok_of_isOk ((callbacks callback declared).2 parameter listed)

theorem isReadable_of_mem_standard {kind : ListenerKind} (listed : kind ∈ standard) :
    kind.IsReadable := by
  have readable : standard.all isReadable = true := by decide +kernel
  exact .of_isReadable (List.all_eq_true.1 readable kind listed)

end ListenerKind

/-- Whether a listener can be written: its kind is readable, and its methods take arguments that
their callbacks have. -/
structure ListenerBinding.IsWritable (listener : ListenerBinding) : Prop where
  /-- The kind is readable. -/
  kind : listener.kind.IsReadable
  /-- The arguments exist. -/
  argument : ∀ bound ∈ listener.callbacks, ∀ method ∈ bound.methods,
    ∀ parameter ∈ method.parameters, parameter.position < bound.callback.parameters.length

theorem ListenerBinding.exists_of_mem_methodsOf {listener : ListenerBinding} {callback : Callback}
    {method : MethodBinding} (listed : method ∈ listener.methodsOf callback) :
    ∃ bound ∈ listener.callbacks, bound.callback = callback ∧ method ∈ bound.methods := by
  rw [methodsOf] at listed
  cases found : listener.callbacks.find? fun bound => bound.callback = callback with
  | none => simp [found] at listed
  | some bound =>
      rw [found] at listed
      exact ⟨bound, List.mem_of_find?_eq_some found, by simpa using List.find?_some found, listed⟩

namespace Generation

variable {debuggable : Bool} {listener : ListenerBinding} {group : ViewGroup}

theorem ofText_of_className {text : String} {name : ClassName} (made : className text = .ok name) :
    ClassName.ofText text = .ok name :=
  eq_ok_of_mapError made

theorem ofText_of_typeOf {text : String} {type : CodeType} (made : typeOf text = .ok type) :
    CodeType.ofText text = .ok type :=
  eq_ok_of_mapError made

theorem exists_methodCall {kind : ListenerKind} {callback : Callback} {method : MethodBinding}
    (given : ∀ parameter ∈ method.parameters, parameter.position < callback.parameters.length) :
    ∃ call, methodCall debuggable kind callback method = .ok call := by
  refine exists_ok_bind (exists_ok_mapM ?_) fun arguments _ => ⟨_, rfl⟩
  rintro ⟨parameter, index⟩ listed
  have inRange := given parameter (List.fst_mem_of_mem_zipIdx listed)
  simp only [argumentCode, List.getElem?_eq_getElem inRange]
  repeat' split
  all_goals exact ⟨_, rfl⟩

theorem exists_callbackCode (writable : listener.IsWritable) {callback : Callback}
    (declared : callback ∈ listener.kind.declared) :
    ∃ code, callbackCode debuggable listener callback = .ok code := by
  refine exists_ok_bind (writable.kind.returnType callback declared) fun returnType _ => ?_
  refine exists_ok_bind (exists_ok_mapM (writable.kind.parameter callback declared))
    fun parameters _ => ?_
  refine exists_ok_bind (exists_ok_mapM ?_) fun calls _ => ⟨_, rfl⟩
  intro method listed
  obtain ⟨bound, isBound, rfl, calls⟩ := ListenerBinding.exists_of_mem_methodsOf listed
  exact exists_methodCall (writable.argument bound isBound method calls)

theorem exists_attachment (writable : listener.IsWritable) (slot : String) :
    ∃ made, attachment debuggable slot listener = .ok made := by
  refine exists_ok_bind writable.kind.listener fun type _ => ?_
  refine exists_ok_bind writable.kind.receiver fun receiver _ => ?_
  refine exists_ok_bind (exists_ok_mapM ?_) fun callbacks _ => ⟨_, rfl⟩
  intro callback declared
  exact exists_callbackCode writable declared

theorem exists_detachment (writable : listener.IsWritable) (slot : String) :
    ∃ made, detachment slot listener = .ok made :=
  exists_ok_bind writable.kind.receiver fun _ _ =>
    exists_ok_bind writable.kind.listener fun _ _ => ⟨_, rfl⟩

theorem exists_listenerFieldCode {kind : ListenerKind} (readable : kind.IsReadable)
    (slot : String) : ∃ made, listenerFieldCode slot kind = .ok made := by
  unfold listenerFieldCode
  split
  · exact ⟨_, rfl⟩
  · exact exists_ok_bind readable.listener fun _ _ => ⟨_, rfl⟩

theorem exists_groupStatements
    (writable : ∀ listener ∈ group.listeners, listener.IsWritable) :
    ∃ statements, groupStatements debuggable group = .ok statements := by
  refine exists_ok_bind ?_ fun steps _ => ⟨_, rfl⟩
  unfold groupSteps
  split
  · exact ⟨_, rfl⟩
  · dsimp only
    split
    · exact ⟨_, rfl⟩
    · refine exists_ok_bind ?_ fun block _ => ⟨_, rfl⟩
      refine exists_ok_bind (exists_ok_mapM ?_) fun attachments _ => ⟨_, rfl⟩
      intro listener listed
      exact exists_attachment (writable listener listed) _

theorem exists_detachBlock (writable : ∀ listener ∈ group.listeners, listener.IsWritable) :
    ∃ block, detachBlock group = .ok block := by
  refine exists_ok_bind (exists_ok_mapM ?_) fun detachments _ => ⟨_, rfl⟩
  intro listener listed
  exact exists_detachment (writable listener listed) _

theorem exists_groupFields (writable : ∀ listener ∈ group.listeners, listener.IsWritable) :
    ∃ fields, groupFields group = .ok fields := by
  refine exists_ok_bind (exists_ok_mapM ?_) fun listeners _ => ⟨_, rfl⟩
  intro listener listed
  exact exists_listenerFieldCode (writable listener listed).kind _

/-- The companion of a target whose listeners can be written is made with any options. -/
theorem exists_ofTarget {target : LinkedTarget}
    (writable : ∀ group ∈ target.groups, ∀ listener ∈ group.listeners, listener.IsWritable)
    (options : Options) : ∃ code, CompanionCode.ofTarget options target = .ok code := by
  have listening {group : ViewGroup} (listed : group ∈ listenerGroups target.toTarget) :=
    writable group (List.mem_filter.1 listed).1
  refine exists_ok_bind ?_ fun fields _ => exists_ok_bind ?_ fun bind _ =>
    exists_ok_bind ?_ fun unbind _ => ⟨_, rfl⟩
  · refine exists_ok_bind (exists_ok_mapM ?_) fun groups _ => ⟨_, rfl⟩
    intro group listed
    exact exists_groupFields (listening listed)
  · refine exists_ok_bind (exists_ok_bind ?_ fun views _ => ⟨_, rfl⟩) fun body _ => ⟨_, rfl⟩
    refine exists_ok_bind (exists_ok_mapM ?_) fun groups _ => ⟨_, rfl⟩
    intro group listed
    exact exists_groupStatements (writable group listed)
  · unfold unbindMethod
    split
    · refine exists_ok_bind (exists_ok_bind (exists_ok_mapM ?_) fun detached _ => ⟨_, rfl⟩)
        fun body _ => ⟨_, rfl⟩
      intro group listed
      exact exists_ok_bind (exists_detachBlock (listening listed)) fun block _ => ⟨_, rfl⟩
    · exact ⟨_, rfl⟩

theorem parts_of_ofTarget {options : Options} {target : LinkedTarget} {code : CompanionCode}
    (made : CompanionCode.ofTarget options target = .ok code) :
    fieldCodes target.toTarget = .ok code.fields ∧ bindConstructor options target = .ok code.bind ∧
      unbindMethod target = .ok code.unbind := by
  obtain ⟨fields, fieldsMade, made⟩ := exists_ok_of_bind made
  obtain ⟨bind, bindMade, made⟩ := exists_ok_of_bind made
  obtain ⟨unbind, unbindMade, made⟩ := exists_ok_of_bind made
  cases made
  exact ⟨fieldsMade, bindMade, unbindMade⟩

end Generation
end Companion
