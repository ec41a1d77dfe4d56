import Companion.Proofs.Code.Teardown

/-!
# Running the teardown of an object

A companion may inherit its teardown, and one that it declares may call the one above.  An object
runs the teardown of the nearest class that declares one, seen from its own class upward; what a
class calls above itself is the nearest one that stands above that class.  The classes are told
apart by their distance from the class of the object, since private fields belong to a class.
-/

namespace Companion

/-- Whether the private field for the target holds it, for each class of an object. -/
abbrev Object := Nat → Bool

/-- What happens while a teardown runs. -/
inductive TeardownEvent where
  /-- The teardown that a class declares is called. -/
  | enter (distance : Nat)
  /-- One of its statements is done. -/
  | perform (distance : Nat) (statement : UnbindStatement)
  deriving DecidableEq

/-- The class whose teardown is called, when one is. -/
def TeardownEvent.entered? : TeardownEvent → Option Nat
  | .enter distance => some distance
  | .perform .. => none

/-- The state of an object and of the local variables of a method that runs on it. -/
structure Frame where
  /-- The object. -/
  object : Object
  /-- Whether the local variable for the target holds it, when there is one. -/
  copy : Option Bool

namespace Frame

/-- Whether the target is at hand in a method of a class; a local variable shadows the field. -/
def hasTarget (distance : Nat) (frame : Frame) : Bool := frame.copy.getD (frame.object distance)

/-- The state after a statement of a class, unless the statement fails for want of the target.  The
teardown above is not a part of it. -/
def perform (distance : Nat) (frame : Frame) : UnbindStatement → Option Frame
  | .copyTarget _ => some { frame with copy := some (frame.object distance) }
  | .forgetTarget shadowed =>
    if shadowed || frame.copy.isNone then
      some { frame with object := Function.update frame.object distance false }
    else some { frame with copy := some false }
  | .checkTarget | .clearField _ => if frame.hasTarget distance then some frame else none
  | .detach _ | .callSuper => some frame

end Frame

/-- What a method does to an object, unless it fails. -/
abbrev Effect := Object → Option (Object × List TeardownEvent)

/-- Run the statements of a class, given what the teardown above it does. -/
def runTeardown (above : Effect) (distance : Nat) :
    List UnbindStatement → Frame → Option (Object × List TeardownEvent)
  | [], frame => some (frame.object, [])
  | .callSuper :: rest, frame => do
    let (object, inner) ← above frame.object
    let (object, events) ← runTeardown above distance rest { frame with object }
    return (object, inner ++ events)
  | statement :: rest, frame => do
    let frame ← frame.perform distance statement
    let (object, events) ← runTeardown above distance rest frame
    return (object, .perform distance statement :: events)

/-- Call the teardown of an object of the first of some classes, each of which extends the next. -/
def dispatch (distance : Nat) : List CompanionCode → Effect
  | [] => fun _ => none
  | code :: above =>
    match code.unbind with
    | none => dispatch (distance + 1) above
    | some method => fun object => do
      let (object, events) ← runTeardown (dispatch (distance + 1) above) distance
        method.body.flatten ⟨object, none⟩
      return (object, .enter distance :: events)

/-- What the constructors of some classes leave: those keep the target that have a field for it. -/
def constructed (codes : List CompanionCode) : Object := fun distance =>
  (codes[distance]?).any fun code => code.bind.body.flatten.contains .keepTarget

/-- The statements of a teardown apart from the call of the one above. -/
def UnbindMethod.own (method : UnbindMethod) : List UnbindStatement :=
  method.body.flatten.filter (· ≠ .callSuper)

/-- The teardowns that some classes declare, one after the other. -/
def teardowns (distance : Nat) : List CompanionCode → List TeardownEvent
  | [] => []
  | code :: above =>
    (code.unbind.toList.flatMap fun method =>
      .enter distance :: method.own.map (.perform distance)) ++ teardowns (distance + 1) above

/-- Whether the fields of the classes that keep their target all hold it, or none of them does. -/
def Object.Keeps (object : Object) (held : Bool) : Nat → List LinkedTarget → Prop
  | _, [] => True
  | distance, set :: above =>
    (set.keepsTarget = true → object distance = held) ∧ object.Keeps held (distance + 1) above

/-- Whether a call runs all teardowns of some classes, one after the other, on any object that
holds their targets, and leaves it without them. -/
def PassesThrough (distance : Nat) (sets : List LinkedTarget) (codes : List CompanionCode) : Prop :=
  ∀ object : Object, object.Keeps true distance sets →
    ∃ after, dispatch distance codes object = some (after, teardowns distance codes) ∧
      (∀ other < distance, after other = object other) ∧ after.Keeps false distance sets

theorem runTeardown_append {above : Effect} {distance : Nat} {statements : List UnbindStatement}
    (plain : .callSuper ∉ statements) {frame after : Frame}
    (done : statements.foldlM (Frame.perform distance) frame = some after)
    (rest : List UnbindStatement) :
    runTeardown above distance (statements ++ rest) frame =
      (runTeardown above distance rest after).map fun outcome =>
        (outcome.1, statements.map (.perform distance) ++ outcome.2) := by
  induction statements generalizing frame with
  | nil =>
      cases done
      simp
  | cons statement statements ih =>
      rw [List.mem_cons, not_or] at plain
      rw [List.foldlM_cons] at done
      obtain ⟨next, performed, done⟩ := Option.bind_eq_some_iff.1 done
      have later := ih plain.2 done
      cases statement with
      | callSuper => exact absurd rfl plain.1
      | _ =>
          rw [List.cons_append, runTeardown, performed, Option.bind_eq_bind, Option.bind_some,
            later]
          · cases runTeardown above distance rest after <;> rfl
          · exact fun equal => by cases equal

theorem Object.Keeps.congr {object other : Object} {held : Bool} :
    ∀ {distance : Nat} {sets : List LinkedTarget}, object.Keeps held distance sets →
      (∀ place, distance ≤ place → other place = object place) → other.Keeps held distance sets
  | _, [], _, _ => trivial
  | distance, _ :: _, keeps, same =>
    ⟨fun kept => (same distance (Nat.le_refl _)).trans (keeps.1 kept),
      keeps.2.congr fun place above => same place (Nat.le_of_succ_le above)⟩

theorem entered_teardowns (codes : List CompanionCode) (distance : Nat) :
    (teardowns distance codes).filterMap TeardownEvent.entered? =
      ((codes.zipIdx distance).filter fun entry => entry.1.unbind.isSome).map Prod.snd := by
  induction codes generalizing distance with
  | nil => rfl
  | cons code above ih =>
      have performs (statements : List UnbindStatement) :
          (statements.map (TeardownEvent.perform distance)).filterMap TeardownEvent.entered? =
            [] := by
        simp [TeardownEvent.entered?, Function.comp_def]
      rw [teardowns, List.filterMap_append, ih, List.zipIdx_cons]
      cases unbind_eq : code.unbind with
      | none => simp [unbind_eq]
      | some method => simp [unbind_eq, performs, TeardownEvent.entered?]

namespace Generation

variable {target : LinkedTarget} {code : CompanionCode} {method : UnbindMethod} {options : Options}

theorem foldlM_perform_detach (distance : Nat) (blocks : List DetachBlock) (frame : Frame) :
    (blocks.map UnbindStatement.detach).foldlM (Frame.perform distance) frame = some frame := by
  induction blocks with
  | nil => rfl
  | cons block blocks ih =>
      rw [List.map_cons, List.foldlM_cons]
      exact ih

theorem foldlM_perform_clearField {distance : Nat} {frame : Frame}
    (atHand : frame.hasTarget distance = true) (names : List String) :
    (names.map UnbindStatement.clearField).foldlM (Frame.perform distance) frame = some frame := by
  induction names with
  | nil => rfl
  | cons name names ih =>
      rw [List.map_cons, List.foldlM_cons, Frame.perform, if_pos atHand]
      exact ih

/-- The statements of a teardown find the target when the object still holds it, and the teardown
above comes last. -/
theorem exists_own_of_unbindMethod (made : unbindMethod target = .ok (some method))
    {distance : Nat} {object : Object}
    (holds : target.keepsTarget = true → object distance = true) :
    .callSuper ∉ method.own ∧
    method.body.flatten =
      method.own ++ (if target.parent.isSome then [.callSuper] else []) ∧
    ∃ after, method.own.foldlM (Frame.perform distance) ⟨object, none⟩ = some after ∧
      (∀ other, other ≠ distance → after.object other = object other) ∧
      (target.keepsTarget = true → after.object distance = false) := by
  obtain ⟨blocks, -, body_eq⟩ := flatten_of_unbindMethod made
  have own_eq : method.own = (if target.keepsTarget then forgetParagraph target.toTarget else []) ++
      target.viewMembers.map .clearField ++ blocks.map .detach := by
    rw [UnbindMethod.own, body_eq, forgetParagraph]
    cases target.keepsTarget <;> cases target.bindsFields <;> cases target.parent <;>
      simp [List.filter_map, Function.comp_def]
  refine ⟨by simp [UnbindMethod.own], by rw [own_eq, body_eq], ?_⟩
  simp only [own_eq, List.foldlM_append, forgetParagraph]
  cases keeps : target.keepsTarget with
  | false =>
      have noMembers := viewMembers_of_not_bindsFields (Bool.or_eq_false_iff.1 keeps).1
      refine ⟨⟨object, none⟩, ?_, fun _ _ => rfl, fun kept => by cases kept⟩
      rw [noMembers]
      exact foldlM_perform_detach distance blocks _
  | true =>
      have held := holds keeps
      -- a copy is made exactly when there are members to clear
      cases binds : target.bindsFields with
      | true =>
          refine ⟨⟨Function.update object distance false, some true⟩, ?_, fun other apart =>
            Function.update_of_ne apart _ _, fun _ => Function.update_self ..⟩
          simp [Frame.perform, Frame.hasTarget, held, foldlM_perform_clearField,
            foldlM_perform_detach]
      | false =>
          have noMembers := viewMembers_of_not_bindsFields binds
          refine ⟨⟨Function.update object distance false, none⟩, ?_, fun other apart =>
            Function.update_of_ne apart _ _, fun _ => Function.update_self ..⟩
          simp [Frame.perform, Frame.hasTarget, held, noMembers, foldlM_perform_detach]

/-- A teardown does its own statements and then, above another companion, runs the one there. -/
theorem exists_runTeardown_of_unbindMethod (made : unbindMethod target = .ok (some method))
    {distance : Nat} {object : Object}
    (holds : target.keepsTarget = true → object distance = true) :
    ∃ middle : Object, (∀ other, other ≠ distance → middle other = object other) ∧
      (target.keepsTarget = true → middle distance = false) ∧
      ∀ above : Effect, runTeardown above distance method.body.flatten ⟨object, none⟩ =
        (if target.parent.isSome then above middle else some (middle, [])).map fun outcome =>
          (outcome.1, method.own.map (.perform distance) ++ outcome.2) := by
  obtain ⟨plain, body_eq, after, done, others, forgets⟩ := exists_own_of_unbindMethod made holds
  refine ⟨after.object, others, forgets, fun above => ?_⟩
  rw [body_eq, runTeardown_append plain done]
  cases target.parent with
  | none => rfl
  | some parent => cases called : above after.object <;> simp [runTeardown, called]

theorem passesThrough_top (made : CompanionCode.ofTarget options target = .ok code)
    (parent_eq : target.parent = none) (distance : Nat) :
    PassesThrough distance [target] [code] := by
  intro object keeps
  have unbindMade := (parts_of_ofTarget made).2.2
  obtain ⟨method, method_eq⟩ := Option.isSome_iff_exists.1
    ((declares_of_unbindMethod unbindMade).2 (.inr parent_eq))
  rw [method_eq] at unbindMade
  obtain ⟨after, others, forgets, runs⟩ := exists_runTeardown_of_unbindMethod unbindMade keeps.1
  refine ⟨after, ?_, fun other below => others other (Nat.ne_of_lt below), forgets, trivial⟩
  simp [dispatch, method_eq, teardowns, runs, parent_eq]

theorem passesThrough_cons (made : CompanionCode.ofTarget options target = .ok code)
    {parent : ParentLink} (parent_eq : target.parent = some parent) {distance : Nat}
    {sets : List LinkedTarget} {codes : List CompanionCode}
    (above : PassesThrough (distance + 1) sets codes) :
    PassesThrough distance (target :: sets) (code :: codes) := by
  intro object keeps
  have unbindMade := (parts_of_ofTarget made).2.2
  cases method_eq : code.unbind with
  | none =>
      -- the class inherits its teardown and has no target to forget
      rw [method_eq] at unbindMade
      have keepsNone := (nothing_of_inherited unbindMade).1
      obtain ⟨after, runs, others, forgets⟩ := above object keeps.2
      refine ⟨after, ?_, fun other below => others other (Nat.lt_succ_of_lt below),
        fun kept => ?_, forgets⟩
      · simp [dispatch, method_eq, teardowns, runs]
      · rw [keepsNone] at kept
        cases kept
  | some method =>
      rw [method_eq] at unbindMade
      obtain ⟨middle, middleOthers, middleForgets, runs⟩ :=
        exists_runTeardown_of_unbindMethod unbindMade keeps.1
      obtain ⟨after, aboveRuns, others, forgets⟩ := above middle
        (keeps.2.congr fun place above => middleOthers place (by omega))
      refine ⟨after, ?_, fun other below => ?_, fun kept => ?_, forgets⟩
      · simp [dispatch, method_eq, teardowns, runs, parent_eq, aboveRuns]
      · rw [others other (Nat.lt_succ_of_lt below), middleOthers other (Nat.ne_of_lt below)]
      · rw [others distance (Nat.lt_succ_self distance)]
        exact middleForgets kept

theorem contains_keepTarget_of_bindConstructor {bind : BindConstructor}
    (made : bindConstructor options target = .ok bind) (keeps : target.keepsTarget = true) :
    bind.body.flatten.contains .keepTarget = true := by
  obtain ⟨groups, -, body_eq⟩ := flatten_of_bindConstructor made
  rw [body_eq, List.contains_iff_mem]
  simp [keeps]

theorem keeps_constructed {sets : List LinkedTarget} {codes : List CompanionCode}
    (made : List.Forall₂ (fun set code => CompanionCode.ofTarget options set = .ok code)
      sets codes) : (constructed codes).Keeps true 0 sets := by
  suffices ∀ (below : List CompanionCode),
      (constructed (below ++ codes)).Keeps true below.length sets from this []
  induction made with
  | nil => exact fun _ => trivial
  | @cons set code _ codes codeMade _ ih =>
      refine fun below => ⟨fun kept => ?_, ?_⟩
      · have bindMade := (parts_of_ofTarget codeMade).2.1
        rw [constructed, List.getElem?_append_right (Nat.le_refl _), Nat.sub_self,
          List.getElem?_cons_zero, Option.any_some]
        exact contains_keepTarget_of_bindConstructor bindMade kept
      · simpa using ih (below ++ [code])

end Generation
end Companion
