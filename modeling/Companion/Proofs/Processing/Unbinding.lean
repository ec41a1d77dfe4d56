import Companion.Proofs.Code.Dispatch
import Companion.Proofs.Processing.Companions
import Companion.Proofs.Processing.SuperCall

/-!
# Unbinding through a chain of companions

A companion declares a teardown when its target binds views or when it extends no other, and calls
the one above when it extends another.  So a call runs along the chain up to its top, whatever the
classes between have bound.
-/

namespace Companion

open Linking Generation

/-- Whether linked targets stand above one another, each the parent of the one before it, up to one
without a parent. -/
inductive Ascends (linked : LinkedTargets) : List LinkedTarget → Prop where
  | top {set : LinkedTarget} (parent_eq : set.parent = none) : Ascends linked [set]
  | step {set above : LinkedTarget} {rest : List LinkedTarget} {parent : String}
      {companion : ClassName} {needsView : Bool}
      (parent_eq : set.parent = some (.round parent companion needsView))
      (found : linked.get? parent = some above) (ascends : Ascends linked (above :: rest)) :
      Ascends linked (set :: above :: rest)

namespace Ascends

variable {linked : LinkedTargets} {sets : List LinkedTarget} {codes : List CompanionCode}
  {options : Options}

theorem passesThrough (ascends : Ascends linked sets)
    (made : List.Forall₂ (fun set code => CompanionCode.ofTarget options set = .ok code)
      sets codes) (distance : Nat) : PassesThrough distance sets codes := by
  induction ascends generalizing codes distance with
  | top parent_eq =>
      cases made with
      | cons codeMade laterMade =>
          cases laterMade
          exact passesThrough_top codeMade parent_eq distance
  | step parent_eq _ _ ih =>
      cases made with
      | cons codeMade laterMade =>
          exact passesThrough_cons codeMade parent_eq (ih laterMade (distance + 1))

theorem isChain {world : Universe} {kinds : List ListenerKind} {collected : Collected}
    (link_eq : link world kinds collected = .ok linked) {name : String}
    {set : LinkedTarget} {above : List LinkedTarget} (found : linked.get? name = some set)
    (ascends : Ascends linked (set :: above))
    (made : List.Forall₂ (fun set code => CompanionCode.ofTarget options set = .ok code)
      (set :: above) codes) :
    codes.IsChain (fun code parentCode => code.parent = some parentCode.name) ∧
      ∀ code ∈ codes.getLast?, code.parent = none := by
  generalize sets_eq : set :: above = sets at ascends made
  induction ascends generalizing name set above codes with
  | top parent_eq =>
      cases sets_eq
      cases made with
      | @cons _ code _ _ codeMade laterMade =>
          cases laterMade
          refine ⟨.singleton _, ?_⟩
          intro last last_eq
          cases last_eq
          rw [List.getLast_singleton, (bindConstructor_of_ofTarget codeMade).2.1, parent_eq]
          rfl
  | step parent_eq parentFound _ ih =>
      cases sets_eq
      cases made with
      | cons codeMade laterMade =>
          obtain ⟨chain, last⟩ := ih parentFound rfl laterMade
          cases laterMade with
          | cons nextMade _ =>
              obtain ⟨parentSet, present, linked_eq⟩ :=
                Processing.exists_asParent_of_link link_eq found parent_eq
              rw [parentFound] at present
              cases present
              refine ⟨.cons_cons (extends_of_ofTarget linked_eq codeMade nextMade).parent chain, ?_⟩
              simpa using last

theorem exists_made {environment : Environment} {name : String} {set : LinkedTarget}
    {above : List LinkedTarget}
    (found : (Processing.collect environment ListenerKind.standard).targets.get? name = some set)
    (ascends : Ascends (Processing.collect environment ListenerKind.standard).targets
      (set :: above)) (options : Options) :
    ∃ codes, List.Forall₂ (fun set code => CompanionCode.ofTarget options set = .ok code)
      (set :: above) codes := by
  generalize sets_eq : set :: above = sets at ascends
  induction ascends generalizing name set above with
  | top _ =>
      cases sets_eq
      obtain ⟨code, codeMade⟩ := Processing.exists_made_of_collect found options
      exact ⟨[code], .cons codeMade .nil⟩
  | step _ parentFound _ ih =>
      cases sets_eq
      obtain ⟨code, codeMade⟩ := Processing.exists_made_of_collect found options
      obtain ⟨codes, made⟩ := ih parentFound rfl
      exact ⟨code :: codes, .cons codeMade made⟩

end Ascends

theorem declares_of_made {options : Options} {sets : List LinkedTarget}
    {codes : List CompanionCode}
    (made : List.Forall₂ (fun set code => CompanionCode.ofTarget options set = .ok code)
      sets codes) (distance : Nat) :
    ((codes.zipIdx distance).filter fun entry => entry.1.unbind.isSome).map Prod.snd =
      ((sets.zipIdx distance).filter fun entry =>
        entry.1.bindsViews || entry.1.parent.isNone).map Prod.snd := by
  induction made generalizing distance with
  | nil => rfl
  | @cons set code _ _ codeMade _ ih =>
      have declares : code.unbind.isSome = (set.bindsViews || set.parent.isNone) := by
        rw [Bool.eq_iff_iff, declares_of_unbindMethod (parts_of_ofTarget codeMade).2.2]
        simp
      simp only [List.zipIdx_cons, List.filter_cons, declares]
      split <;> simp [ih]

/-- The companions of a chain extend one another.  A call on a constructed object of the first one
enters the teardown of each class that binds views and of the top, in their order and once each. It
does all their statements and forgets all targets. -/
theorem exists_dispatch_of_link {world : Universe} {kinds : List ListenerKind}
    {collected : Collected} {linked : LinkedTargets}
    (link_eq : link world kinds collected = .ok linked) {name : String} {set : LinkedTarget}
    {above : List LinkedTarget} (found : linked.get? name = some set)
    (ascends : Ascends linked (set :: above)) {options : Options} {codes : List CompanionCode}
    (made : List.Forall₂ (fun set code => CompanionCode.ofTarget options set = .ok code)
      (set :: above) codes) :
    codes.IsChain (fun code parentCode => code.parent = some parentCode.name) ∧
      (∀ code ∈ codes.getLast?, code.parent = none) ∧
      ∃ after, dispatch 0 codes (constructed codes) = some (after, teardowns 0 codes) ∧
        (teardowns 0 codes).filterMap TeardownEvent.entered? =
          ((set :: above).zipIdx.filter fun entry =>
            entry.1.bindsViews || entry.1.parent.isNone).map Prod.snd ∧
        after.Keeps false 0 (set :: above) := by
  obtain ⟨chain, last⟩ := ascends.isChain link_eq found made
  obtain ⟨after, runs, -, forgets⟩ :=
    ascends.passesThrough made 0 (constructed codes) (keeps_constructed made)
  exact ⟨chain, last, after, runs, (entered_teardowns codes 0).trans (declares_of_made made 0),
    forgets⟩

namespace Processing

/-- A class with a method for long clicks, over one with a text in the sources, over another such
one. -/
def layeredRound : Environment :=
  let text (name : String) := (TypeDecl.ofName .classType name).withMember
    ((Member.field "title" (.named "java.lang.String")).annotated
      ⟨"BindString", .ofList [("value", .id (.literal 1))]⟩)
  let host := ((TypeDecl.ofName .classType "a.Host").withMember
    (Collection.longClicked "hold" [2])).extending (.named "a.Middle")
  ⟨((Universe.empty.put host).put ((text "a.Middle").extending (.named "a.Base"))).put
    (text "a.Base"), .empty, .empty⟩

theorem exists_dispatch_layeredRound : ∃ host middle base codes after,
    (collect layeredRound ListenerKind.standard).targets.get? "a.Host" = some host ∧
    Ascends (collect layeredRound ListenerKind.standard).targets [host, middle, base] ∧
    List.Forall₂ (fun set code => CompanionCode.ofTarget .default set = .ok code)
      [host, middle, base] codes ∧
    dispatch 0 codes (constructed codes) = some (after, teardowns 0 codes) ∧
    (teardowns 0 codes).filterMap TeardownEvent.entered? = [0, 2] := by
  have acyclic : layeredRound.world.IsAcyclic := by decide +kernel
  have areLinked := areLinked_of_isAcyclic acyclic ListenerKind.standard
  obtain ⟨host, found⟩ := @exists_linked_of_collect layeredRound ListenerKind.standard acyclic
    "a.Host" (by decide +kernel)
  obtain ⟨middle, middleFound, hostParent⟩ := @exists_parent_of_collect _ _ acyclic _ "a.Middle" _
    found (by decide +kernel) (by decide +kernel)
  obtain ⟨base, baseFound, middleParent⟩ := @exists_parent_of_collect _ _ acyclic _ "a.Base" _
    middleFound (by decide +kernel) (by decide +kernel)
  have baseParent := areLinked.top _ _ baseFound (by decide +kernel)
  have ascends : Ascends _ [host, middle, base] :=
    .step hostParent middleFound (.step middleParent baseFound (.top baseParent))
  obtain ⟨codes, made⟩ := ascends.exists_made found .default
  obtain ⟨-, -, after, runs, entered, -⟩ :=
    exists_dispatch_of_link (link_of_collect found) found ascends made
  have hostBinds : host.bindsViews = true := value_of_collect _ found (by decide +kernel)
  have middleBinds : middle.bindsViews = false := value_of_collect _ middleFound (by decide +kernel)
  refine ⟨host, middle, base, codes, after, found, ascends, made, runs, entered.trans ?_⟩
  simp [List.zipIdx_cons, hostBinds, middleBinds, middleParent, baseParent]

end Processing
end Companion
