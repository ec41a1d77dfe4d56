import Companion.Code.Printer
import Companion.Proofs.Code.Blocks
import Companion.Proofs.Code.Constructors
import Companion.Proofs.Code.FieldNames
import Companion.Proofs.Code.Lookups

/-!
# What a companion sets up and takes back

The constructor that binds assigns private fields of the companion and members of the target, and
the teardown clears them.  Names, guards and casts are worked out anew for each of the two, and for
the declarations of the fields.
-/

namespace Companion

/-- What is assigned and cleared: a private field of the companion, or a member of the target. -/
inductive Place where
  | own (field : String)
  | member (name : String)
  deriving DecidableEq

namespace Place

/-- The private field that a place is. -/
def own? : Place → Option String
  | .own field => some field
  | .member _ => none

/-- The member that a place is. -/
def member? : Place → Option String
  | .own _ => none
  | .member name => some name

theorem count_own (places : List Place) (field : String) :
    places.count (.own field) = (places.filterMap own?).count field := by
  induction places with
  | nil => rfl
  | cons place rest ih => cases place <;> simp [List.count_cons, List.filterMap_cons, own?, ih]

theorem count_member (places : List Place) (name : String) :
    places.count (.member name) = (places.filterMap member?).count name := by
  induction places with
  | nil => rfl
  | cons place rest ih => cases place <;> simp [List.count_cons, List.filterMap_cons, member?, ih]

end Place

/-- The private fields that a block of listeners assigns. -/
def AttachBlock.assigned (block : AttachBlock) : List Place :=
  .own block.slot :: (block.attachments.filterMap Attachment.keptIn).map .own

/-- What a statement of the constructor assigns. -/
def BindStatement.assigned : BindStatement → List Place
  | .keepTarget => [.own "target"]
  | .group _ (.assign field _) => [.member field]
  | .group _ (.attach block) => block.assigned
  | .assignCollection field _ _ | .assignResource field _ => [.member field]
  | .group _ (.find _) | .callSuper _ | .declareView | .declareContext | .declareResources => []

/-- What a constructor assigns, in order. -/
def BindConstructor.assigned (bind : BindConstructor) : List Place :=
  bind.body.flatten.flatMap BindStatement.assigned

/-- A step that detaches the listeners of a view. -/
inductive DetachStep where
  | detach (detachment : Detachment)
  /-- Set a private field to nothing. -/
  | clear (field : String)
  deriving DecidableEq

namespace DetachStep

/-- The listener that a step detaches. -/
def detached? : DetachStep → Option Detachment
  | .detach detachment => some detachment
  | .clear _ => none

/-- The private field that a step clears. -/
def cleared? : DetachStep → Option String
  | .detach _ => none
  | .clear field => some field

/-- Print a step for the view in a slot. -/
def print (spell : Spelling) (slot : String) (source : SourceText) : DetachStep → SourceText
  | .detach detachment =>
    let receiver := receiverText spell detachment.receiver slot
    match detachment.keptIn with
    | some field => source.statement s!"{receiver}.{detachment.method}({field})"
    | none => source.statement s!"{receiver}.{detachment.method}(null)"
  | .clear field => source.statement s!"{field} = null"

end DetachStep

namespace DetachBlock

/-- What is done before the slot is cleared. -/
def stepsBefore (block : DetachBlock) : List DetachStep :=
  block.detachments.flatMap fun detachment =>
    .detach detachment :: detachment.keptIn.toList.map .clear

/-- The steps of a block: the listeners are detached, and then the slot is cleared. -/
def steps (block : DetachBlock) : List DetachStep := block.stepsBefore ++ [.clear block.slot]

theorem printDetachment_eq (spell : Spelling) (slot : String) (source : SourceText)
    (detachment : Detachment) :
    printDetachment spell slot source detachment =
      (DetachStep.detach detachment :: detachment.keptIn.toList.map .clear).foldl
        (DetachStep.print spell slot) source := by
  obtain ⟨receiver, method, keptIn⟩ := detachment
  cases keptIn <;>
    simp only [printDetachment, DetachStep.print, Option.toList_none, Option.toList_some,
      List.map_cons, List.map_nil, List.foldl_cons, List.foldl_nil]

/-- The text of a block is that of its steps. -/
theorem print_eq (spell : Spelling) (source : SourceText) (block : DetachBlock) :
    block.print spell source = source.guarded block.guarded block.slot fun source =>
      source.each (DetachStep.print spell block.slot) block.steps := by
  unfold print
  congr 1
  funext source
  unfold SourceText.each steps stepsBefore
  rw [List.foldl_append, List.foldl_flatMap, funext fun source => funext fun detachment =>
    printDetachment_eq spell block.slot source detachment]
  rfl

end DetachBlock

namespace UnbindMethod

/-- What statements clear, when the target was copied to a local variable before them or not.  Such
a copy shadows the field of the companion, and only through it the target is still at hand when the
field is cleared. -/
def clearedFrom (copied : Bool) : List UnbindStatement → List Place
  | [] => []
  | .copyTarget _ :: rest => clearedFrom true rest
  | .forgetTarget shadowed :: rest =>
    (if shadowed || !copied then [.own "target"] else []) ++ clearedFrom copied rest
  | .clearField field :: rest =>
    (if copied then [.member field] else []) ++ clearedFrom copied rest
  | .detach block :: rest =>
    (block.steps.filterMap DetachStep.cleared?).map .own ++ clearedFrom copied rest
  | .checkTarget :: rest | .callSuper :: rest => clearedFrom copied rest

/-- What a teardown clears, in order. -/
def cleared (method : UnbindMethod) : List Place := clearedFrom false method.body.flatten

end UnbindMethod

/-- The block of listeners that a statement detaches. -/
def UnbindStatement.detach? : UnbindStatement → Option DetachBlock
  | .detach block => some block
  | _ => none

namespace CompanionCode

/-- What the teardown of a companion itself clears. -/
def cleared (code : CompanionCode) : List Place :=
  (code.unbind.map UnbindMethod.cleared).getD []

/-- The blocks of listeners that it detaches, in order. -/
def detachBlocks (code : CompanionCode) : List DetachBlock :=
  (code.unbind.map fun method => method.body.flatten.filterMap UnbindStatement.detach?).getD []

end CompanionCode

/-- Whether a listener is attached through the setter of its kind, and detached through the remover
with the listener that was kept, or through the setter without one. -/
structure ListenerBinding.IsTakenBack (listener : ListenerBinding) (attachment : Attachment)
    (detachment : Detachment) : Prop where
  /-- It is attached through the setter. -/
  setter : attachment.setter = listener.kind.setter
  /-- The view is cast to the same type for both. -/
  receiver : detachment.receiver = attachment.receiver
  /-- Both refer to the same private field, or to none. -/
  kept : detachment.keptIn = attachment.keptIn
  /-- A remover is given the listener in that field. -/
  remover : ∀ remover, listener.kind.remover = some remover →
    detachment.method = remover ∧ detachment.keptIn.isSome = true
  /-- Without a remover the setter is given nothing. -/
  noRemover : listener.kind.remover = none →
    detachment.method = listener.kind.setter ∧ detachment.keptIn = none

/-- Whether the listeners of a group are attached and detached one by one. -/
structure ViewGroup.IsTakenBack (group : ViewGroup) (attach : AttachBlock) (detach : DetachBlock) :
    Prop where
  /-- The view is kept in the same slot. -/
  slot : detach.slot = attach.slot
  /-- Either both are guarded or neither is. -/
  guarded : detach.guarded = attach.guarded
  /-- They are when nothing requires the view. -/
  optional : attach.guarded = true ↔ ∀ member ∈ group.members, member.required = false
  /-- Each listener is attached once and detached once. -/
  listeners : ∃ pairs : List (Attachment × Detachment),
    attach.attachments = pairs.map Prod.fst ∧ detach.detachments = pairs.map Prod.snd ∧
    List.Forall₂ (fun listener pair => listener.IsTakenBack pair.1 pair.2) group.listeners pairs
  /-- They are detached before the slot is cleared. -/
  order : ∃ before, detach.steps = before ++ [.clear detach.slot] ∧
    before.filterMap DetachStep.detached? = detach.detachments ∧
    detach.slot ∉ before.filterMap DetachStep.cleared?

/-- The members that a target binds views to, once for each binding. -/
def Target.viewMembers (target : Target) : List String :=
  (target.groups.filterMap ViewGroup.field).map FieldBinding.name ++
    target.collections.map CollectionBinding.name

/-- Whether a companion takes back in its teardown what its constructor sets up. -/
structure CompanionCode.TakesBack (target : Target) (code : CompanionCode) : Prop where
  /-- Each private field is assigned once and cleared once. -/
  own : ∀ field ∈ code.fields, code.bind.assigned.count (.own field.name) = 1 ∧
    code.cleared.count (.own field.name) = 1
  /-- Each member is assigned once for each binding, and cleared once for each binding of views. -/
  member : ∀ name, code.bind.assigned.count (.member name) =
      target.viewMembers.count name + (target.resources.map ResourceBinding.name).count name ∧
    code.cleared.count (.member name) = target.viewMembers.count name
  /-- The listeners of each group are attached in one block and detached in one. -/
  listeners : ∃ pairs : List (AttachBlock × DetachBlock),
    code.bind.attachBlocks = pairs.map Prod.fst ∧ code.detachBlocks = pairs.map Prod.snd ∧
    List.Forall₂ (fun group pair => group.IsTakenBack pair.1 pair.2)
      (Generation.listenerGroups target) pairs
  /-- A companion that inherits its teardown has no private field. -/
  inherited : code.unbind = none → code.fields = []

namespace Generation

variable {debuggable : Bool} {group : ViewGroup}

theorem keptIn_of_attachment {slot : String} {listener : ListenerBinding} {code : Attachment}
    (made : attachment debuggable slot listener = .ok code) :
    code.keptIn = (keptName? listener.kind).map (slot ++ ·) := by
  obtain ⟨type, typed, made⟩ := exists_ok_of_bind made
  obtain ⟨receiver, -, made⟩ := exists_ok_of_bind made
  obtain ⟨callbacks, -, made⟩ := exists_ok_of_bind made
  cases made
  unfold keptName?
  cases listener.kind.remover <;> simp [typed, Except.toOption, listenerField]

theorem keptIn_of_detachment {slot : String} {listener : ListenerBinding} {code : Detachment}
    (made : detachment slot listener = .ok code) :
    code.keptIn = (keptName? listener.kind).map (slot ++ ·) := by
  obtain ⟨receiver, -, made⟩ := exists_ok_of_bind made
  obtain ⟨type, typed, made⟩ := exists_ok_of_bind made
  cases made
  unfold keptName?
  cases listener.kind.remover <;> simp [typed, Except.toOption, listenerField]

theorem isTakenBack_of_attachment {slot : String} {listener : ListenerBinding}
    {attach : Attachment} {detach : Detachment}
    (attachMade : attachment debuggable slot listener = .ok attach)
    (detachMade : detachment slot listener = .ok detach) : listener.IsTakenBack attach detach := by
  have kept : detach.keptIn = attach.keptIn :=
    (keptIn_of_detachment detachMade).trans (keptIn_of_attachment attachMade).symm
  obtain ⟨type, -, attachMade⟩ := exists_ok_of_bind attachMade
  obtain ⟨receiver, cast, attachMade⟩ := exists_ok_of_bind attachMade
  obtain ⟨callbacks, -, attachMade⟩ := exists_ok_of_bind attachMade
  obtain ⟨otherReceiver, otherCast, detachMade⟩ := exists_ok_of_bind detachMade
  obtain ⟨otherType, -, detachMade⟩ := exists_ok_of_bind detachMade
  cases attachMade
  cases detachMade
  refine ⟨rfl, Except.ok.inj (otherCast.symm.trans cast), kept, ?_, ?_⟩
  · intro remover has
    exact ⟨by rw [ListenerKind.detacher, has, Option.getD_some], by simp [has]⟩
  · intro hasNone
    exact ⟨by rw [ListenerKind.detacher, hasNone, Option.getD_none], by simp [hasNone]⟩

theorem isOptional_iff (group : ViewGroup) :
    group.isOptional = true ↔ ∀ member ∈ group.members, member.required = false := by
  rw [ViewGroup.isOptional, ViewGroup.requiredDescriptions_eq, decide_eq_true_iff]
  simp [ViewGroup.requirements]

theorem detached_of_stepsBefore (block : DetachBlock) :
    block.stepsBefore.filterMap DetachStep.detached? = block.detachments ∧
      block.stepsBefore.filterMap DetachStep.cleared? =
        block.detachments.filterMap Detachment.keptIn := by
  obtain ⟨slot, guarded, detachments⟩ := block
  unfold DetachBlock.stepsBefore
  induction detachments with
  | nil => exact ⟨rfl, rfl⟩
  | cons detachment rest ih =>
      obtain ⟨detached, cleared⟩ := ih
      dsimp only at detached cleared ⊢
      rw [List.flatMap_cons, List.filterMap_append, List.filterMap_append, detached, cleared]
      cases kept : detachment.keptIn <;>
        simp [DetachStep.detached?, DetachStep.cleared?, kept, List.filterMap_cons]

theorem isTakenBack_of_attachBlock {attach : AttachBlock} {detach : DetachBlock}
    (nodup : (groupFieldNames group).Nodup)
    (attachMade : attachBlock debuggable group = .ok attach)
    (detachMade : detachBlock group = .ok detach) : group.IsTakenBack attach detach := by
  obtain ⟨attachments, attachmentsMade, attachMade⟩ := exists_ok_of_bind attachMade
  obtain ⟨detachments, detachmentsMade, detachMade⟩ := exists_ok_of_bind detachMade
  cases attachMade
  cases detachMade
  obtain ⟨pairs, rfl, rfl, each⟩ := exists_pairs_of_forall₂ (forall₂_of_mapM attachmentsMade)
    (forall₂_of_mapM detachmentsMade)
  have taken := each.imp fun _ _ made => isTakenBack_of_attachment made.1 made.2
  have kept := kept_of_forall₂ ((forall₂_of_mapM detachmentsMade).imp
    fun _ _ made => keptIn_of_detachment made)
  refine ⟨rfl, rfl, isOptional_iff group, ⟨pairs, rfl, rfl, taken⟩, ?_⟩
  refine ⟨_, rfl, (detached_of_stepsBefore _).1, ?_⟩
  rw [(detached_of_stepsBefore _).2, kept]
  exact (List.nodup_cons.1 nodup).1

theorem assigned_of_attachBlock {block : AttachBlock}
    (made : attachBlock debuggable group = .ok block) :
    block.assigned = (groupFieldNames group).map .own := by
  obtain ⟨attachments, attachmentsMade, made⟩ := exists_ok_of_bind made
  cases made
  have kept := kept_of_forall₂ ((forall₂_of_mapM attachmentsMade).imp
    fun _ _ made => keptIn_of_attachment made)
  rw [AttachBlock.assigned, kept, groupFieldNames, List.map_cons]

theorem assigned_of_attachBlocks {groups : List ViewGroup} {blocks : List AttachBlock}
    (made : List.Forall₂ (fun group block => attachBlock debuggable group = .ok block) groups
      blocks) :
    blocks.flatMap AttachBlock.assigned = groups.flatMap fun group =>
      (groupFieldNames group).map .own := by
  induction made with
  | nil => rfl
  | cons blockMade _ ih =>
      rw [List.flatMap_cons, List.flatMap_cons, assigned_of_attachBlock blockMade, ih]

theorem assigned_of_groupStatements {statements : List BindStatement}
    (made : groupStatements debuggable group = .ok statements) :
    statements.flatMap BindStatement.assigned =
      (group.field.toList.map fun field => .member field.name) ++
        ([group].filter fun group => group.listeners ≠ []).flatMap fun group =>
          (groupFieldNames group).map .own := by
  obtain ⟨steps, stepsMade, made⟩ := exists_ok_of_bind made
  cases made
  obtain ⟨find, assign, attach, rfl, fields, attached⟩ := steps_of_groupSteps stepsMade
  have members : (assign.map Prod.fst).map Place.member =
      group.field.toList.map fun field => Place.member field.name := by
    rw [fields, List.map_map]
    rfl
  rw [← assigned_of_attachBlocks attached, ← members]
  simp only [List.map_append, List.map_map, List.flatMap_append, List.flatMap_map]
  have found : find.flatMap (fun lookup => BindStatement.assigned
      ((BindStatement.group group.id ∘ GroupStep.find) lookup)) = [] :=
    List.flatMap_eq_nil_iff.2 fun _ _ => rfl
  rw [found, List.nil_append, List.map_eq_flatMap]
  rfl

theorem own_assigned_of_groups {groups : List ViewGroup} {statements : List (List BindStatement)}
    (made : List.Forall₂ (fun group statements => groupStatements debuggable group = .ok statements)
      groups statements) :
    (statements.flatten.flatMap BindStatement.assigned).filterMap Place.own? =
        (groups.filter fun group => group.listeners ≠ []).flatMap groupFieldNames ∧
      (statements.flatten.flatMap BindStatement.assigned).filterMap Place.member? =
        (groups.filterMap ViewGroup.field).map FieldBinding.name := by
  induction made with
  | nil => exact ⟨rfl, rfl⟩
  | @cons group _ groups _ groupMade _ ih =>
      rw [List.flatten_cons, List.flatMap_append, List.filterMap_append, List.filterMap_append,
        ih.1, ih.2, assigned_of_groupStatements groupMade]
      cases bound : group.field <;> cases listening : group.listeners <;>
        simp [bound, listening, List.filterMap_map, Function.comp_def, Place.own?, Place.member?,
          List.filterMap_cons]

theorem assigned_of_bindConstructor {options : Options} {target : LinkedTarget}
    {bind : BindConstructor} (made : bindConstructor options target = .ok bind) :
    bind.assigned.filterMap Place.own? = fieldNames target.toTarget ∧
      bind.assigned.filterMap Place.member? =
        target.viewMembers ++ target.resources.map ResourceBinding.name := by
  obtain ⟨groups, groupsMade, assigned_eq⟩ :=
    exists_flatMap_eq_of_bindConstructor made BindStatement.assigned (by
      simp [BindStatement.assigned])
  obtain ⟨own, members⟩ := own_assigned_of_groups groupsMade
  rw [BindConstructor.assigned, assigned_eq]
  simp only [List.filterMap_append, own, members]
  rw [fieldNames, listenerGroups, Target.viewMembers]
  cases target.parent <;> cases target.keepsTarget <;>
    simp [BindStatement.assigned, collectionStatement, resourceStatement, List.filterMap_flatMap,
      List.filterMap_cons, List.map_eq_flatMap, Place.own?, Place.member?]

/-! ## The teardown -/

theorem clearParagraph_eq (target : Target) :
    clearParagraph target = target.viewMembers.map .clearField := by
  simp [clearParagraph, Target.viewMembers, Function.comp_def]

theorem viewMembers_of_not_bindsFields {target : Target} (binds : target.bindsFields = false) :
    target.viewMembers = [] := by
  obtain ⟨noFields, noCollections⟩ : (∀ group ∈ target.groups, group.field = none) ∧
      target.collections = [] := by
    simpa [Target.bindsFields] using binds
  rw [Target.viewMembers, noCollections, List.filterMap_eq_nil_iff.2 noFields]
  rfl

theorem listenerGroups_of_not_bindsMethods {target : Target}
    (binds : target.bindsMethods = false) : listenerGroups target = [] := by
  refine List.filter_eq_nil_iff.2 fun group listed listening => ?_
  exact List.any_eq_false.1 binds group listed (by simpa using listening)

theorem exists_blocks_of_detached {groups : List ViewGroup} {statements : List UnbindStatement}
    (made : List.Forall₂ (fun group statement =>
      (do return .detach (← detachBlock group) : Generated UnbindStatement) = .ok statement)
      groups statements) :
    ∃ blocks, statements = blocks.map .detach ∧
      List.Forall₂ (fun group block => detachBlock group = .ok block) groups blocks := by
  induction made with
  | nil => exact ⟨[], rfl, .nil⟩
  | cons statementMade _ ih =>
      obtain ⟨block, blockMade, statementMade⟩ := exists_ok_of_bind statementMade
      obtain ⟨blocks, rfl, blocksMade⟩ := ih
      cases statementMade
      exact ⟨block :: blocks, rfl, .cons blockMade blocksMade⟩

/-- All statements of a teardown: the target is forgotten, the members are cleared, the listeners
are detached, and the teardown above follows. -/
theorem flatten_of_unbindMethod {target : LinkedTarget} {method : UnbindMethod}
    (made : unbindMethod target = .ok (some method)) :
    ∃ blocks, List.Forall₂ (fun group block => detachBlock group = .ok block)
        (listenerGroups target.toTarget) blocks ∧
      method.body.flatten =
        (if target.keepsTarget then forgetParagraph target.toTarget else []) ++
        target.viewMembers.map .clearField ++ blocks.map .detach ++
        if target.parent.isSome then [.callSuper] else [] := by
  unfold unbindMethod at made
  split at made
  · obtain ⟨body, bodyMade, made⟩ := exists_ok_of_bind made
    cases made
    obtain ⟨detached, detachedMade, bodyMade⟩ := exists_ok_of_bind bodyMade
    cases bodyMade
    obtain ⟨blocks, rfl, blocksMade⟩ := exists_blocks_of_detached (forall₂_of_mapM detachedMade)
    refine ⟨blocks, blocksMade, ?_⟩
    -- what stands under a condition is empty when the condition does not hold
    have noBlocks : target.bindsMethods = false → blocks = [] := by
      intro none
      rw [listenerGroups_of_not_bindsMethods none] at blocksMade
      cases blocksMade
      rfl
    have noMembers : target.keepsTarget = false → target.viewMembers = [] := by
      intro none
      exact viewMembers_of_not_bindsFields (Bool.or_eq_false_iff.1 none).1
    rw [clearParagraph_eq]
    cases keeps : target.keepsTarget <;> cases binds : target.bindsMethods <;>
      cases target.parent <;> simp [noBlocks, noMembers, keeps, binds]
  · cases made

theorem declares_of_unbindMethod {target : LinkedTarget} {unbind : Option UnbindMethod}
    (made : unbindMethod target = .ok unbind) :
    unbind.isSome = true ↔ target.bindsViews = true ∨ target.parent = none := by
  unfold unbindMethod at made
  split at made
  · rename_i declares
    obtain ⟨body, -, made⟩ := exists_ok_of_bind made
    cases made
    simpa using declares
  · rename_i inherits
    cases made
    simpa using inherits

theorem clearedFrom_clearField (copied : Bool) (names : List String)
    (rest : List UnbindStatement) :
    UnbindMethod.clearedFrom copied (names.map .clearField ++ rest) =
      (if copied then names.map .member else []) ++ UnbindMethod.clearedFrom copied rest := by
  induction names with
  | nil => cases copied <;> rfl
  | cons name names ih =>
      rw [List.map_cons, List.cons_append, UnbindMethod.clearedFrom, ih]
      cases copied <;> rfl

theorem clearedFrom_detach (copied : Bool) (blocks : List DetachBlock)
    (rest : List UnbindStatement) :
    UnbindMethod.clearedFrom copied (blocks.map .detach ++ rest) =
      (blocks.flatMap fun block => block.steps.filterMap DetachStep.cleared?).map .own ++
        UnbindMethod.clearedFrom copied rest := by
  induction blocks with
  | nil => rfl
  | cons block blocks ih =>
      rw [List.map_cons, List.cons_append, UnbindMethod.clearedFrom, ih, List.flatMap_cons,
        List.map_append, List.append_assoc]

theorem clearedFrom_callSuper (copied extended : Bool) :
    UnbindMethod.clearedFrom copied (if extended then [.callSuper] else []) = [] := by
  cases extended <;> rfl

/-- A block clears the fields of its group, in another order than that of their declarations. -/
theorem perm_cleared_of_detachBlock {block : DetachBlock} (made : detachBlock group = .ok block) :
    (block.steps.filterMap DetachStep.cleared?).Perm (groupFieldNames group) := by
  obtain ⟨detachments, detachmentsMade, made⟩ := exists_ok_of_bind made
  cases made
  have kept := kept_of_forall₂ ((forall₂_of_mapM detachmentsMade).imp
    fun _ _ made => keptIn_of_detachment made)
  rw [DetachBlock.steps, List.filterMap_append, (detached_of_stepsBefore _).2, kept]
  exact List.perm_append_singleton _ _

theorem perm_cleared_of_detachBlocks {groups : List ViewGroup} {blocks : List DetachBlock}
    (made : List.Forall₂ (fun group block => detachBlock group = .ok block) groups blocks) :
    (blocks.flatMap fun block => block.steps.filterMap DetachStep.cleared?).Perm
      (groups.flatMap groupFieldNames) := by
  induction made with
  | nil => exact .nil
  | cons blockMade _ ih =>
      rw [List.flatMap_cons, List.flatMap_cons]
      exact (perm_cleared_of_detachBlock blockMade).append ih

theorem cleared_of_unbindMethod {target : LinkedTarget} {method : UnbindMethod}
    (made : unbindMethod target = .ok (some method)) :
    (method.cleared.filterMap Place.own?).Perm (fieldNames target.toTarget) ∧
      method.cleared.filterMap Place.member? = target.viewMembers := by
  obtain ⟨blocks, blocksMade, body_eq⟩ := flatten_of_unbindMethod made
  have cleared_eq : method.cleared = (if target.keepsTarget then [.own "target"] else []) ++
      target.viewMembers.map .member ++
      (blocks.flatMap fun block => block.steps.filterMap DetachStep.cleared?).map .own := by
    have noMembers : target.bindsFields = false → target.viewMembers = [] :=
      viewMembers_of_not_bindsFields
    rw [UnbindMethod.cleared, body_eq]
    cases keeps : target.keepsTarget <;> cases binds : target.bindsFields
    · simp only [noMembers binds, clearedFrom_detach, clearedFrom_callSuper, List.map_nil,
        Bool.false_eq_true, if_false, List.nil_append, List.append_nil]
    · simp [Target.keepsTarget, binds] at keeps
    · simp [forgetParagraph, binds, noMembers binds, UnbindMethod.clearedFrom, clearedFrom_detach,
        clearedFrom_callSuper]
    · simp [forgetParagraph, binds, UnbindMethod.clearedFrom, clearedFrom_clearField,
        clearedFrom_detach, clearedFrom_callSuper]
  rw [cleared_eq]
  constructor
  · have perm := perm_cleared_of_detachBlocks blocksMade
    rw [fieldNames]
    cases target.keepsTarget <;>
      simpa [List.filterMap_map, Function.comp_def, Place.own?, List.filterMap_cons] using perm
  · cases target.keepsTarget <;>
      simp [List.filterMap_map, Function.comp_def, Place.member?, List.filterMap_cons]

variable {options : Options} {target : LinkedTarget} {code : CompanionCode}

/-- Without a teardown of its own, a companion has nothing to take back. -/
theorem nothing_of_inherited (made : unbindMethod target = .ok none) :
    target.keepsTarget = false ∧ target.viewMembers = [] ∧ listenerGroups target.toTarget = [] := by
  have bindsNone : target.bindsViews = false := by
    refine Bool.eq_false_iff.2 fun binds => ?_
    cases (declares_of_unbindMethod made).2 (.inl binds)
  obtain ⟨noGroups, noCollections⟩ : target.groups = [] ∧ target.collections = [] := by
    simpa [Target.bindsViews] using bindsNone
  refine ⟨?_, ?_, ?_⟩
  · simp [Target.keepsTarget, Target.bindsFields, Target.bindsMethods, noGroups, noCollections]
  · simp [Target.viewMembers, noGroups, noCollections]
  · simp [listenerGroups, noGroups]

theorem cleared_of_ofTarget (made : CompanionCode.ofTarget options target = .ok code) :
    (code.cleared.filterMap Place.own?).Perm (fieldNames target.toTarget) ∧
      code.cleared.filterMap Place.member? = target.viewMembers := by
  obtain ⟨-, -, unbindMade⟩ := parts_of_ofTarget made
  unfold CompanionCode.cleared
  cases unbind_eq : code.unbind with
  | some method => exact cleared_of_unbindMethod (unbind_eq ▸ unbindMade)
  | none =>
      rw [unbind_eq] at unbindMade
      obtain ⟨keepsNone, noMembers, noGroups⟩ := nothing_of_inherited unbindMade
      rw [noMembers, fieldNames, keepsNone, noGroups]
      exact ⟨.nil, rfl⟩

theorem detachBlocks_of_ofTarget (made : CompanionCode.ofTarget options target = .ok code) :
    List.Forall₂ (fun group block => detachBlock group = .ok block)
      (listenerGroups target.toTarget) code.detachBlocks := by
  obtain ⟨-, -, unbindMade⟩ := parts_of_ofTarget made
  unfold CompanionCode.detachBlocks
  cases unbind_eq : code.unbind with
  | some method =>
      obtain ⟨blocks, blocksMade, body_eq⟩ := flatten_of_unbindMethod (unbind_eq ▸ unbindMade)
      have forgets : (if target.keepsTarget then
          forgetParagraph target.toTarget else []).filterMap UnbindStatement.detach? = [] := by
        unfold forgetParagraph
        cases target.keepsTarget <;> cases target.bindsFields <;> rfl
      have detached : method.body.flatten.filterMap UnbindStatement.detach? = blocks := by
        rw [body_eq]
        simp only [List.filterMap_append, forgets]
        cases target.parent <;>
          simp [List.filterMap_map, Function.comp_def, UnbindStatement.detach?, List.filterMap_cons]
      rw [Option.map_some, Option.getD_some, detached]
      exact blocksMade
  | none =>
      rw [unbind_eq] at unbindMade
      rw [(nothing_of_inherited unbindMade).2.2]
      exact .nil

/-- A made companion takes back what it sets up, when the names of its fields differ. -/
theorem takesBack_of_ofTarget (made : CompanionCode.ofTarget options target = .ok code)
    (nodup : (fieldNames target.toTarget).Nodup) : code.TakesBack target.toTarget := by
  obtain ⟨fieldsMade, bindMade, unbindMade⟩ := parts_of_ofTarget made
  obtain ⟨ownAssigned, membersAssigned⟩ := assigned_of_bindConstructor bindMade
  obtain ⟨ownCleared, membersCleared⟩ := cleared_of_ofTarget made
  have names := names_of_fieldCodes fieldsMade
  refine ⟨?_, ?_, ?_, ?_⟩
  · intro field listed
    have once : (fieldNames target.toTarget).count field.name = 1 :=
      List.count_eq_one_of_mem nodup (names ▸ List.mem_map_of_mem listed)
    rw [Place.count_own, Place.count_own, ownAssigned, ownCleared.count_eq]
    exact ⟨once, once⟩
  · intro name
    rw [Place.count_member, Place.count_member, membersAssigned, membersCleared, List.count_append]
    exact ⟨rfl, rfl⟩
  · obtain ⟨pairs, attached, detached, each⟩ := exists_pairs_of_forall₂
      (attachBlocks_of_bindConstructor bindMade) (detachBlocks_of_ofTarget made)
    refine ⟨pairs, attached, detached, ?_⟩
    have apart : ∀ group ∈ listenerGroups target.toTarget, (groupFieldNames group).Nodup := by
      intro group listening
      have nodup := (List.nodup_append.1 nodup).2.1
      exact (List.nodup_flatMap.1 nodup).1 group listening
    refine List.Forall₂.imp ?_ ((List.forall₂_and_left _ _).2 ⟨apart, each⟩)
    rintro group ⟨attach, detach⟩ ⟨nodup, attachMade, detachMade⟩
    exact isTakenBack_of_attachBlock nodup attachMade detachMade
  · intro inherits
    rw [inherits] at unbindMade
    obtain ⟨keepsNone, -, noGroups⟩ := nothing_of_inherited unbindMade
    rw [fieldNames, keepsNone, noGroups] at names
    exact List.map_eq_nil_iff.1 names

end Generation
end Companion
