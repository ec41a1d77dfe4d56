import Companion.Listener.Standard
import Companion.Proofs.Linking.Nearest

/-!
# The queue of targets

Targets are linked in any order in which parents come before their children.  The count of targets
put off in a row vouches for the end of the queue: that many targets there still wait.  So the queue
stops exactly when everything in it waits for something else in it.
-/

namespace Companion
namespace Linking

variable {world : Universe} {kinds : List ListenerKind} {collected : Collected}

/-- The class that the linking of a class awaits: its nearest companion, when that is bound in the
round. -/
def awaited? (world : Universe) (kinds : List ListenerKind) (bound : List String) (name : String) :
    Option String :=
  ((nearest? world kinds bound name).filter fun parent => parent.name ∈ bound).map TypeDecl.name

/-- The class that a number of steps leads to from a class, each step going to the nearest
companion as long as that is bound in the round. -/
def followed? (world : Universe) (kinds : List ListenerKind) (bound : List String) :
    Nat → String → Option String
  | 0, name => some name
  | steps + 1, name => (awaited? world kinds bound name).bind (followed? world kinds bound steps)

/-- Following nearest companions from a class never reaches an end. -/
def IsEndless (world : Universe) (kinds : List ListenerKind) (bound : List String)
    (name : String) : Prop :=
  ∀ steps, (followed? world kinds bound steps name).isSome = true

theorem awaited?_eq_some_iff {bound : List String} {name next : String} :
    awaited? world kinds bound name = some next ↔
      ∃ parent, nearest? world kinds bound name = some parent ∧ parent.name ∈ bound ∧
        parent.name = next := by
  simp [awaited?, Option.map_eq_some_iff, Option.filter_eq_some_iff, and_assoc]

theorem not_isEndless_of_awaited?_eq_none {bound : List String} {name : String}
    (ends : awaited? world kinds bound name = none) : ¬IsEndless world kinds bound name := by
  intro endless
  simpa [followed?, ends] using endless 1

theorem not_isEndless_of_awaited? {bound : List String} {name next : String}
    (step : awaited? world kinds bound name = some next)
    (ends : ¬IsEndless world kinds bound next) : ¬IsEndless world kinds bound name := by
  intro endless
  refine ends fun steps => ?_
  simpa [followed?, step] using endless (steps + 1)

/-- A set of classes in which each awaits one of the set holds endless classes only. -/
theorem isEndless_of_closed {bound names : List String}
    (closed : ∀ name ∈ names, ∃ next ∈ names, awaited? world kinds bound name = some next)
    {name : String} (member : name ∈ names) : IsEndless world kinds bound name := by
  intro steps
  induction steps generalizing name with
  | zero => rfl
  | succ steps ih =>
      obtain ⟨next, nextMember, step⟩ := closed name member
      simpa [followed?, step] using ih nextMember

theorem linkOf_of_top {linked : LinkedTargets} {name : String}
    (target : name ∈ collected.targets.keys)
    (top : nearest? world kinds collected.bound name = none) :
    linkOf (knownOf world kinds collected) linked name = .ready none := by
  simp [linkOf, parentName?_eq target, top]

theorem linkOf_of_linked {linked : LinkedTargets} {name : String} {parent : TypeDecl}
    {set : LinkedTarget} (target : name ∈ collected.targets.keys)
    (found : nearest? world kinds collected.bound name = some parent)
    (present : linked.get? parent.name = some set) :
    linkOf (knownOf world kinds collected) linked name =
      .ready (some (set.asParent parent.name)) := by
  simp [linkOf, parentName?_eq target, found, present]

theorem linkOf_of_bound {linked : LinkedTargets} {name : String} {parent : TypeDecl}
    (target : name ∈ collected.targets.keys)
    (found : nearest? world kinds collected.bound name = some parent)
    (absent : linked.get? parent.name = none) (isBound : parent.name ∈ collected.bound) :
    linkOf (knownOf world kinds collected) linked name = .waiting := by
  have external : (knownOf world kinds collected).externals.get? parent.name = none :=
    external_of_bound isBound
  simp [linkOf, parentName?_eq target, found, absent, external]

theorem linkOf_of_compiled {linked : LinkedTargets} {name : String} {parent : TypeDecl}
    (target : name ∈ collected.targets.keys)
    (found : nearest? world kinds collected.bound name = some parent)
    (absent : linked.get? parent.name = none) (unbound : parent.name ∉ collected.bound) :
    ∃ needsView, linkOf (knownOf world kinds collected) linked name =
      .ready (some (.classpath (companionName parent.package parent.simpleNames) needsView)) := by
  obtain ⟨external, entered, companion_eq⟩ := external_of_nearest? target found unbound
  have known : (knownOf world kinds collected).externals.get? parent.name = some external := entered
  exact ⟨external.needsView, by
    simp [linkOf, parentName?_eq target, found, absent, known, companion_eq]⟩

theorem linkOf_eq_waiting_iff {linked : LinkedTargets} {name : String}
    (target : name ∈ collected.targets.keys) :
    linkOf (knownOf world kinds collected) linked name = .waiting ↔
      ∃ next, awaited? world kinds collected.bound name = some next ∧ next ∉ linked.keys := by
  simp only [awaited?_eq_some_iff, ← Table.get?_eq_none_iff]
  cases found : nearest? world kinds collected.bound name with
  | none => simp [linkOf_of_top target found]
  | some parent =>
      cases present : linked.get? parent.name with
      | some set => simp [linkOf_of_linked target found present, present]
      | none =>
          by_cases isBound : parent.name ∈ collected.bound
          · simp [linkOf_of_bound target found present isBound, present, isBound]
          · obtain ⟨needsView, link_eq⟩ := linkOf_of_compiled target found present isBound
            simp [link_eq, isBound]

/-! ## The state of the queue -/

/-- How the parent of one linked target was found, at the time when it was linked. -/
inductive HasParent (world : Universe) (kinds : List ListenerKind) (bound : List String)
    (linked : LinkedTargets) (name : String) : Option ParentLink → Prop where
  | top (none_above : nearest? world kinds bound name = none) :
      HasParent world kinds bound linked name none
  | round (parent : TypeDecl) (set : LinkedTarget)
      (found : nearest? world kinds bound name = some parent)
      (present : linked.get? parent.name = some set)
      (earlier : [parent.name, name].Sublist linked.keys) :
      HasParent world kinds bound linked name (some (set.asParent parent.name))
  | classpath (parent : TypeDecl) (needsView : Bool)
      (found : nearest? world kinds bound name = some parent) (unbound : parent.name ∉ bound)
      (later : ¬[parent.name, name].Sublist linked.keys) :
      HasParent world kinds bound linked name
        (some (.classpath (companionName parent.package parent.simpleNames) needsView))

/-- What holds of the targets linked so far and of those still in the queue. -/
structure Halfway (world : Universe) (kinds : List ListenerKind) (collected : Collected)
    (linked : LinkedTargets) (queue : List (String × Target)) : Prop where
  /-- Each target is either linked or in the queue, and only once. -/
  keys : (linked.keys ++ queue.map Prod.fst).Perm collected.targets.keys
  /-- The queue holds the targets as they were collected. -/
  queued : ∀ entry ∈ queue, collected.targets.get? entry.1 = some entry.2
  /-- Linked targets are the collected ones. -/
  kept : ∀ name set, linked.get? name = some set →
    collected.targets.get? name = some set.toTarget
  /-- Linked targets have their parents. -/
  parents : ∀ name set, linked.get? name = some set →
    HasParent world kinds collected.bound linked name set.parent
  /-- From linked targets an end is reached. -/
  ends : ∀ name ∈ linked.keys, ¬IsEndless world kinds collected.bound name

theorem halfway_start (collected : Collected) :
    Halfway world kinds collected .empty collected.targets.entries where
  keys := by simp [Table.keys, Table.empty]
  queued := fun _ member => Table.get?_eq_some_iff.2 member
  kept := fun _ _ found => by simp at found
  parents := fun _ _ found => by simp at found
  ends := fun _ member => by simp [Table.keys, Table.empty] at member

/-- In a list with a new last item, an item stands before another as it did, or before the last. -/
private theorem pair_sublist_append_singleton_iff {first second last : String}
    {names : List String} :
    [first, second].Sublist (names ++ [last]) ↔
      [first, second].Sublist names ∨ first ∈ names ∧ second = last := by
  rw [← List.reverse_sublist, ← @List.reverse_sublist _ _ names]
  simp only [List.reverse_append, List.reverse_cons, List.reverse_nil, List.nil_append,
    List.cons_append]
  rw [List.sublist_cons_iff]
  constructor
  · rintro (inside | ⟨rest, split, inside⟩)
    · exact .inl inside
    · obtain ⟨rfl, rfl⟩ := List.cons.inj split
      exact .inr ⟨by simpa using inside, rfl⟩
  · rintro (inside | ⟨member, rfl⟩)
    · exact .inl inside
    · exact .inr ⟨[first], rfl, by simpa using member⟩

theorem HasParent.insert {bound : List String} {linked : LinkedTargets} {name new : String}
    {parent : Option ParentLink} (has : HasParent world kinds bound linked name parent)
    (present : name ∈ linked.keys) (absent : new ∉ linked.keys) (set : LinkedTarget) :
    HasParent world kinds bound (linked.insert new set) name parent := by
  have differs : name ≠ new := fun same => absent (same ▸ present)
  have keys_eq : (linked.insert new set).keys = linked.keys ++ [new] := by
    simp [Table.keys_insert, absent]
  cases has with
  | top none_above => exact .top none_above
  | round parent parentSet found there earlier =>
      refine .round parent parentSet found ?_ ?_
      · have parentDiffers : parent.name ≠ new := by
          rintro rfl
          exact absent (Table.mem_keys_of_get? there)
        simp [parentDiffers, there]
      · rw [keys_eq, pair_sublist_append_singleton_iff]
        exact .inl earlier
  | classpath parent needsView found unbound later =>
      refine .classpath parent needsView found unbound ?_
      rw [keys_eq, pair_sublist_append_singleton_iff]
      exact fun either => either.elim later fun last => differs last.2

theorem hasParent_of_ready {linked : LinkedTargets} {name : String} {parent : Option ParentLink}
    {set : LinkedTarget} (target : name ∈ collected.targets.keys) (absent : name ∉ linked.keys)
    (ready : linkOf (knownOf world kinds collected) linked name = .ready parent) :
    HasParent world kinds collected.bound (linked.insert name set) name parent := by
  have keys_eq : (linked.insert name set).keys = linked.keys ++ [name] := by
    simp [Table.keys_insert, absent]
  cases found : nearest? world kinds collected.bound name with
  | none =>
      rw [linkOf_of_top target found] at ready
      cases ready
      exact .top found
  | some ancestor =>
      cases present : linked.get? ancestor.name with
      | some ancestorSet =>
          rw [linkOf_of_linked target found present] at ready
          cases ready
          have there := Table.mem_keys_of_get? present
          have differs : ancestor.name ≠ name := fun same => absent (same ▸ there)
          refine .round ancestor ancestorSet found (by simp [differs, present]) ?_
          rw [keys_eq, pair_sublist_append_singleton_iff]
          exact .inr ⟨there, rfl⟩
      | none =>
          by_cases isBound : ancestor.name ∈ collected.bound
          · rw [linkOf_of_bound target found present isBound] at ready
            cases ready
          · obtain ⟨needsView, link_eq⟩ := linkOf_of_compiled target found present isBound
            rw [link_eq] at ready
            cases ready
            refine .classpath ancestor needsView found isBound ?_
            rw [keys_eq, pair_sublist_append_singleton_iff]
            rintro (inside | ⟨there, -⟩)
            · exact absent (inside.subset (by simp))
            · exact Table.get?_eq_none_iff.1 present there

theorem Halfway.not_mem_keys {linked : LinkedTargets} {entry : String × Target}
    {rest : List (String × Target)}
    (halfway : Halfway world kinds collected linked (entry :: rest)) :
    entry.1 ∉ linked.keys := by
  have nodup := halfway.keys.nodup_iff.2 collected.targets.nodup
  intro present
  exact (List.nodup_append.1 nodup).2.2 _ present _ (by simp) rfl

theorem Halfway.mem_keys {linked : LinkedTargets} {queue : List (String × Target)}
    (halfway : Halfway world kinds collected linked queue) {entry : String × Target}
    (member : entry ∈ queue) : entry.1 ∈ collected.targets.keys :=
  Table.mem_keys_of_get? (halfway.queued entry member)

theorem Halfway.link {linked : LinkedTargets} {name : String} {target : Target}
    {rest : List (String × Target)} {parent : Option ParentLink}
    (halfway : Halfway world kinds collected linked ((name, target) :: rest))
    (ready : linkOf (knownOf world kinds collected) linked name = .ready parent) :
    Halfway world kinds collected (linked.insert name ⟨target, parent⟩) rest := by
  have isTarget : name ∈ collected.targets.keys := halfway.mem_keys List.mem_cons_self
  have absent : name ∉ linked.keys := halfway.not_mem_keys
  refine ⟨?_, fun entry member => halfway.queued entry (by simp [member]), ?_, ?_, ?_⟩
  · rw [Table.keys_insert, if_neg absent, List.append_assoc]
    exact halfway.keys
  · intro other set found
    rw [Table.get?_insert] at found
    split at found
    · cases found
      rename_i same
      exact same ▸ halfway.queued _ List.mem_cons_self
    · exact halfway.kept other set found
  · intro other set found
    rw [Table.get?_insert] at found
    split at found
    · cases found
      rename_i same
      rw [same]
      exact hasParent_of_ready isTarget absent ready
    · exact (halfway.parents other set found).insert (Table.mem_keys_of_get? found) absent _
  · intro other member
    rcases Table.mem_keys_insert.1 member with rfl | earlier
    · cases step : awaited? world kinds collected.bound other with
      | none => exact not_isEndless_of_awaited?_eq_none step
      | some next =>
          refine not_isEndless_of_awaited? step (halfway.ends next ?_)
          refine Decidable.byContradiction fun unlinked => ?_
          rw [(linkOf_eq_waiting_iff isTarget).2 ⟨next, step, unlinked⟩] at ready
          cases ready
    · exact halfway.ends other earlier

theorem Halfway.putOff {linked : LinkedTargets} {entry : String × Target}
    {rest : List (String × Target)}
    (halfway : Halfway world kinds collected linked (entry :: rest)) :
    Halfway world kinds collected linked (rest ++ [entry]) := by
  refine ⟨?_, fun other member => halfway.queued other ?_, halfway.kept, halfway.parents,
    halfway.ends⟩
  · refine List.Perm.trans ?_ halfway.keys
    exact ((List.perm_append_singleton entry rest).map Prod.fst).append_left linked.keys
  · simpa [or_comm] using member

/-- The end of the queue that has been put off since the last target was linked. -/
def IsPutOff (known : Known) (linked : LinkedTargets) (deferred : Nat)
    (queue : List (String × Target)) : Prop :=
  ∃ front back, queue = front ++ back ∧ back.length = deferred ∧
    ∀ entry ∈ back, linkOf known linked entry.1 = .waiting

/-- What a run ends with: all targets are linked, or all that are left wait for each other. -/
def IsOutcome (world : Universe) (kinds : List ListenerKind) (collected : Collected) :
    Except UnresolvedParents LinkedTargets → Prop
  | .ok linked => Halfway world kinds collected linked []
  | .error stalled => ∃ linked queue, Halfway world kinds collected linked queue ∧ queue ≠ [] ∧
      (∀ entry ∈ queue, linkOf (knownOf world kinds collected) linked entry.1 = .waiting) ∧
      stalled.pending = queue.map Prod.fst

theorem isOutcome_run {linked : LinkedTargets} {deferred : Nat} {queue : List (String × Target)}
    (halfway : Halfway world kinds collected linked queue)
    (putOff : IsPutOff (knownOf world kinds collected) linked deferred queue) :
    IsOutcome world kinds collected
      (run (knownOf world kinds collected) linked deferred queue) := by
  fun_induction run (knownOf world kinds collected) linked deferred queue with
  | case1 linked deferred => exact halfway
  | case2 linked deferred name target rest parent ready ih =>
      exact ih (halfway.link ready) ⟨rest, [], by simp, rfl, by simp⟩
  | case3 linked deferred name target rest waiting queue full =>
      obtain ⟨front, back, split, length_eq, allWait⟩ := putOff
      -- as many targets were put off as the queue has, so it holds no other
      have front_eq : front = [] := by
        have lengths := congrArg List.length split
        simp only [queue, List.length_append, List.length_cons, List.length_nil] at full lengths
        exact List.eq_nil_of_length_eq_zero (by omega)
      refine ⟨linked, queue, halfway.putOff, by simp [queue], ?_, rfl⟩
      intro entry member
      refine allWait entry ?_
      have inOld : entry ∈ (name, target) :: rest := by simpa [queue, or_comm] using member
      simpa [split, front_eq] using inOld
  | case4 linked deferred name target rest waiting queue notFull ih =>
      obtain ⟨front, back, split, length_eq, allWait⟩ := putOff
      refine ih halfway.putOff ?_
      cases front with
      | nil =>
          have lengths := congrArg List.length split
          simp only [queue, List.length_append, List.length_cons, List.length_nil]
            at notFull lengths
          omega
      | cons first front =>
          obtain ⟨rfl, rest_eq⟩ := List.cons.inj split
          refine ⟨front, back ++ [(name, target)], ?_, by simp [length_eq], ?_⟩
          · simp [queue, rest_eq]
          intro entry member
          rcases List.mem_append.1 member with old | new
          · exact allWait entry old
          · rw [List.mem_singleton.1 new]
            exact waiting

theorem isOutcome_link (world : Universe) (kinds : List ListenerKind) (collected : Collected) :
    IsOutcome world kinds collected (link world kinds collected) :=
  isOutcome_run (halfway_start collected) ⟨_, [], (List.append_nil _).symm, rfl, by simp⟩

theorem Halfway.isEndless {linked : LinkedTargets} {queue : List (String × Target)}
    (halfway : Halfway world kinds collected linked queue)
    (boundAreTargets : ∀ name ∈ collected.bound, name ∈ collected.targets.keys)
    (allWait : ∀ entry ∈ queue,
      linkOf (knownOf world kinds collected) linked entry.1 = .waiting)
    {name : String} (member : name ∈ queue.map Prod.fst) :
    IsEndless world kinds collected.bound name := by
  refine isEndless_of_closed ?_ member
  intro name member
  obtain ⟨entry, listed, rfl⟩ := List.mem_map.1 member
  obtain ⟨next, step, unlinked⟩ :=
    (linkOf_eq_waiting_iff (halfway.mem_keys listed)).1 (allWait entry listed)
  refine ⟨next, ?_, step⟩
  obtain ⟨parent, -, isBound, rfl⟩ := awaited?_eq_some_iff.1 step
  have isTarget := halfway.keys.mem_iff.2 (boundAreTargets _ isBound)
  exact (List.mem_append.1 isTarget).resolve_left unlinked

theorem idxOf_lt_idxOf {names : List String} (nodup : names.Nodup) {first second : String}
    (earlier : [first, second].Sublist names) : names.idxOf first < names.idxOf second := by
  have ordered : names.Pairwise fun left right => names.idxOf left < names.idxOf right := by
    refine List.pairwise_iff_getElem.2 fun i j i_lt j_lt i_lt_j => ?_
    rwa [nodup.idxOf_getElem i i_lt, nodup.idxOf_getElem j j_lt]
  simpa using ordered.sublist earlier

/-- Whether the companion of a class extends the companion of another one of the same round. -/
def ExtendsInRound (linked : LinkedTargets) (parent child : String) : Prop :=
  ∃ set companion needsView, linked.get? child = some set ∧
    set.parent = some (.round parent companion needsView)

/-- The parents of all targets, as far as it is told by the nearest companions. -/
structure IsLinking (world : Universe) (kinds : List ListenerKind) (collected : Collected)
    (linked : LinkedTargets) : Prop where
  /-- Each target is linked once. -/
  keys : linked.keys.Perm collected.targets.keys
  /-- A linked target has the bindings that were collected. -/
  bindings : ∀ name set, linked.get? name = some set →
    collected.targets.get? name = some set.toTarget
  /-- Without a companion above it, a target has no parent. -/
  top : ∀ name set, linked.get? name = some set →
    nearest? world kinds collected.bound name = none → set.parent = none
  /-- A nearest companion of this round is linked itself, and is the parent as it is linked. -/
  round : ∀ name set parent, linked.get? name = some set →
    nearest? world kinds collected.bound name = some parent → parent.name ∈ collected.bound →
    ∃ parentSet, linked.get? parent.name = some parentSet ∧
      set.parent = some (parentSet.asParent parent.name)
  /-- A nearest companion that is not bound was compiled earlier, and is the parent by its name.
  But when its class is a target of the round as well, those linked after it extend it as it is
  linked. -/
  compiled : ∀ name set parent, linked.get? name = some set →
    nearest? world kinds collected.bound name = some parent → parent.name ∉ collected.bound →
    if [parent.name, name].Sublist linked.keys then
      ∃ parentSet, linked.get? parent.name = some parentSet ∧
        set.parent = some (parentSet.asParent parent.name)
    else ∃ needsView, set.parent =
      some (.classpath (companionName parent.package parent.simpleNames) needsView)
  /-- Parents of this round come before their children. -/
  earlier : ∀ parent child, ExtendsInRound linked parent child →
    [parent, child].Sublist linked.keys
  /-- The parent links of the round form a forest. -/
  forest : WellFounded (ExtendsInRound linked)

theorem Halfway.earlier {linked : LinkedTargets} {queue : List (String × Target)}
    (halfway : Halfway world kinds collected linked queue) {parent child : String}
    (extended : ExtendsInRound linked parent child) : [parent, child].Sublist linked.keys := by
  obtain ⟨set, companion, needsView, found, parent_eq⟩ := extended
  have has := halfway.parents child set found
  rw [parent_eq] at has
  cases has with
  | round ancestor ancestorSet _ _ earlier => exact earlier

/-- The parent of a target with a nearest companion is a linked set or a compiled companion,
according to whether that companion comes before the target. -/
theorem Halfway.parent_of_nearest? {linked : LinkedTargets} {queue : List (String × Target)}
    (halfway : Halfway world kinds collected linked queue) {name : String} {set : LinkedTarget}
    {parent : TypeDecl} (found : linked.get? name = some set)
    (nearest : nearest? world kinds collected.bound name = some parent) :
    [parent.name, name].Sublist linked.keys ∧
        (∃ parentSet, linked.get? parent.name = some parentSet ∧
          set.parent = some (parentSet.asParent parent.name)) ∨
      parent.name ∉ collected.bound ∧ ¬[parent.name, name].Sublist linked.keys ∧
        ∃ needsView, set.parent =
          some (.classpath (companionName parent.package parent.simpleNames) needsView) := by
  have has := halfway.parents name set found
  generalize set.parent = link at has
  cases has with
  | top none_above => simp [none_above] at nearest
  | round other otherSet otherNearest present earlier =>
      rw [nearest] at otherNearest
      cases otherNearest
      exact .inl ⟨earlier, otherSet, present, rfl⟩
  | classpath other needsView otherNearest unbound later =>
      rw [nearest] at otherNearest
      cases otherNearest
      exact .inr ⟨unbound, later, needsView, rfl⟩

theorem Halfway.isLinking {linked : LinkedTargets}
    (halfway : Halfway world kinds collected linked []) :
    IsLinking world kinds collected linked := by
  have keys : linked.keys.Perm collected.targets.keys := by simpa using halfway.keys
  refine ⟨keys, halfway.kept, ?_, ?_, ?_, fun _ _ => halfway.earlier, ?_⟩
  · intro name set found top
    have has := halfway.parents name set found
    generalize set.parent = link at has
    cases has with
    | top => rfl
    | round _ _ nearest => simp [top] at nearest
    | classpath _ _ nearest => simp [top] at nearest
  · intro name set parent found nearest isBound
    obtain ⟨-, linkedParent⟩ | ⟨unbound, -, -⟩ := halfway.parent_of_nearest? found nearest
    · exact linkedParent
    · exact absurd isBound unbound
  · intro name set parent found nearest unbound
    obtain ⟨earlier, linkedParent⟩ | ⟨-, later, compiledParent⟩ :=
      halfway.parent_of_nearest? found nearest
    · rwa [if_pos earlier]
    · rwa [if_neg later]
  · have nodup : linked.keys.Nodup := linked.nodup
    exact Subrelation.wf (fun extended => idxOf_lt_idxOf nodup (halfway.earlier extended))
      (measure linked.keys.idxOf).wf

theorem IsLinking.classpath_of_not_mem_keys {linked : LinkedTargets}
    (isLinking : IsLinking world kinds collected linked) {name : String} {set : LinkedTarget}
    {parent : TypeDecl} (found : linked.get? name = some set)
    (nearest : nearest? world kinds collected.bound name = some parent)
    (unbound : parent.name ∉ collected.bound)
    (untargeted : parent.name ∉ collected.targets.keys) :
    ∃ needsView, set.parent =
      some (.classpath (companionName parent.package parent.simpleNames) needsView) := by
  have unlinked : ¬[parent.name, name].Sublist linked.keys := fun earlier =>
    untargeted (isLinking.keys.mem_iff.1 (earlier.subset List.mem_cons_self))
  have compiled := isLinking.compiled name set parent found nearest unbound
  rwa [if_neg unlinked] at compiled

/-- Whether targets can be linked one after the other, with these parents. -/
def AreReady (known : Known) : LinkedTargets → List (String × LinkedTarget) → Prop
  | _, [] => True
  | linked, (name, set) :: rest =>
    linkOf known linked name = .ready set.parent ∧ AreReady known (linked.insert name set) rest

instance decidableAreReady (known : Known) :
    (linked : LinkedTargets) → (sets : List (String × LinkedTarget)) →
      Decidable (AreReady known linked sets)
  | _, [] => .isTrue trivial
  | linked, (name, set) :: rest =>
    have := decidableAreReady known (linked.insert name set) rest
    inferInstanceAs (Decidable (_ ∧ _))

theorem run_of_areReady {known : Known} {linked : LinkedTargets} {deferred : Nat}
    {sets : List (String × LinkedTarget)} (ready : AreReady known linked sets) :
    run known linked deferred (sets.map fun entry => (entry.1, entry.2.toTarget)) =
      .ok (sets.foldl (fun linked entry => linked.insert entry.1 entry.2) linked) := by
  induction sets generalizing linked deferred with
  | nil =>
      rw [List.map_nil, run]
      rfl
  | cons entry rest ih =>
      rw [List.map_cons, run, ready.1]
      exact ih ready.2

/-- Targets none of which has to wait are linked in the order in which they were collected. -/
theorem link_of_areReady {sets : List (String × LinkedTarget)}
    (targets : collected.targets.entries = sets.map fun entry => (entry.1, entry.2.toTarget))
    (ready : AreReady (knownOf world kinds collected) .empty sets) :
    link world kinds collected = .ok (.ofList sets) := by
  rw [link, targets]
  exact run_of_areReady ready

/-- Linking fails exactly when some target is endless, and then it tells of the endless targets,
each once.  Otherwise each target is linked once, to its nearest companion and after it. -/
theorem link_isLinking_or_isEndless (world : Universe) (kinds : List ListenerKind)
    (collected : Collected)
    (boundAreTargets : ∀ name ∈ collected.bound, name ∈ collected.targets.keys) :
    ((∃ stalled, link world kinds collected = .error stalled) ↔
      ∃ name ∈ collected.targets.keys, IsEndless world kinds collected.bound name) ∧
    (∀ stalled, link world kinds collected = .error stalled →
      stalled.pending.Nodup ∧ ∀ name, name ∈ stalled.pending ↔
        name ∈ collected.targets.keys ∧ IsEndless world kinds collected.bound name) ∧
    ∀ linked, link world kinds collected = .ok linked →
      IsLinking world kinds collected linked := by
  have outcome := isOutcome_link world kinds collected
  cases result : link world kinds collected with
  | ok linked =>
      rw [result] at outcome
      have isLinking := outcome.isLinking
      refine ⟨⟨by simp, ?_⟩, by simp, fun other same => by cases same; exact isLinking⟩
      rintro ⟨name, target, endless⟩
      exact absurd endless (outcome.ends name (isLinking.keys.mem_iff.2 target))
  | error stalled =>
      rw [result] at outcome
      obtain ⟨linked, queue, halfway, nonempty, allWait, pending_eq⟩ := outcome
      have endless : ∀ name ∈ queue.map Prod.fst, IsEndless world kinds collected.bound name :=
        fun _ queued => halfway.isEndless boundAreTargets allWait queued
      obtain ⟨first, firstQueued⟩ := List.exists_mem_of_ne_nil queue nonempty
      refine ⟨⟨fun _ => ⟨first.1, halfway.mem_keys firstQueued, ?_⟩, fun _ => ⟨stalled, rfl⟩⟩,
        ?_, by simp⟩
      · exact endless _ (List.mem_map_of_mem firstQueued)
      · rintro other ⟨⟩
        rw [pending_eq]
        refine ⟨?_, fun name => ⟨fun queued => ⟨?_, endless name queued⟩, ?_⟩⟩
        · exact (List.nodup_append.1 (halfway.keys.nodup_iff.2 collected.targets.nodup)).2.1
        · exact halfway.keys.mem_iff.1 (List.mem_append_right _ queued)
        · rintro ⟨target, isEndless⟩
          exact (List.mem_append.1 (halfway.keys.mem_iff.2 target)).resolve_left
            fun isLinked => halfway.ends name isLinked isEndless

/-- A class with one annotated field. -/
def markedClass (name marker : String) : TypeDecl :=
  (TypeDecl.ofName .classType name).withMember
    ((Member.field "item" (.named "java.lang.String")).annotated ⟨marker, .empty⟩)

/-- A target without bindings. -/
def bareTarget (package name : String) : Target :=
  .empty (.classType (.ofOuter package name)) (companionName package [name]) false .generic

/-- Two compiled classes, one above the other, with source classes below each. -/
def family : Universe :=
  [(markedClass "lib.Root" "BindView").onClasspath,
    ((markedClass "lib.Middle" "BindInt").extending (.named "lib.Root")).onClasspath,
    (markedClass "a.Left" "BindView").extending (.named "lib.Middle"),
    (markedClass "a.Inner" "BindInt").extending (.named "a.Left"),
    (markedClass "a.Last" "BindInt").extending (.named "a.Inner"),
    (markedClass "a.Right" "BindInt").extending (.named "lib.Root")].foldl
    Universe.put Universe.empty

/-- A source class of the family, bound, and the compiled class above it as a target that is not
bound. -/
def strayTargets : Collected :=
  ⟨.ofList [("lib.Root", bareTarget "lib" "Root"), ("a.Right", bareTarget "a" "Right")],
    ["a.Right"]⟩

theorem link_strayTargets :
    link family ListenerKind.standard strayTargets =
      .ok (.ofList [("lib.Root", ⟨bareTarget "lib" "Root", none⟩),
        ("a.Right", ⟨bareTarget "a" "Right",
          some (.round "lib.Root" (companionName "lib" ["Root"]) false)⟩)]) :=
  link_of_areReady (by decide +kernel) (by decide +kernel)

/-- A compiled class that is not bound, but linked earlier, is a parent of this round. -/
theorem exists_round_parent_of_unbound :
    (∀ name ∈ strayTargets.bound, name ∈ strayTargets.targets.keys) ∧
      ∃ linked set parent, link family ListenerKind.standard strayTargets = .ok linked ∧
        linked.get? "a.Right" = some set ∧
        nearest? family ListenerKind.standard strayTargets.bound "a.Right" = some parent ∧
        parent.name ∉ strayTargets.bound ∧
        set.parent = some (.round "lib.Root" (companionName "lib" ["Root"]) false) :=
  ⟨by decide, _, _, (markedClass "lib.Root" "BindView").onClasspath, link_strayTargets, rfl,
    by decide +kernel, by decide +kernel, rfl⟩

/-- Two classes that extend each other, with a class below them and one apart. -/
def entangled : Universe :=
  let extending (name superclass : String) : TypeDecl :=
    (TypeDecl.ofName .classType name).extending (.named superclass)
  [extending "a.Child" "a.One", extending "a.One" "a.Two", extending "a.Two" "a.One",
    TypeDecl.ofName .classType "a.Apart"].foldl Universe.put Universe.empty

/-- All of these classes as targets. -/
def entangledTargets : Collected :=
  ⟨.ofList [("a.Child", bareTarget "a" "Child"), ("a.Apart", bareTarget "a" "Apart"),
    ("a.One", bareTarget "a" "One"), ("a.Two", bareTarget "a" "Two")],
    ["a.Child", "a.Apart", "a.One", "a.Two"]⟩

theorem exists_stalled_of_entangled :
    (∀ name ∈ entangledTargets.bound, name ∈ entangledTargets.targets.keys) ∧
      ∃ stalled, link entangled ListenerKind.standard entangledTargets = .error stalled := by
  have closed : ∀ name ∈ ["a.Child", "a.One", "a.Two"], ∃ next ∈ ["a.Child", "a.One", "a.Two"],
      awaited? entangled ListenerKind.standard entangledTargets.bound name = some next := by
    decide +kernel
  have stalls :=
    (link_isLinking_or_isEndless entangled ListenerKind.standard entangledTargets (by decide)).1
  exact ⟨by decide, stalls.2 ⟨"a.Child", by decide, isEndless_of_closed closed (by simp)⟩⟩

end Linking
end Companion
