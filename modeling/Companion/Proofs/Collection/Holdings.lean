import Companion.Proofs.Collection.Justification
import Companion.Proofs.Collection.Matching
import Companion.Proofs.Symbols
import Companion.Proofs.Target.History

/-!
# What collected targets hold

Every collected target is made by calls, and every binding in it comes from a member of its class.
So the groups of a target differ in the numbers of their ids, and each method that a listener has
can be called by the callback that it is bound to.
-/

namespace Companion
namespace Collection

open Target (Records)

variable {surroundings : Surroundings} {collected : Collected} {target extended : Target}

/-- The calls that record an addition. -/
def Addition.calls : Addition → List Target.Call
  | .view id binding => [.field id binding]
  | .views binding => [.collection binding]
  | .resource binding => [.resource binding]
  | .methods kind callback method ids => ids.map fun id => .method id kind callback method

theorem exists_records_of_addMethods {kind : ListenerKind} {callback : Callback}
    {method : MethodBinding} {pairs : List (Int32 × ResourceId)} {refusal : Option Int32}
    {calls : List Target.Call} (records : Records calls target)
    (added : addMethods kind callback method target pairs = (extended, refusal)) :
    ∃ made, made <+: (Addition.methods kind callback method (pairs.map Prod.snd)).calls ∧
      Records (calls ++ made) extended := by
  induction pairs generalizing target calls with
  | nil =>
      cases added
      exact ⟨[], List.nil_prefix, by rwa [List.append_nil]⟩
  | cons pair rest ih =>
      rw [addMethods] at added
      split at added
      · rename_i next step
        obtain ⟨made, isPrefix, madeRecords⟩ := ih (records.snoc_method step) added
        refine ⟨.method pair.2 kind callback method :: made, ?_, by simpa using madeRecords⟩
        exact List.cons_prefix_cons.2 ⟨rfl, isPrefix⟩
      · cases added
        exact ⟨[], List.nil_prefix, by rwa [List.append_nil]⟩

theorem exists_records_of_adds {addition : Addition} {calls : List Target.Call}
    (records : Records calls target) (adds : Adds target addition extended) :
    ∃ made, made <+: addition.calls ∧ Records (calls ++ made) extended := by
  cases adds with
  | view added => exact ⟨_, List.prefix_refl _, records.snoc_field added⟩
  | views collection =>
      have accepted : (Target.Call.collection collection).after? target =
        some (target.addCollection collection) := rfl
      exact ⟨_, List.prefix_refl _, records.snoc accepted⟩
  | resource resource =>
      have accepted : (Target.Call.resource resource).after? target =
        some (target.addResource resource) := rfl
      exact ⟨_, List.prefix_refl _, records.snoc accepted⟩
  | methods added => exact exists_records_of_addMethods records added

/-- Whether calls are those that a use makes for what it warrants, up to the first refused one. -/
def Use.Makes (surroundings : Surroundings) (use : Use) (calls : List Target.Call) : Prop :=
  ∃ addition, Warrants surroundings use.site use.request addition ∧ calls <+: addition.calls

/-- Whether the target of a class is what some uses have made of it, each with its calls and one
after the other. -/
structure IsRecorded (surroundings : Surroundings) (uses : List Use) (name : String)
    (entries : List (Use × List Target.Call)) (target : Target) : Prop where
  /-- The order is that of the uses. -/
  order : (entries.map Prod.fst).Sublist uses
  /-- They are uses in the class. -/
  inside : ∀ entry ∈ entries, entry.1.site.decl.name = name
  /-- The calls are theirs. -/
  makes : ∀ entry ∈ entries, entry.1.Makes surroundings entry.2
  /-- The target holds what the calls have bound. -/
  records : Records (entries.flatMap Prod.snd) target

theorem IsRecorded.snoc {uses : List Use} {use : Use}
    {entries : List (Use × List Target.Call)}
    (recorded : IsRecorded surroundings uses use.site.decl.name entries target)
    {calls : List Target.Call} (makes : use.Makes surroundings calls)
    (records : Records (entries.flatMap Prod.snd ++ calls) extended) :
    IsRecorded surroundings (uses ++ [use]) use.site.decl.name (entries ++ [(use, calls)])
      extended := by
  refine ⟨?_, ?_, ?_, by simpa using records⟩
  · rw [List.map_append]
    exact recorded.order.append (List.Sublist.refl [use])
  · exact List.forall_mem_append.2 ⟨recorded.inside, by simp⟩
  · exact List.forall_mem_append.2 ⟨recorded.makes, by simpa using makes⟩

/-- Whether all targets are what the uses so far have made of them. -/
def AreRecorded (surroundings : Surroundings) (uses : List Use) (collected : Collected) : Prop :=
  ∀ name target, collected.targets.get? name = some target →
    ∃ entries, IsRecorded surroundings uses name entries target

namespace AreRecorded

variable {uses : List Use}

theorem targetOf {decl : TypeDecl} (areRecorded : AreRecorded surroundings uses collected)
    (present : targetOf surroundings.world collected decl = .ok target) :
    ∃ entries, IsRecorded surroundings uses decl.name entries target := by
  rcases get?_or_newTarget_of_targetOf present with found | made
  · exact areRecorded _ _ found
  · obtain ⟨name, -, rfl⟩ := eq_of_newTarget made
    exact ⟨[], List.nil_sublist uses, by simp, by simp, .empty _ _ _ _⟩

theorem later (areRecorded : AreRecorded surroundings uses collected) (use : Use) :
    AreRecorded surroundings (uses ++ [use]) collected := by
  intro name target found
  obtain ⟨entries, recorded⟩ := areRecorded name target found
  have order := recorded.order.trans (List.sublist_append_left uses [use])
  exact ⟨entries, order, recorded.inside, recorded.makes, recorded.records⟩

theorem keep (areRecorded : AreRecorded surroundings uses collected) {name : String}
    {entries : List (Use × List Target.Call)}
    (recorded : IsRecorded surroundings uses name entries extended) :
    AreRecorded surroundings uses (collected.keep name extended) := by
  intro other target found
  rw [Collected.keep, Table.get?_insert] at found
  split at found
  · rename_i same
    cases found
    exact ⟨entries, same ▸ recorded⟩
  · exact areRecorded other target found

theorem outcome (areRecorded : AreRecorded surroundings uses collected) (use : Use) :
    AreRecorded surroundings (uses ++ [use]) (use.outcome surroundings collected) := by
  rw [Use.outcome]
  split
  · cases judged_verdict surroundings collected use with
    | refused _ kept =>
        rw [kept]
        exact areRecorded.later use
    | accepted warranted present adds _ kept =>
        obtain ⟨entries, recorded⟩ := areRecorded.targetOf present
        obtain ⟨calls, made, records⟩ := exists_records_of_adds recorded.records adds
        rw [kept]
        exact (areRecorded.later use).keep (recorded.snoc ⟨_, warranted, made⟩ records)
    | stopped warranted present added _ kept =>
        obtain ⟨entries, recorded⟩ := areRecorded.targetOf present
        obtain ⟨calls, made, records⟩ := exists_records_of_addMethods recorded.records added
        rw [kept]
        exact (areRecorded.later use).keep (recorded.snoc ⟨_, warranted, made⟩ records)
  · exact areRecorded.later use

theorem walk {progress : Progress}
    (areRecorded : AreRecorded surroundings uses progress.collected) (rest : List Use) :
    AreRecorded surroundings (uses ++ rest) (walk surroundings progress rest).collected := by
  induction rest generalizing uses progress with
  | nil => rwa [List.append_nil]
  | cons use rest ih =>
      rw [List.append_cons]
      apply ih
      exact areRecorded.outcome use

end AreRecorded

theorem areRecorded_walk (surroundings : Surroundings) (uses : List Use) :
    AreRecorded surroundings uses (walk surroundings ⟨.empty, []⟩ uses).collected := by
  have start : AreRecorded surroundings [] (Progress.mk .empty []).collected := by
    intro name target found
    simp [Collected.empty] at found
  simpa only [List.nil_append] using start.walk uses

theorem areRecorded_collect (environment : Environment) (kinds : List ListenerKind) :
    AreRecorded (surroundingsOf environment kinds) (uses environment.world kinds)
      (collect environment kinds).collected := by
  rw [collect_eq_walk]
  exact areRecorded_walk _ _

variable {environment : Environment} {kinds : List ListenerKind} {decl : TypeDecl}

theorem eq_idOf_of_isWarranted {request : Request} {addition : Addition} {id : ResourceId}
    (warranted : IsWarranted surroundings decl request addition) (listed : id ∈ addition.viewIds) :
    ∃ value, id = surroundings.symbols.idOf ⟨decl.package, value⟩ := by
  obtain ⟨member, -, warrants⟩ := warranted
  cases warrants with
  | view =>
      obtain rfl := List.mem_singleton.1 listed
      exact ⟨_, rfl⟩
  | views => cases listed
  | resource => cases listed
  | methods =>
      obtain ⟨id, -, rfl⟩ := List.mem_map.1 listed
      exact ⟨_, rfl⟩

theorem IsJustified.idOf_value
    (justified : IsJustified (surroundingsOf environment kinds) kinds decl target)
    {group : ViewGroup} (listed : group ∈ target.groups) :
    (surroundingsOf environment kinds).symbols.idOf ⟨decl.package, group.id.value⟩ = group.id := by
  obtain ⟨request, addition, warranted, isFor⟩ := (justified.group group listed).id
  obtain ⟨value, id_eq⟩ := eq_idOf_of_isWarranted warranted isFor
  have value_eq : group.id.value = value := by
    rw [id_eq]
    exact SymbolTable.value_idOf_ofRound ..
  rw [value_eq, id_eq]

/-- In one class a number stands for one id, so that different groups have different numbers. -/
theorem IsJustified.pairwise_value
    (justified : IsJustified (surroundingsOf environment kinds) kinds decl target)
    (distinct : (target.groups.map ViewGroup.id).Pairwise fun id other => id.same other = false) :
    target.groups.Pairwise fun group other => group.id.value ≠ other.id.value := by
  rw [List.pairwise_map] at distinct
  refine distinct.imp_of_mem fun {group other} listed otherListed apart value_eq => ?_
  rw [← justified.idOf_value listed, ← justified.idOf_value otherListed, value_eq,
    ResourceId.same_self] at apart
  cases apart

theorem Selects.mem_declared {kind : ListenerKind} {requested : Option String}
    {callback : Callback} (selects : Selects kind requested callback) :
    callback ∈ kind.declared := by
  rw [ListenerKind.declared]
  cases selects with
  | only methods_eq callbacks_eq => simp [methods_eq]
  | chosen methods_eq named found =>
      rw [if_pos methods_eq]
      exact List.mem_of_find?_eq_some found

/-- Whether a method binding is that of a declared method, each of whose parameters takes an
argument of its own from a callback. -/
structure Suits (world : Universe) (callback : Callback) (member : Member)
    (method : MethodBinding) : Prop where
  /-- The binding is named after the method. -/
  name : method.name = member.name
  /-- The parameters take arguments that they can receive. -/
  takes : ∃ returnType parameters, member.kind = .method returnType parameters ∧
    method.returnsValue = returnsValue returnType ∧
    List.Forall₂ (Takes world callback.parameters) parameters method.parameters
  /-- No two of them take the same argument. -/
  different : (method.parameters.map BoundParameter.position).Nodup
  /-- Only for a callback that returns a value the method does so. -/
  returns : method.returnsValue = true → callback.returnsValue = true

theorem Suits.position_lt {world : Universe} {callback : Callback} {member : Member}
    {method : MethodBinding} (suits : Suits world callback member method) :
    ∀ parameter ∈ method.parameters, parameter.position < callback.parameters.length := by
  obtain ⟨returnType, parameters, -, -, takes⟩ := suits.takes
  intro parameter listed
  obtain ⟨index, inRange, rfl⟩ := List.getElem_of_mem listed
  exact (List.forall₂_iff_get.1 takes).2 index (takes.length_eq ▸ inRange) inRange |>.position_lt

theorem suits_of_isWarranted {kind : ListenerKind} {callback : Callback} {method : MethodBinding}
    {ids : List ResourceId} (warranted : IsWarranted surroundings decl (.listener kind)
      (.methods kind callback method ids)) :
    callback ∈ kind.declared ∧
      ∃ member ∈ decl.members, Suits surroundings.world callback member method := by
  obtain ⟨member, listed, warrants⟩ := warranted
  cases warrants with
  | methods isMethod _ _ selects _ _ _ returns matched complete =>
      refine ⟨selects.mem_declared, member, listed, rfl, ⟨_, _, isMethod, rfl,
        takes_of_matchFrom matched complete⟩, (nodup_position_of_matchFrom matched).1, ?_⟩
      intro isReturned
      have written := returns isReturned
      rw [returnsValue, written] at isReturned
      exact isReturned

/-- Whether the methods of a listener can be called by the callbacks that they are bound to. -/
structure IsCallable (world : Universe) (decl : TypeDecl) (listener : ListenerBinding) :
    Prop where
  /-- Methods are bound to callbacks that the listener declares. -/
  declared : ∀ bound ∈ listener.callbacks, bound.callback ∈ listener.kind.declared
  /-- They are methods of the class that suit these callbacks. -/
  suits : ∀ bound ∈ listener.callbacks, ∀ method ∈ bound.methods,
    ∃ member ∈ decl.members, Suits world bound.callback member method
  /-- A callback that returns a value has one method. -/
  single : ∀ bound ∈ listener.callbacks, bound.callback.returnsValue = true →
    bound.methods.length = 1

theorem IsJustified.isCallable {calls : List Target.Call}
    (justified : IsJustified surroundings kinds decl target) (records : Records calls target)
    {group : ViewGroup} (listed : group ∈ target.groups) {listener : ListenerBinding}
    (listens : listener ∈ group.listeners) : IsCallable surroundings.world decl listener := by
  have filled := (records.filled group listed).listeners listener listens
  have warranted {bound : CallbackBinding} (isBound : bound ∈ listener.callbacks)
      {method : MethodBinding} (calls : method ∈ bound.methods) :=
    (justified.group group listed).method listener listens bound isBound method calls
  refine ⟨?_, ?_, records.isMadeBy.single group listed listener listens⟩
  · intro bound isBound
    obtain ⟨method, calls⟩ := List.exists_mem_of_ne_nil _ (filled.methods bound isBound)
    obtain ⟨ids, methodWarranted, -⟩ := warranted isBound calls
    exact (suits_of_isWarranted methodWarranted).1
  · intro bound isBound method calls
    obtain ⟨ids, methodWarranted, -⟩ := warranted isBound calls
    exact (suits_of_isWarranted methodWarranted).2

/-- What a linked target holds, is warranted by its class and recorded by calls. -/
theorem exists_isRecorded_of_collect {name : String} {set : LinkedTarget}
    (found : (Processing.collect environment ListenerKind.standard).targets.get? name = some set) :
    ∃ decl, environment.world.get? name = some decl ∧
      IsJustified (surroundingsOf environment ListenerKind.standard) ListenerKind.standard decl
        set.toTarget ∧
      ∃ entries, IsRecorded (surroundingsOf environment ListenerKind.standard)
        (uses environment.world ListenerKind.standard) name entries set.toTarget := by
  have collected := get?_of_collect found
  obtain ⟨decl, known, justified⟩ :=
    (areJustified_collect nodup_marker_standard environment).targets name _ collected
  exact ⟨decl, known, justified, areRecorded_collect environment _ name _ collected⟩

end Collection
end Companion
