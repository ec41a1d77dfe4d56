import Companion.Collection.Round
import Companion.Listener.Standard

/-!
# Uses in the order of their judgement

Collecting goes through the markers, and for each marker through the members that carry it.  It is
one walk along the list of all these uses: each of them is judged with the targets that the uses
before it left, and adds its own reports.
-/

namespace Companion
namespace Collection

/-- A marker that the collector looks for: one of fields, or one of a listener. -/
inductive Request where
  | field (marker : FieldMarker)
  | listener (kind : ListenerKind)
  deriving DecidableEq

namespace Request

/-- The simple name of the annotation. -/
def marker : Request → String
  | .field marker => marker.name
  | .listener kind => kind.marker

/-- Whether members are judged before all of their types are resolved. -/
def bindsViews : Request → Bool
  | .field marker => marker.bindsViews
  | .listener _ => false

/-- The heading of the report on a judgement that was given up. -/
def failure : Request → String
  | .field marker => s!"Unable to parse @{marker.name} binding."
  | .listener kind => s!"Unable to generate view binder for @{kind.marker}."

/-- The judgement of a member that carries the marker. -/
def judge (request : Request) (surroundings : Surroundings) (collected : Collected)
    (site : Site) : Verdict :=
  match request with
  | .field marker => judgeField marker surroundings collected site
  | .listener kind => judgeListener kind surroundings collected site

end Request

/-- All markers that the collector looks for, in processing order. -/
def requests (kinds : List ListenerKind) : List Request :=
  FieldMarker.all.map .field ++ kinds.map .listener

/-- A marker with a member that carries it. -/
structure Use where
  /-- The marker. -/
  request : Request
  /-- The member. -/
  site : Site
  deriving DecidableEq

/-- All uses of a round, in processing order. -/
def uses (world : Universe) (kinds : List ListenerKind) : List Use :=
  (requests kinds).flatMap fun request => (world.annotated request.marker).map (Use.mk request)

theorem mem_annotated_iff {world : Universe} {marker : String} {site : Site} :
    site ∈ world.annotated marker ↔ site.decl ∈ world.sourceTypes ∧
      site.member ∈ site.decl.members ∧ site.member.carries marker = true := by
  unfold Universe.annotated
  constructor
  · intro listed
    obtain ⟨decl, source, mapped⟩ := List.mem_flatMap.1 listed
    obtain ⟨member, filtered, rfl⟩ := List.mem_map.1 mapped
    exact ⟨source, List.mem_filter.1 filtered⟩
  · rintro ⟨source, filtered⟩
    refine List.mem_flatMap.2 ⟨site.decl, source, List.mem_map.2 ⟨site.member, ?_, rfl⟩⟩
    exact List.mem_filter.2 filtered

theorem mem_uses_iff {world : Universe} {kinds : List ListenerKind} {use : Use} :
    use ∈ uses world kinds ↔
      use.request ∈ requests kinds ∧ use.site ∈ world.annotated use.request.marker := by
  unfold uses
  constructor
  · intro listed
    obtain ⟨request, requested, mapped⟩ := List.mem_flatMap.1 listed
    obtain ⟨site, annotated, rfl⟩ := List.mem_map.1 mapped
    exact ⟨requested, annotated⟩
  · rintro ⟨requested, annotated⟩
    exact List.mem_flatMap.2 ⟨use.request, requested, List.mem_map.2 ⟨use.site, annotated, rfl⟩⟩

theorem source_of_mem_uses {world : Universe} {kinds : List ListenerKind} {use : Use}
    (listed : use ∈ uses world kinds) : use.site.decl ∈ world.sourceTypes :=
  (mem_annotated_iff.1 (mem_uses_iff.1 listed).2).1

/-- All reports of a verdict; that the judgement was given up is one of them. -/
def reportsOf (site : Site) (failure : String) (verdict : Verdict) : List Diagnostic :=
  match verdict.result with
  | .ok _ => verdict.diagnostics
  | .error error => verdict.diagnostics ++ [.error site.path s!"{failure}\n\n{error.message}"]

/-- The targets after a verdict; a judgement that was given up leaves them as they were. -/
def outcomeOf (collected : Collected) (verdict : Verdict) : Collected :=
  match verdict.result with
  | .ok changed => changed
  | .error _ => collected

theorem take_eq (progress : Progress) (site : Site) (failure : String) (verdict : Verdict) :
    progress.take site failure verdict = ⟨outcomeOf progress.collected verdict,
      progress.diagnostics ++ reportsOf site failure verdict⟩ := by
  obtain ⟨diagnostics, result⟩ := verdict
  cases result with
  | ok changed => rfl
  | error error => simp [Progress.take, outcomeOf, reportsOf]

namespace Use

/-- Whether the use is judged in this round. -/
def isDue (use : Use) : Bool := use.request.bindsViews || isComplete use.site.member

/-- The verdict on the use. -/
def verdict (surroundings : Surroundings) (collected : Collected) (use : Use) : Verdict :=
  use.request.judge surroundings collected use.site

/-- What is reported on the use. -/
def reports (surroundings : Surroundings) (collected : Collected) (use : Use) :
    List Diagnostic :=
  if use.isDue then reportsOf use.site use.request.failure (use.verdict surroundings collected)
  else []

/-- The targets after the use. -/
def outcome (surroundings : Surroundings) (collected : Collected) (use : Use) : Collected :=
  if use.isDue then outcomeOf collected (use.verdict surroundings collected) else collected

/-- The step of the walk that a use stands for. -/
def step (surroundings : Surroundings) (progress : Progress) (use : Use) : Progress :=
  ⟨use.outcome surroundings progress.collected,
    progress.diagnostics ++ use.reports surroundings progress.collected⟩

theorem step_eq (surroundings : Surroundings) (progress : Progress) (use : Use) :
    use.step surroundings progress =
      if use.isDue then progress.take use.site use.request.failure
        (use.verdict surroundings progress.collected)
      else progress := by
  unfold step outcome reports
  split
  · rw [take_eq]
  · rw [List.append_nil]

end Use

theorem fieldStep_eq (surroundings : Surroundings) (marker : FieldMarker) :
    fieldStep surroundings marker = fun progress site =>
      Use.step surroundings progress ⟨.field marker, site⟩ := by
  funext progress site
  rw [Use.step_eq]
  rfl

theorem listenerStep_eq (surroundings : Surroundings) (kind : ListenerKind) :
    listenerStep surroundings kind = fun progress site =>
      Use.step surroundings progress ⟨.listener kind, site⟩ := by
  funext progress site
  rw [Use.step_eq]
  rfl

/-- The walk along a list of uses. -/
def walk (surroundings : Surroundings) (progress : Progress) (uses : List Use) : Progress :=
  uses.foldl (Use.step surroundings) progress

theorem collect_eq_walk (environment : Environment) (kinds : List ListenerKind) :
    collect environment kinds =
      walk (surroundingsOf environment kinds) ⟨.empty, []⟩ (uses environment.world kinds) := by
  unfold collect walk uses requests fieldPass listenerPass
  rw [List.foldl_flatMap, List.foldl_append, List.foldl_map, List.foldl_map]
  simp only [fieldStep_eq, listenerStep_eq, List.foldl_map]
  rfl

/-- A method for long clicks on the views of some ids. -/
def longClicked (name : String) (ids : List Int32) : Member :=
  (Member.method name (.primitive .boolean) []).annotated
    ⟨"OnLongClick", .ofList [("value", .ids (ids.map .literal))]⟩

/-- A class with such a method for one view, and another one for two views of which the second is
that one. -/
def pressedClass : TypeDecl :=
  ((TypeDecl.ofName .classType "a.Host").withMember (longClicked "hold" [2])).withMember
    (longClicked "press" [1, 2])

/-- The round of this class. -/
def pressedRound : Environment := ⟨Universe.empty.put pressedClass, .empty, .empty⟩

/-- What is known in that round. -/
def pressedSurroundings : Surroundings := surroundingsOf pressedRound ListenerKind.standard

/-- The use on the first method. -/
def holdUse : Use := ⟨.listener .onLongClick, ⟨pressedClass, longClicked "hold" [2]⟩⟩

/-- The use on the second method. -/
def pressUse : Use := ⟨.listener .onLongClick, ⟨pressedClass, longClicked "press" [1, 2]⟩⟩

end Collection
end Companion
