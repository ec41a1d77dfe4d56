import Companion.Collection.Listeners
import Companion.Collection.Resources
import Companion.Collection.Views

/-!
# Collecting the bindings of a round

All uses of all markers are judged one after the other.  A use whose types are not all resolved is
left to a later round, unless it binds views.
-/

namespace Companion
namespace Collection

/-- Judge a use of a marker on a field. -/
def judgeField (marker : FieldMarker) (surroundings : Surroundings) (collected : Collected)
    (site : Site) : Verdict :=
  match marker with
  | .bindView => judgeView surroundings collected site
  | .bindViews => judgeViews surroundings collected site
  | _ => judgeResource marker surroundings collected site

/-- The targets so far, and what was reported on the way. -/
structure Progress where
  /-- The targets. -/
  collected : Collected
  /-- The reports, in order. -/
  diagnostics : List Diagnostic

/-- Take a verdict into account; a judgement that was given up is reported. -/
def Progress.take (progress : Progress) (site : Site) (failure : String) (verdict : Verdict) :
    Progress :=
  match verdict.result with
  | .ok collected => ⟨collected, progress.diagnostics ++ verdict.diagnostics⟩
  | .error error => ⟨progress.collected, progress.diagnostics ++ verdict.diagnostics ++
      [.error site.path s!"{failure}\n\n{error.message}"]⟩

/-- Judge one use of a field marker. -/
def fieldStep (surroundings : Surroundings) (marker : FieldMarker) (progress : Progress)
    (site : Site) : Progress :=
  if marker.bindsViews || isComplete site.member then
    progress.take site s!"Unable to parse @{marker.name} binding."
      (judgeField marker surroundings progress.collected site)
  else progress

/-- Judge one use of a listener's annotation. -/
def listenerStep (surroundings : Surroundings) (kind : ListenerKind) (progress : Progress)
    (site : Site) : Progress :=
  if isComplete site.member then
    progress.take site s!"Unable to generate view binder for @{kind.marker}."
      (judgeListener kind surroundings progress.collected site)
  else progress

/-- Judge all uses of a field marker. -/
def fieldPass (surroundings : Surroundings) (progress : Progress) (marker : FieldMarker) :
    Progress :=
  (surroundings.world.annotated marker.name).foldl (fieldStep surroundings marker) progress

/-- Judge all uses of a listener's annotation. -/
def listenerPass (surroundings : Surroundings) (progress : Progress) (kind : ListenerKind) :
    Progress :=
  (surroundings.world.annotated kind.marker).foldl (listenerStep surroundings kind) progress

/-- What is known while the uses of a round are judged. -/
def surroundingsOf (environment : Environment) (kinds : List ListenerKind) : Surroundings :=
  ⟨environment.world, SymbolTable.ofRound environment (Marker.names kinds)⟩

/-- Collect all bindings of a round. -/
def collect (environment : Environment) (kinds : List ListenerKind) : Progress :=
  let surroundings := surroundingsOf environment kinds
  let fields := FieldMarker.all.foldl (fieldPass surroundings) ⟨.empty, []⟩
  kinds.foldl (listenerPass surroundings) fields

end Collection
end Companion
