import Companion.Proofs.Collection.Without
import Companion.Proofs.Processing.Targets

/-!
# Packages do not interfere

A round may declare a class in a package of its own that no other class mentions.  Whatever that
class binds and whatever is wrong with it, the other classes get the same targets with the same
parents as in a round without it, and the same is reported on their members.
-/

namespace Companion

namespace Universe

theorem name_ne_of_mem_superclassesOf {world : Universe} {hidden name : String}
    (unmentioned : world.IsUnmentioned hidden) (other : name ≠ hidden) {ancestor : TypeDecl}
    (above : ancestor ∈ world.superclassesOf name) : ancestor.name ≠ hidden := by
  rintro rfl
  rw [← superclassesOf_without unmentioned other] at above
  simpa [get?_without] using get?_name_of_mem_superclassesOf above

end Universe

namespace Processing

variable {environment : Environment} {hidden package : String}

theorem diagnostics_of_isAcyclic (acyclic : environment.world.IsAcyclic)
    (kinds : List ListenerKind) :
    (collect environment kinds).diagnostics =
      (Collection.reportsIn environment kinds).map Collection.Report.diagnostic := by
  obtain ⟨linked, link_eq⟩ := Linking.exists_linked_of_isAcyclic acyclic kinds
    (Collection.areOfSources_collect environment kinds).bound
  rw [collect, bindingsOf, link_eq, Collection.diagnostics_collect]

/-- A round and the one without a class that stands alone agree on the other classes. -/
theorem agree_without (alone : environment.world.IsAlone hidden package)
    (collected : Collected) :
    Linking.Agree environment.world (environment.world.without hidden) collected
      (collected.without [hidden]) fun name => name ≠ hidden where
  above := fun _ other _ above =>
    Universe.name_ne_of_mem_superclassesOf alone.unmentioned other above
  chains := fun _ other => Universe.superclassesOf_without alone.unmentioned other
  targets := fun _ other => (Collected.get?_targets_without other).symm
  bound := fun _ other => by simp [Linking.mem_bound_without, other]

theorem areLinked_without (acyclic : environment.world.IsAcyclic) (hidden : String)
    (kinds : List ListenerKind) :
    Linking.AreLinked (environment.world.without hidden) kinds
      (Collection.collect (environment.without hidden) kinds).collected
      (collect (environment.without hidden) kinds).targets :=
  @areLinked_of_isAcyclic (environment.without hidden) acyclic.without kinds

/-- The linked targets of the other classes are the same without the class. -/
theorem get?_without_of_isAlone (acyclic : environment.world.IsAcyclic)
    (alone : environment.world.IsAlone hidden package) (kinds : List ListenerKind) {name : String}
    (other : name ≠ hidden) :
    (collect environment kinds).targets.get? name =
      (collect (environment.without hidden) kinds).targets.get? name := by
  have areLinked := areLinked_of_isAcyclic acyclic kinds
  have areOtherLinked := areLinked_without acyclic hidden kinds
  rw [Collection.collected_collect_without alone kinds] at areOtherLinked
  exact (agree_without alone _).get?_eq acyclic areLinked areOtherLinked other

/-- The class has no target when it is left out. -/
theorem get?_without_self (acyclic : environment.world.IsAcyclic)
    (kinds : List ListenerKind) :
    (collect (environment.without hidden) kinds).targets.get? hidden = none := by
  have areLinked := areLinked_without acyclic hidden kinds
  rw [Table.get?_eq_none_iff, areLinked.keys.mem_iff]
  intro present
  obtain ⟨decl, known, -⟩ := (Collection.areOfSources_collect _ kinds).source hidden present
  rw [Environment.without, Universe.get?_without, if_pos rfl] at known
  cases known

variable {round grown : Round} {decl : TypeDecl} {extended : Environment}

/-- A round with one class more, in a package of its own and mentioned by no other class, has the
same targets otherwise, and its reports are those of the other round with the reports on members
of that class between them. -/
theorem exists_collect_of_adds (adds : round.Adds grown decl)
    (accepted : grown.environment = .ok extended) (acyclic : extended.world.IsAcyclic)
    (kinds : List ListenerKind) :
    ∃ environment, round.environment = .ok environment ∧
      (∀ name set, (collect environment kinds).targets.get? name = some set ↔
        name ≠ decl.name ∧ (collect extended kinds).targets.get? name = some set) ∧
      (collect extended kinds).diagnostics =
        (Collection.reportsIn extended kinds).map Collection.Report.diagnostic ∧
      (collect environment kinds).diagnostics =
        ((Collection.reportsIn extended kinds).filter fun report =>
          report.use.site.decl.name ≠ decl.name).map Collection.Report.diagnostic := by
  have alone := adds.isAlone accepted
  refine ⟨_, adds.environment_eq accepted, ?_, diagnostics_of_isAcyclic acyclic kinds, ?_⟩
  · intro name set
    by_cases same : name = decl.name
    · subst same
      simp [get?_without_self acyclic kinds]
    · simp [same, get?_without_of_isAlone acyclic alone kinds same]
  · rw [← Collection.reportsIn_without alone kinds]
    exact @diagnostics_of_isAcyclic (extended.without decl.name) acyclic.without kinds

/-- Two classes with a text each, one of which extends the other. -/
def hostRound : Round where
  options := .empty
  types := [(TypeDecl.ofName .classType "a.Base").withMember
      (SymbolTable.markedField "title" "BindString" "a.R.string.title" 1),
    ((TypeDecl.ofName .classType "a.Host").withMember
      (SymbolTable.markedField "name" "BindString" "a.R.string.name" 2)).extending
        (.named "a.Base")]
  indices := []

/-- A class in another package that extends one of these.  It uses a number of theirs for another
constant, and a marker that does not fit its field. -/
def guest : TypeDecl :=
  (((TypeDecl.ofName .classType "b.Guest").withMember
    (SymbolTable.markedField "other" "BindString" "b.R.string.other" 1)).withMember
      (SymbolTable.markedField "shade" "BindColor" "b.R.color.shade" 2)).extending
        (.named "a.Host")

/-- The round with that class between the others. -/
def guestRound : Round where
  options := .empty
  types := hostRound.types.take 1 ++ guest :: hostRound.types.drop 1
  indices := []

theorem adds_guestRound : hostRound.Adds guestRound guest where
  types := ⟨_, _, (List.take_append_drop 1 hostRound.types).symm, rfl⟩
  options := rfl
  indices := rfl
  isNew := by decide
  notPlatform := by decide
  package := by decide
  unmentioned := by decide

theorem exists_collect_guestRound :
    hostRound.Adds guestRound guest ∧ ∃ extended environment set,
      guestRound.environment = .ok extended ∧ extended.world.IsAcyclic ∧
      hostRound.environment = .ok environment ∧
      (collect extended ListenerKind.standard).targets.get? "a.Host" = some set ∧
      (collect environment ListenerKind.standard).targets.get? "a.Host" = some set ∧
      (collect extended ListenerKind.standard).diagnostics ≠ [] ∧
      (collect environment ListenerKind.standard).diagnostics = [] := by
  have facts : guestRound.environment.toOption.map (fun extended =>
      (decide extended.world.IsAcyclic,
        (Collection.collect extended ListenerKind.standard).collected.targets.contains "a.Host",
        (Collection.reportsIn extended ListenerKind.standard).map fun report =>
          report.use.site.decl.name)) = some (true, true, ["b.Guest"]) := by
    decide +kernel
  obtain ⟨extended, accepted, facts⟩ := exists_ok_of_map_toOption facts
  simp only [Prod.mk.injEq, decide_eq_true_eq] at facts
  obtain ⟨acyclic, isTarget, reported⟩ := facts
  obtain ⟨environment, otherAccepted, targets_iff, diagnostics_eq, otherDiagnostics_eq⟩ :=
    exists_collect_of_adds adds_guestRound accepted acyclic ListenerKind.standard
  obtain ⟨set, found⟩ := exists_linked_of_collect acyclic (Table.contains_iff.1 isTarget)
  obtain ⟨report, reports_eq, onGuest⟩ := List.map_eq_singleton_iff.1 reported
  refine ⟨adds_guestRound, extended, environment, set, accepted, acyclic, otherAccepted, found,
    (targets_iff _ _).2 ⟨by decide, found⟩, ?_, ?_⟩
  · simp [diagnostics_eq, reports_eq]
  · have guestName : guest.name = "b.Guest" := rfl
    simp [otherDiagnostics_eq, reports_eq, onGuest, guestName]

end Processing
end Companion
