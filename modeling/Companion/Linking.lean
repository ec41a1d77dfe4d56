import Companion.Collection.Basic

/-!
# Linking targets

The companion of a class extends the companion of its nearest superclass that has one: a class
bound in this round, or a class that was compiled earlier with its markers.  Targets are linked
one by one; a target whose parent is still to be linked goes to the end of the queue.
-/

namespace Companion

/-- A companion that was compiled earlier. -/
structure ExternalCompanion where
  /-- The companion. -/
  companion : ClassName
  /-- Whether its constructor takes a view. -/
  needsView : Bool
  deriving DecidableEq, Repr

/-- The targets whose parents could not be found, in the order of the queue. -/
structure UnresolvedParents where
  /-- The names of their classes. -/
  pending : List String
  deriving DecidableEq, Repr

/-- The targets that are stuck, in words. -/
def UnresolvedParents.message (error : UnresolvedParents) : String :=
  let stuck := Text.joined ", " error.pending
  s!"Superclass links of {stuck} could not be resolved."

/-- Linked targets by the names of their classes, in the order of linking. -/
abbrev LinkedTargets := Table String LinkedTarget

namespace Linking

/-- The markers on the members of a class, in order. -/
def markersOf (decl : TypeDecl) : List String :=
  decl.members.flatMap fun member => member.annotations.map AnnotationUse.simpleName

/-- Whether the companion of a class takes a view, when its class has one; a companion over one
that takes a view does so too. -/
def needsViewOf? (kinds : List ListenerKind) (parentNeedsView : Bool) (decl : TypeDecl) :
    Option Bool :=
  if (markersOf decl).any (Marker.needsView kinds) then some true
  else if (markersOf decl).any Marker.isResource then some parentNeedsView
  else none

/-- The companion of a class that was compiled earlier. -/
def externalOf? (kinds : List ListenerKind) (parentNeedsView : Bool) (decl : TypeDecl) :
    Option ExternalCompanion :=
  if decl.origin = .classpath then
    (needsViewOf? kinds parentNeedsView decl).map
      (ExternalCompanion.mk (companionName decl.package decl.simpleNames))
  else none

/-- Companions compiled earlier, by the names of their classes. -/
abbrev Externals := Table String ExternalCompanion

/-- The superclasses below the first one that is bound or known, and whether that one is known to
take a view. -/
def unvisited (externals : Externals) (bound : List String) :
    List TypeDecl → List TypeDecl × Bool
  | [] => ([], false)
  | ancestor :: rest =>
    if ancestor.name ∈ bound then ([], false)
    else
      match externals.get? ancestor.name with
      | some known => ([], known.needsView)
      | none =>
        let (others, needsView) := unvisited externals bound rest
        (ancestor :: others, needsView)

/-- Enter superclasses, from the base downward. -/
def enter (kinds : List ListenerKind) (state : Externals × Bool) (ancestor : TypeDecl) :
    Externals × Bool :=
  match externalOf? kinds state.2 ancestor with
  | some external =>
    (state.1.insert ancestor.name external, state.2 || external.needsView)
  | none => state

/-- Enter the superclasses of one class. -/
def enterAbove (world : Universe) (kinds : List ListenerKind) (bound : List String)
    (externals : Externals) (name : String) : Externals :=
  match world.get? name with
  | none => externals
  | some decl =>
    let (ancestors, needsView) := unvisited externals bound (world.superclasses decl)
    (ancestors.reverse.foldl (enter kinds) (externals, needsView)).1

/-- The companions compiled earlier above all targets. -/
def externalsOf (world : Universe) (kinds : List ListenerKind) (collected : Collected) :
    Externals :=
  collected.targets.keys.foldl (enterAbove world kinds collected.bound) .empty

/-- What is known while targets are linked. -/
structure Known where
  /-- The types of the round. -/
  world : Universe
  /-- The classes bound in the round. -/
  bound : List String
  /-- The companions compiled earlier. -/
  externals : Externals

/-- The nearest superclass of a class that has a companion. -/
def parentName? (known : Known) (name : String) : Option String :=
  (known.world.get? name).bind fun decl =>
    ((known.world.superclasses decl).find? fun ancestor =>
      ancestor.name ∈ known.bound || known.externals.contains ancestor.name).map TypeDecl.name

/-- The link of a class to its parent: none, one that is known, or one still to be made. -/
inductive Link where
  | ready (parent : Option ParentLink)
  | waiting
  deriving DecidableEq, Repr

/-- The link of a class, as far as it is known. -/
def linkOf (known : Known) (linked : LinkedTargets) (name : String) : Link :=
  match parentName? known name with
  | none => .ready none
  | some parent =>
    match linked.get? parent with
    | some target => .ready (some (target.asParent parent))
    | none =>
      match known.externals.get? parent with
      | some external => .ready (some (.classpath external.companion external.needsView))
      | none => .waiting

/-- Link the targets of a queue.  When every target has been put off since the last one was linked,
none of them can be. -/
def run (known : Known) (linked : LinkedTargets) (deferred : Nat) :
    List (String × Target) → Except UnresolvedParents LinkedTargets
  | [] => .ok linked
  | (name, target) :: rest =>
    match linkOf known linked name with
    | .ready parent => run known (linked.insert name ⟨target, parent⟩) 0 rest
    | .waiting =>
      let queue := rest ++ [(name, target)]
      if queue.length < deferred + 1 then .error ⟨queue.map Prod.fst⟩
      else run known linked (deferred + 1) queue
termination_by queue => (queue.length, queue.length + 1 - deferred)
decreasing_by
  · exact Prod.Lex.left _ _ (by simp)
  · have length_eq : (rest ++ [(name, target)]).length = ((name, target) :: rest).length := by simp
    rw [length_eq]
    refine Prod.Lex.right _ ?_
    have : ¬(rest ++ [(name, target)]).length < deferred + 1 := by assumption
    simp only [List.length_append, List.length_cons, List.length_nil] at *
    omega

/-- Link all targets of a round. -/
def link (world : Universe) (kinds : List ListenerKind) (collected : Collected) :
    Except UnresolvedParents LinkedTargets :=
  run ⟨world, collected.bound, externalsOf world kinds collected⟩ .empty 0
    collected.targets.entries

end Linking
end Companion
