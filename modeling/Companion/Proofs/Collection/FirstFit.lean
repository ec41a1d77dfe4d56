import Companion.Proofs.Collection.Matching

/-!
# Parameters in turn

The parameters of a method go one after the other, and each takes the first argument of the callback
that fits it and that none before it has taken.  When one finds none, the report on the method says
what those before it have taken.
-/

namespace Companion
namespace Collection

variable {world : Universe} {arguments : List String} {taken : List Nat}
  {parameter : SourceType} {parameters : List SourceType} {bound : List BoundParameter}

/-- Whether a callback has an argument at a position that a parameter can receive. -/
def Fits (world : Universe) (arguments : List String) (parameter : SourceType)
    (position : Nat) : Prop :=
  ∃ argument, arguments[position]? = some argument ∧
    isAssignable world parameter.upperBound argument = true

/-- Whether a position is the first one that fits a parameter and is not taken. -/
structure IsFirstFree (world : Universe) (arguments : List String) (taken : List Nat)
    (parameter : SourceType) (position : Nat) : Prop where
  fits : Fits world arguments parameter position
  free : position ∉ taken
  /-- The positions before it that fit are taken. -/
  first : ∀ earlier < position, Fits world arguments parameter earlier → earlier ∈ taken

/-- Whether each of some parameters, in order, finds a position that fits it and is not taken, when
each takes the first one that it finds. -/
def EachFinds (world : Universe) (arguments : List String) : List Nat → List SourceType → Prop
  | _, [] => True
  | taken, parameter :: rest => ∃ position, IsFirstFree world arguments taken parameter position ∧
    EachFinds world arguments (position :: taken) rest

/-- Whether some parameters, from the first one on, are bound to the positions that they take in
turn. -/
structure AreInTurn (world : Universe) (arguments : List String) (parameters : List SourceType)
    (bound : List BoundParameter) : Prop where
  /-- Each takes the first position that fits it and that none before it has taken, and is bound
  with its own type. -/
  takes : ∀ index item, bound[index]? = some item → ∃ parameter,
    parameters[index]? = some parameter ∧
      IsFirstFree world arguments ((bound.take index).map BoundParameter.position) parameter
        item.position ∧
      CodeType.ofSource world parameter.upperBound = .ok item.type
  /-- No position is taken twice. -/
  distinct : (bound.map BoundParameter.position).Nodup
  /-- The callback has all of them. -/
  inside : ∀ item ∈ bound, item.position < arguments.length

/-- The line about a parameter in the report on a method. -/
def reportLine (index : Nat) (parameter : SourceType) (outcome : String) : String :=
  s!"\n\n  Parameter #{index + 1}: {parameter.display}\n    {outcome}"

/-- What the report on a method says when some of its parameters, from the first one on, are bound
and the next one finds no argument. -/
def Describes (marker : String) (site : Site) (parameters : List SourceType) (callback : Callback)
    (bound : List BoundParameter) (report : String) : Prop :=
  ∃ lines : List String, lines.length = parameters.length ∧
    report = s!"Unable to match @{marker} method arguments. {site.location}" ++
      String.join lines ++
      s!"\n\nMethods may have up to {callback.parameters.length} parameter(s):\n" ++
      String.join (callback.parameters.map fun argument => s!"\n  {argument}") ++
      "\n\nThese may be listed in any order but will be searched for from top to bottom." ∧
    ∀ index parameter, parameters[index]? = some parameter →
      (∀ item, bound[index]? = some item → lines[index]? = some (reportLine index parameter
        s!"matched listener parameter #{item.position + 1}: {item.type.display}")) ∧
      (bound.length ≤ index → lines[index]? = some (reportLine index parameter
        "did not match any listener parameters"))

theorem fits_iff {position : Nat} :
    Fits world arguments parameter position ↔ position < arguments.length ∧
      (arguments[position]?).any (isAssignable world parameter.upperBound) = true := by
  rw [Fits, Option.any_eq_true]
  refine ⟨?_, And.right⟩
  rintro ⟨argument, found, assignable⟩
  exact ⟨(List.getElem?_eq_some_iff.1 found).1, argument, found, assignable⟩

theorem freePosition?_eq_some_iff {position : Nat} :
    freePosition? world arguments taken parameter.upperBound = some position ↔
      IsFirstFree world arguments taken parameter position := by
  rw [freePosition?, List.find?_range_eq_some, List.mem_range]
  constructor
  · rintro ⟨chosen, inside, first⟩
    rw [Bool.and_eq_true, decide_eq_true_iff] at chosen
    refine ⟨fits_iff.2 ⟨inside, chosen.2⟩, chosen.1, fun earlier before fits => ?_⟩
    have passed := first earlier before
    rw [(fits_iff.1 fits).2] at passed
    simpa using passed
  · rintro ⟨fits, free, first⟩
    obtain ⟨inside, assignable⟩ := fits_iff.1 fits
    refine ⟨by simp [free, assignable], inside, fun earlier before => ?_⟩
    by_cases old : earlier ∈ taken
    · simp [old]
    · have unfit := mt (first earlier before) old
      rw [fits_iff, not_and, Bool.not_eq_true] at unfit
      simp [unfit (Nat.lt_trans before inside)]

theorem freePosition?_eq_none_iff :
    freePosition? world arguments taken parameter.upperBound = none ↔
      ∀ position, Fits world arguments parameter position → position ∈ taken := by
  rw [freePosition?, List.find?_range_eq_none]
  constructor
  · intro passed position fits
    obtain ⟨inside, assignable⟩ := fits_iff.1 fits
    have passed := passed position inside
    rw [assignable] at passed
    simpa using passed
  · intro allTaken position inside
    by_cases old : position ∈ taken
    · simp [old]
    · have unfit := mt (allTaken position) old
      rw [fits_iff, not_and, Bool.not_eq_true] at unfit
      simp [unfit inside]

theorem IsFirstFree.congr {other : List Nat} {position : Nat}
    (same : ∀ position, position ∈ other ↔ position ∈ taken)
    (chosen : IsFirstFree world arguments taken parameter position) :
    IsFirstFree world arguments other parameter position where
  fits := chosen.fits
  free := mt (same position).1 chosen.free
  first earlier before fits := (same earlier).2 (chosen.first earlier before fits)

/-- A type can be written for each parameter. -/
def AreWritten (world : Universe) (parameters : List SourceType) : Prop :=
  ∀ parameter ∈ parameters, ∃ type, CodeType.ofSource world parameter.upperBound = .ok type

theorem areWritten_of_isOk (written : ∀ parameter ∈ parameters,
    (CodeType.ofSource world parameter.upperBound).isOk = true) : AreWritten world parameters :=
  fun parameter listed => exists_ok_of_isOk (written parameter listed)

theorem exists_matchFrom (written : AreWritten world parameters) (taken : List Nat) :
    ∃ bound, matchFrom world arguments taken parameters = .ok bound ∧
      (bound.length = parameters.length ↔ EachFinds world arguments taken parameters) := by
  induction parameters generalizing taken with
  | nil => exact ⟨[], rfl, by simp [EachFinds]⟩
  | cons parameter rest ih =>
      cases found : freePosition? world arguments taken parameter.upperBound with
      | none =>
          refine ⟨[], by rw [matchFrom, found], ?_⟩
          refine iff_of_false (by simp) ?_
          rintro ⟨position, chosen, -⟩
          exact chosen.free (freePosition?_eq_none_iff.1 found position chosen.fits)
      | some position =>
          obtain ⟨type, type_eq⟩ := written parameter List.mem_cons_self
          obtain ⟨bound, matched, complete_iff⟩ := ih
            (fun other later => written other (List.mem_cons_of_mem parameter later))
            (position :: taken)
          refine ⟨⟨position, type⟩ :: bound, ?_, ?_⟩
          · rw [matchFrom, found]
            simp [type_eq, matched, bind, Except.bind, pure, Except.pure]
          · rw [List.length_cons, List.length_cons, Nat.succ_inj, complete_iff]
            constructor
            · exact fun finds => ⟨position, freePosition?_eq_some_iff.1 found, finds⟩
            · rintro ⟨other, chosen, finds⟩
              rw [freePosition?_eq_some_iff.2 chosen] at found
              cases found
              exact finds

/-- Each bound parameter takes its position after those before it have taken theirs. -/
theorem isFirstFree_of_matchFrom (matched : matchFrom world arguments taken parameters = .ok bound)
    {index : Nat} {item : BoundParameter} (found : bound[index]? = some item) :
    ∃ parameter, parameters[index]? = some parameter ∧
      IsFirstFree world arguments (taken ++ (bound.take index).map BoundParameter.position)
        parameter item.position ∧
      CodeType.ofSource world parameter.upperBound = .ok item.type := by
  induction parameters generalizing taken bound index with
  | nil =>
      cases matched
      simp at found
  | cons parameter rest ih =>
      rcases matchFrom_cons matched with
        ⟨-, rfl⟩ | ⟨position, type, others, free, type_eq, othersMatched, rfl⟩
      · simp at found
      · cases index with
        | zero =>
            cases found
            refine ⟨parameter, rfl, ?_, type_eq⟩
            simpa using freePosition?_eq_some_iff.1 free
        | succ index =>
            obtain ⟨later, isLater, chosen, later_eq⟩ := ih othersMatched found
            refine ⟨later, isLater, chosen.congr fun other => ?_, later_eq⟩
            simp only [List.take_succ_cons, List.map_cons, List.mem_append, List.mem_cons]
            exact or_left_comm.trans or_assoc.symm

/-- The first parameter that is not bound finds every position that fits it taken. -/
theorem exists_stuck_of_matchFrom
    (matched : matchFrom world arguments taken parameters = .ok bound)
    (short : bound.length < parameters.length) :
    ∃ parameter, parameters[bound.length]? = some parameter ∧ ∀ position,
      Fits world arguments parameter position →
        position ∈ taken ++ bound.map BoundParameter.position := by
  induction parameters generalizing taken bound with
  | nil => simp at short
  | cons parameter rest ih =>
      rcases matchFrom_cons matched with
        ⟨stuck, rfl⟩ | ⟨position, type, others, free, -, othersMatched, rfl⟩
      · exact ⟨parameter, rfl, by simpa using freePosition?_eq_none_iff.1 stuck⟩
      · obtain ⟨later, isLater, allTaken⟩ := ih othersMatched (Nat.lt_of_succ_lt_succ short)
        refine ⟨later, isLater, fun other fits => ?_⟩
        have old := allTaken other fits
        rw [List.mem_append, List.mem_cons, or_assoc] at old
        rw [List.map_cons, List.mem_append, List.mem_cons]
        exact or_left_comm.1 old

theorem areInTurn_of_matchFrom (matched : matchFrom world arguments [] parameters = .ok bound) :
    AreInTurn world arguments parameters bound where
  takes _ _ found := isFirstFree_of_matchFrom matched found
  distinct := (nodup_position_of_matchFrom matched).1
  inside item listed := by
    obtain ⟨index, found⟩ := List.mem_iff_getElem?.1 listed
    obtain ⟨_, -, chosen, -⟩ := isFirstFree_of_matchFrom matched found
    exact (fits_iff.1 chosen.fits).1

theorem describes_mismatchReport (marker : String) (site : Site) (parameters : List SourceType)
    (bound : List BoundParameter) (callback : Callback) :
    Describes marker site parameters callback bound
      (mismatchReport marker site parameters bound callback) := by
  refine ⟨parameters.zipIdx.map fun item => parameterReport item.2 item.1 bound[item.2]?,
    by simp, ?_, fun index parameter present => ?_⟩
  · unfold mismatchReport
    dsimp only
  · rw [List.getElem?_map, List.getElem?_zipIdx, present, Option.map_some, Option.map_some,
      Nat.zero_add]
    refine ⟨fun item found => congrArg some ?_, fun beyond => congrArg some ?_⟩
    · unfold parameterReport reportLine
      dsimp only
      rw [found]
    · unfold parameterReport reportLine
      dsimp only
      rw [List.getElem?_eq_none beyond]

/-- Parameters match the arguments of a callback if each finds one in turn, and then they are bound
to what they take.  Otherwise the report says what is taken before the first one that finds none. -/
theorem matchParameters_of_areWritten {marker : String} {site : Site} {callback : Callback}
    (written : AreWritten world parameters) :
    (∃ outcome, matchParameters world marker site parameters callback = .ok outcome) ∧
    ((∃ bound, matchParameters world marker site parameters callback = .ok (.ok bound)) ↔
      EachFinds world callback.parameters [] parameters) ∧
    (∀ bound, matchParameters world marker site parameters callback = .ok (.ok bound) →
      bound.length = parameters.length ∧
        AreInTurn world callback.parameters parameters bound) ∧
    ∀ report, matchParameters world marker site parameters callback = .ok (.error report) →
      ∃ bound parameter, AreInTurn world callback.parameters parameters bound ∧
        parameters[bound.length]? = some parameter ∧
        (∀ position, Fits world callback.parameters parameter position →
          position ∈ bound.map BoundParameter.position) ∧
        Describes marker site parameters callback bound report := by
  obtain ⟨found, matched, complete_iff⟩ := @exists_matchFrom world callback.parameters parameters
    written []
  have length_le := length_le_of_matchFrom matched
  have inTurn := areInTurn_of_matchFrom matched
  by_cases short : found.length < parameters.length
  · have outcome_eq : matchParameters world marker site parameters callback =
        .ok (.error (mismatchReport marker site parameters found callback)) := by
      simp [matchParameters, matched, short, bind, Except.bind, pure, Except.pure]
    obtain ⟨parameter, isNext, allTaken⟩ := exists_stuck_of_matchFrom matched short
    rw [outcome_eq]
    refine ⟨⟨_, rfl⟩, ?_, by simp, ?_⟩
    · exact iff_of_false (by simp) (mt complete_iff.2 (Nat.ne_of_lt short))
    · rintro _ ⟨⟩
      exact ⟨found, parameter, inTurn, isNext, by simpa using allTaken,
        describes_mismatchReport marker site parameters found callback⟩
  · have complete : found.length = parameters.length := by omega
    have outcome_eq : matchParameters world marker site parameters callback =
        .ok (.ok found) := by
      simp [matchParameters, matched, short, bind, Except.bind, pure, Except.pure]
    rw [outcome_eq]
    refine ⟨⟨_, rfl⟩, iff_of_true ⟨found, rfl⟩ (complete_iff.1 complete), ?_, by simp⟩
    rintro _ ⟨⟩
    exact ⟨complete, inTurn⟩

/-- Some views of the platform. -/
def someViews : Universe :=
  [Platform.plainClass "android.view.View",
    Platform.subclass "android.widget.Button" "android.view.View",
    Platform.subclass "android.widget.AdapterView" "android.view.View",
    Platform.genericSubclass "android.widget.ListView" "android.widget.AdapterView"
      "android.widget.ListAdapter"].foldl .put .empty

/-- A callback for clicks on items. -/
def itemClick : Callback :=
  .method "onItemClick" ["android.widget.AdapterView<?>", "android.view.View", "int", "long"]

/-- A method for clicks on items. -/
def itemClicked (parameters : List SourceType) : Site :=
  ⟨.ofName .classType "a.Host", .method "click" .void parameters⟩

/-- Parameters that go to the last, the first and the second argument. -/
def shuffledParameters : List SourceType :=
  [.primitive .long, .typeVariable "T" (.named "android.widget.ListView"),
    .named "android.view.View"]

/-- Parameters of which the last fits the second argument only, which another one takes. -/
def crowdedParameters : List SourceType :=
  [.named "android.widget.ListView", .named "android.view.View", .named "android.widget.Button"]

theorem matchParameters_itemClick :
    AreWritten someViews shuffledParameters ∧
      EachFinds someViews itemClick.parameters [] shuffledParameters ∧
      (∃ bound, AreInTurn someViews itemClick.parameters shuffledParameters bound ∧
        bound.map BoundParameter.position = [3, 0, 1]) ∧
      AreWritten someViews crowdedParameters ∧
      ¬EachFinds someViews itemClick.parameters [] crowdedParameters ∧
      ∃ bound report, AreInTurn someViews itemClick.parameters crowdedParameters bound ∧
        Describes "OnItemClick" (itemClicked crowdedParameters) crowdedParameters itemClick bound
          report := by
  have shuffledWritten : AreWritten someViews shuffledParameters :=
    areWritten_of_isOk (by decide +kernel)
  have crowdedWritten : AreWritten someViews crowdedParameters :=
    areWritten_of_isOk (by decide +kernel)
  obtain ⟨found, shuffled_eq, read⟩ : ∃ found, matchParameters someViews "OnItemClick"
      (itemClicked shuffledParameters) shuffledParameters itemClick = .ok found ∧
      found.toOption.map (List.map BoundParameter.position) = some [3, 0, 1] :=
    exists_ok_of_map_toOption (by decide +kernel)
  obtain ⟨bound, rfl, positions⟩ := exists_ok_of_map_toOption read
  obtain ⟨found, crowded_eq, unmatched⟩ : ∃ found, matchParameters someViews "OnItemClick"
      (itemClicked crowdedParameters) crowdedParameters itemClick = .ok found ∧
      found.isOk = false :=
    exists_ok_of_map_toOption (by decide +kernel)
  obtain ⟨-, shuffled_iff, inTurn, -⟩ := @matchParameters_of_areWritten someViews
    shuffledParameters "OnItemClick" (itemClicked shuffledParameters) itemClick shuffledWritten
  obtain ⟨-, crowded_iff, -, reported⟩ := @matchParameters_of_areWritten someViews
    crowdedParameters "OnItemClick" (itemClicked crowdedParameters) itemClick crowdedWritten
  refine ⟨shuffledWritten, shuffled_iff.1 ⟨bound, shuffled_eq⟩,
    ⟨bound, (inTurn bound shuffled_eq).2, positions⟩, crowdedWritten, ?_, ?_⟩
  · intro finds
    obtain ⟨other, other_eq⟩ := crowded_iff.2 finds
    rw [crowded_eq] at other_eq
    cases other_eq
    cases unmatched
  · cases found with
    | ok bound => cases unmatched
    | error report =>
        obtain ⟨bound, parameter, crowdedInTurn, -, -, described⟩ := reported report crowded_eq
        exact ⟨bound, report, crowdedInTurn, described⟩

end Collection
end Companion
