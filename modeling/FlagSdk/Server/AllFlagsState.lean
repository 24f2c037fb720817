import FlagSdk.Evaluation.Locality
import FlagSdk.Evaluation.WellFormed

/-! The client of the server SDK: the evaluation of one flag by its key, and the state of all flags at once. Both go
through the evaluator, and both are for the same context. -/

namespace FlagSdk.Data

def Flag.isExperimentationEnabled (flag : Flag) : Option EvaluationReason → Bool
  | none => false
  | some reason =>
    reason.inExperiment ||
      match reason.kind with
      | .kFallthrough => flag.trackEventsFallthrough
      | .kRuleMatch => (reason.ruleIndex.bind fun index => flag.rules[index.toNat]?).any Flag.Rule.trackEvents
      | _ => false

def EvaluationReason.ofErrorKind (errorKind : EvaluationReason.ErrorKind) : EvaluationReason :=
  make .kError (some errorKind) none none none false .kNone

end FlagSdk.Data

namespace FlagSdk.Server
open Lib Data Evaluation

/-- The options of a call, one bit for each. -/
abbrev Options := UInt8

namespace Options

def includeReasons : Options := 1
def detailsOnlyForTrackedFlags : Options := 2
def clientSideOnly : Options := 4

def isSet (options flag : Options) : Bool := options &&& flag = flag

end Options

structure FlagState where
  version : UInt64
  variation : Option Int64
  reason : Option EvaluationReason
  trackEvents : Bool
  trackReason : Bool
  debugEventsUntilDate : Option UInt64
  omitDetails : Bool
  prerequisites : List String
  deriving DecidableEq

structure AllFlagsState where
  valid : Bool
  evaluations : OrdMap String Value
  flagsState : OrdMap String FlagState
  deriving DecidableEq

def AllFlagsState.invalid : AllFlagsState := ⟨false, .empty, .empty⟩

structure AllFlagsStateBuilder where
  flagsState : OrdMap String FlagState
  evaluations : OrdMap String Value

namespace AllFlagsStateBuilder

def empty : AllFlagsStateBuilder := ⟨.empty, .empty⟩

def isDebuggingEnabled (now : UInt64) (debugEventsUntil : Option UInt64) : Bool := debugEventsUntil.any (now < ·)

/-- What is kept of the state of a flag under some options. -/
def withOptions (options : Options) (now : UInt64) (flag : FlagState) : FlagState :=
  let omits := Options.isSet options .detailsOnlyForTrackedFlags && !flag.trackEvents && !flag.trackReason &&
    !isDebuggingEnabled now flag.debugEventsUntilDate
  let forgets := !Options.isSet options .includeReasons && !flag.trackReason
  { flag with
    omitDetails := omits || flag.omitDetails
    reason := if forgets then none else flag.reason }

def addFlag (builder : AllFlagsStateBuilder) (options : Options) (now : UInt64) (key : String) (value : Value)
    (flag : FlagState) : AllFlagsStateBuilder :=
  ⟨builder.flagsState.emplace key (withOptions options now flag), builder.evaluations.emplace key value⟩

def build (builder : AllFlagsStateBuilder) : AllFlagsState := ⟨true, builder.evaluations, builder.flagsState⟩

end AllFlagsStateBuilder

structure FeatureRequest where
  key : String
  context : Context
  flag : Option Flag
  detail : EvaluationDetail
  defaultValue : Value
  prereqOf : Option String
  deriving DecidableEq

def FeatureRequest.ofPrerequisite (event : PrerequisiteEvent) : FeatureRequest :=
  ⟨event.key, event.context, some event.flag, ⟨event.value, event.variationIndex, event.reason⟩, .null,
    some event.prereqOf⟩

structure ClientImpl (World : Type) where
  evaluator : Evaluator World
  eventProcessor : Bool

namespace ClientImpl
variable {World : Type} (client : ClientImpl World)

def initialized : Bool := client.evaluator.source.initialized

variable (context : Context)

/-- An evaluation with fuel that is always enough. -/
def evaluate (eventProcessor : Bool) (flag : Flag) (world : World) :
    Option (EvaluationDetail × EvaluationState World) :=
  Evaluation.evaluate client.evaluator context eventProcessor (depthBound client.evaluator flag) flag
    (.initial world)

def preEvaluationChecks : Option EvaluationReason.ErrorKind :=
  if !client.initialized then some .kClientNotReady
  else if !context.valid then some .kUserNotSpecified
  else none

/-- The detail of an error, or the detail of an evaluation, with the default for a value that is missing. -/
def postEvaluation (defaultValue : Value) : EvaluationReason.ErrorKind ⊕ EvaluationDetail → EvaluationDetail
  | .inl errorKind => ⟨defaultValue, none, some (.ofErrorKind errorKind)⟩
  | .inr detail =>
    ⟨if detail.variationIndex.isNone then defaultValue else detail.value, detail.variationIndex, detail.reason⟩

structure Answer (World : Type) where
  detail : EvaluationDetail
  world : World
  events : List FeatureRequest

variable (key : String) (defaultValue : Value)

def answer (flag : Option Flag) (detail : EvaluationDetail) (world : World) (before : List PrerequisiteEvent) :
    Answer World where
  detail := detail
  world := world
  events := before.map .ofPrerequisite ++
    if client.eventProcessor then [⟨key, context, flag, detail, defaultValue, none⟩] else []

def variationInternal (world : World) : Option (Answer World) :=
  match client.preEvaluationChecks context with
  | some errorKind =>
    some (client.answer context key defaultValue none (postEvaluation defaultValue (.inl errorKind)) world [])
  | none =>
    match findFlag client.evaluator key with
    | none =>
      some (client.answer context key defaultValue none (postEvaluation defaultValue (.inl .kFlagNotFound)) world [])
    | some flag =>
      (client.evaluate context client.eventProcessor flag world).map fun (result, state) =>
        client.answer context key defaultValue (some flag) (postEvaluation defaultValue (.inr result)) state.world
          state.events

def jsonVariationDetail (world : World) : Option (Answer World) :=
  client.variationInternal context key defaultValue world

/-- The recorder keeps the direct prerequisites of a flag. -/
def takePrerequisites (events : List PrerequisiteEvent) : List String :=
  (events.filter fun event => event.prereqOf = key).map PrerequisiteEvent.key

variable (options : Options)

def selected (descriptor : ItemDescriptor Flag) : Option Flag :=
  descriptor.item.filter fun flag =>
    !(Options.isSet options .clientSideOnly && !flag.clientSideAvailability.usingEnvironmentId)

/-- One round of the loop; the clock is read when a flag is added. -/
def listFlag (now : String → UInt64) (progress : AllFlagsStateBuilder × World) (entry : String × ItemDescriptor Flag) :
    Option (AllFlagsStateBuilder × World) :=
  match selected options entry.2 with
  | none => some progress
  | some flag =>
    (client.evaluate context true flag progress.2).map fun (detail, state) =>
      let inExperiment := flag.isExperimentationEnabled detail.reason
      (progress.1.addFlag options (now entry.1) entry.1 detail.value
        { version := flag.version
          variation := detail.variationIndex.map UInt64.toInt64
          reason := detail.reason
          trackEvents := flag.trackEvents || inExperiment
          trackReason := inExperiment
          debugEventsUntilDate := flag.debugEventsUntilDate
          omitDetails := false
          prerequisites := takePrerequisites entry.1 state.events }, state.world)

/-- The flags come in the order in which the map of all flags is gone through. -/
def allFlagsState (now : String → UInt64) (allFlags : List (String × ItemDescriptor Flag)) (world : World) :
    Option (AllFlagsState × World) :=
  if !client.initialized then some (.invalid, world)
  else
    (allFlags.foldlM (client.listFlag context options now) (.empty, world)).map fun (builder, world) =>
      (builder.build, world)

/-- The store of big segments always answers the same, as the source does. -/
def Unchanging : Prop :=
  ∀ store, client.evaluator.bigSegmentStore = some store →
    ∀ key world other, (store.getMembership key world).1 = (store.getMembership key other).1

/-- Whenever the flag is evaluated for the context, with or without an event processor, this is the detail. -/
def Evaluates (flag : Flag) (detail : EvaluationDetail) : Prop :=
  ∀ eventProcessor world, ∃ state, client.evaluate context eventProcessor flag world = some (detail, state)

/-- What is listed about a flag is what its evaluation gives. -/
structure Represents (context : Context) (options : Options) (flag : Flag) (state : FlagState) (value : Value) :
    Prop where
  detail : ∃ detail, client.Evaluates context flag detail ∧ value = detail.value ∧
    state.variation = detail.variationIndex.map UInt64.toInt64 ∧
    (Options.isSet options .includeReasons = true → state.reason = detail.reason)

/-- The builder lists the selected ones of the flags that were gone through, and no others. -/
structure Lists (context : Context) (options : Options) (done : List (String × ItemDescriptor Flag))
    (builder : AllFlagsStateBuilder) : Prop where
  present : ∀ entry ∈ done, ∀ flag, selected options entry.2 = some flag →
    ∃ state value, builder.flagsState.find entry.1 = some state ∧ builder.evaluations.find entry.1 = some value ∧
      client.Represents context options flag state value
  only : ∀ key, (builder.flagsState.find key).isSome = true →
    ∃ entry ∈ done, entry.1 = key ∧ (selected options entry.2).isSome = true
  together : ∀ key, (builder.evaluations.find key).isSome = (builder.flagsState.find key).isSome

/-- A flag is listed when it is live and selected. -/
def Listed (key : String) : Prop :=
  ∃ descriptor, client.evaluator.source.flags.find key = some descriptor ∧
    (selected options descriptor).isSome = true

/-- The value, the variation and, if reasons are included, the reason of one detail are those of another. -/
def SameDetail (detail other : EvaluationDetail) : Prop :=
  detail.value = other.value ∧
    detail.variationIndex.map UInt64.toInt64 = other.variationIndex.map UInt64.toInt64 ∧
    (Options.isSet options .includeReasons = true → detail.reason = other.reason)

/-- However it is evaluated for the context, the flag has no variation. -/
def Unvaried (flag : Flag) : Prop :=
  ∀ eventProcessor world, ∃ detail state, client.evaluate context eventProcessor flag world = some (detail, state) ∧
    detail.variationIndex = none

/-- Each flag that is listed has the value, the variation and, if reasons are included, the reason that its own
evaluation returns, and the flags that are listed are those that should be, each of them once. -/
def Agrees : Prop :=
  ∀ now allFlags world, allFlags.Perm client.evaluator.source.flags.entries →
    ∃ states after, client.allFlagsState context options now allFlags world = some (states, after) ∧
      (states.flagsState.entries.map Prod.fst).Nodup ∧
      (∀ key, key ∈ states.flagsState.entries.map Prod.fst ↔ client.Listed options key) ∧
      ∀ key state, states.flagsState.find key = some state →
        ∃ value, states.evaluations.find key = some value ∧
          ∀ later, ∃ answer, client.jsonVariationDetail context key .null later = some answer ∧
            value = answer.detail.value ∧
            state.variation = answer.detail.variationIndex.map UInt64.toInt64 ∧
            (Options.isSet options .includeReasons = true → state.reason = answer.detail.reason)

section
variable {client} {context} {options : Options} {now : String → UInt64}

theorem Unchanging.sameBelow (unchanging : client.Unchanging) (flag : Flag) :
    SameBelow (fun _ _ => True) client.evaluator client.evaluator flag where
  platform := rfl
  flags _ _ := rfl
  segments _ _ := rfl
  bigSegments := by
    cases store : client.evaluator.bigSegmentStore with
    | none => trivial
    | some store' =>
      intro key world other _
      refine ⟨?_, trivial⟩
      rw [unchanging store' store key world other]
      exact ⟨rfl, fun _ _ => rfl⟩

theorem Lists.empty : client.Lists context options [] .empty where
  present _ member := absurd member List.not_mem_nil
  only _ found := absurd found Bool.false_ne_true
  together _ := rfl

variable {done : List (String × ItemDescriptor Flag)} {builder : AllFlagsStateBuilder}
  {entry : String × ItemDescriptor Flag}

theorem Lists.skip (lists : client.Lists context options done builder) (unselected : selected options entry.2 = none) :
    client.Lists context options (done ++ [entry]) builder where
  present other member flag wanted := by
    rcases List.mem_append.1 member with before | here
    · exact lists.present other before flag wanted
    · rw [List.mem_singleton.1 here, unselected] at wanted
      cases wanted
  only key found := by
    obtain ⟨other, member, rest⟩ := lists.only key found
    exact ⟨other, List.mem_append_left _ member, rest⟩
  together := lists.together

variable {key : String} {detail : EvaluationDetail}

theorem Lists.unlisted (lists : client.Lists context options done builder)
    (fresh : ∀ other ∈ done, other.1 ≠ key) :
    builder.flagsState.find key = none ∧ builder.evaluations.find key = none := by
  have absent : (builder.flagsState.find key).isSome = false := by
    rw [Bool.eq_false_iff]
    intro found
    obtain ⟨other, member, same, _⟩ := lists.only key found
    exact fresh other member same
  have unevaluated : (builder.evaluations.find key).isSome = false := by
    rw [lists.together, absent]
  exact ⟨Option.isNone_iff_eq_none.1 (Option.isSome_eq_false_iff.1 absent),
    Option.isNone_iff_eq_none.1 (Option.isSome_eq_false_iff.1 unevaluated)⟩

variable {flag : Flag}

theorem Lists.add (lists : client.Lists context options done builder) (wanted : selected options entry.2 = some flag)
    (fresh : ∀ other ∈ done, other.1 ≠ entry.1) (clock : UInt64) {state : FlagState} {value : Value}
    (represents : client.Represents context options flag (AllFlagsStateBuilder.withOptions options clock state) value) :
    client.Lists context options (done ++ [entry]) (builder.addFlag options clock entry.1 value state) := by
  obtain ⟨absent, unevaluated⟩ := lists.unlisted fresh
  have states (key : String) : (builder.addFlag options clock entry.1 value state).flagsState.find key =
      (builder.flagsState.find key).or
        (if key = entry.1 then some (AllFlagsStateBuilder.withOptions options clock state) else none) :=
    OrdMap.find_emplace _ _ _ _
  have values (key : String) : (builder.addFlag options clock entry.1 value state).evaluations.find key =
      (builder.evaluations.find key).or (if key = entry.1 then some value else none) := OrdMap.find_emplace _ _ _ _
  refine ⟨?_, ?_, ?_⟩
  · intro other member otherFlag otherWanted
    rcases List.mem_append.1 member with before | here
    · obtain ⟨otherState, otherValue, found, evaluated, rest⟩ := lists.present other before otherFlag otherWanted
      refine ⟨otherState, otherValue, ?_, ?_, rest⟩
      · rw [states, found, Option.some_or]
      · rw [values, evaluated, Option.some_or]
    · have same := List.mem_singleton.1 here
      subst same
      cases Option.some.inj (wanted.symm.trans otherWanted)
      refine ⟨_, value, ?_, ?_, represents⟩
      · rw [states, if_pos rfl, absent, Option.none_or]
      · rw [values, if_pos rfl, unevaluated, Option.none_or]
  · intro key found
    by_cases here : key = entry.1
    · exact ⟨entry, List.mem_append_right _ (List.mem_singleton_self _), here.symm, by rw [wanted]; rfl⟩
    · rw [states, if_neg here, Option.or_none] at found
      obtain ⟨other, member, rest⟩ := lists.only key found
      exact ⟨other, List.mem_append_left _ member, rest⟩
  · intro key
    rw [states, values, Option.isSome_or, Option.isSome_or, lists.together]
    by_cases here : key = entry.1
    · rw [if_pos here, if_pos here]
      rfl
    · rw [if_neg here, if_neg here]
      rfl

theorem postEvaluation_of_wellFormed (wellFormed : WellFormed flag detail) :
    postEvaluation .null (.inr detail) = detail := by
  have value : (if detail.variationIndex.isNone then Value.null else detail.value) = detail.value := by
    cases unindexed : detail.variationIndex with
    | none => exact (wellFormed.null_of_unindexed unindexed).symm
    | some index => rfl
  rw [postEvaluation, value]

theorem findFlag_of_selected {descriptor : ItemDescriptor Flag}
    (filed : client.evaluator.source.flags.find key = some descriptor)
    (wanted : selected options descriptor = some flag) : findFlag client.evaluator key = some flag := by
  rw [findFlag, MemoryStore.getFlag, filed]
  exact (Option.filter_eq_some_iff.1 wanted).1

def Specified (detail : EvaluationDetail) : Prop :=
  ∀ reason, detail.reason = some reason → reason.errorKind ≠ some .kUserNotSpecified

theorem admits_specified : Admits fun _ => Specified where
  malformed _ _ same := by
    rw [← Option.some.inj same]
    decide
  variation own _ _ _ same := by
    rw [← Option.some.inj same, own.noError]
    exact (Option.some_ne_none _).symm
  off own _ _ _ same := by
    rw [← Option.some.inj same, own.noError]
    exact (Option.some_ne_none _).symm
  inherited specified _ := specified

/-- That no context was specified is not found out by an evaluation. -/
theorem specified_evaluate {evaluator : Evaluator World} {eventProcessor : Bool} (fuel : Nat) :
    StateRelation.Gives Specified (Evaluation.evaluate evaluator context eventProcessor fuel flag) := by
  refine admits_specified.gives_evaluate ?_ fuel
  intro detail status specified reason same
  obtain ⟨before, given, rfl⟩ := Option.map_eq_some_iff.1 same
  exact specified before given

theorem Evaluates.sameDetail_iff [Nonempty World] (evaluates : client.Evaluates context flag detail) :
    SameDetail options detail ⟨.null, none, some (.ofErrorKind .kUserNotSpecified)⟩ ↔
      Options.isSet options .includeReasons = false ∧ detail.variationIndex = none := by
  obtain ⟨world⟩ := ‹Nonempty World›
  obtain ⟨state, returned⟩ := evaluates true world
  have wellFormed : WellFormed flag detail := wellFormed_evaluate _ _ _ _ returned
  have specified := specified_evaluate _ _ _ _ returned
  constructor
  · rintro ⟨-, unindexed, reason⟩
    exact ⟨Bool.eq_false_iff.2 fun included => specified _ (reason included) rfl,
      Option.map_eq_none_iff.1 unindexed⟩
  · rintro ⟨left, unindexed⟩
    refine ⟨wellFormed.null_of_unindexed unindexed, by rw [unindexed], fun included => ?_⟩
    exact absurd included (Bool.eq_false_iff.1 left)

variable (unchanging : client.Unchanging)
include unchanging

theorem exists_evaluates (context : Context) (flag : Flag) : ∃ detail, client.Evaluates context flag detail := by
  rcases isEmpty_or_nonempty World with empty | ⟨⟨start⟩⟩
  · exact ⟨.ofReason .off, fun _ world => empty.elim world⟩
  · have sends (otherProcessor : Bool) : Sends (fun _ _ => True) false otherProcessor := fun _ _ _ _ => trivial
    obtain ⟨detail, state, _, _, first, _⟩ :=
      (unchanging.sameBelow flag).returns context (sends false) trivial start start trivial
    refine ⟨detail, fun eventProcessor world => ?_⟩
    obtain ⟨same, _, otherState, _, again, other⟩ :=
      (unchanging.sameBelow flag).returns context (sends eventProcessor) trivial start world trivial
    have details := (first _ le_rfl).symm.trans (again _ le_rfl)
    cases details
    exact ⟨otherState, other _ le_rfl⟩

theorem listFlag_lists {done : List (String × ItemDescriptor Flag)} {builder : AllFlagsStateBuilder}
    (lists : client.Lists context options done builder) (world : World) {entry : String × ItemDescriptor Flag}
    (fresh : ∀ other ∈ done, other.1 ≠ entry.1) :
    ∃ next after, client.listFlag context options now (builder, world) entry = some (next, after) ∧
      client.Lists context options (done ++ [entry]) next := by
  unfold listFlag
  cases wanted : selected options entry.2 with
  | none => exact ⟨builder, world, rfl, lists.skip wanted⟩
  | some flag =>
    obtain ⟨detail, evaluates⟩ := exists_evaluates unchanging context flag
    obtain ⟨state, returned⟩ := evaluates true world
    dsimp only
    rw [returned, Option.map_some]
    refine ⟨_, _, rfl, lists.add wanted fresh (now entry.1) ⟨detail, evaluates, rfl, rfl, ?_⟩⟩
    intro included
    simp [AllFlagsStateBuilder.withOptions, included]

theorem foldlM_listFlag (world : World) (allFlags : List (String × ItemDescriptor Flag))
    (distinct : allFlags.Pairwise fun first second => first.1 ≠ second.1) :
    ∃ builder after, allFlags.foldlM (client.listFlag context options now) (.empty, world) = some (builder, after) ∧
      client.Lists context options allFlags builder := by
  induction allFlags using List.reverseRecOn with
  | nil => exact ⟨.empty, world, rfl, .empty⟩
  | append_singleton allFlags entry ih =>
    obtain ⟨before, _, apart⟩ := List.pairwise_append.1 distinct
    obtain ⟨builder, after, returned, lists⟩ := ih before
    obtain ⟨next, last, listed, listsNext⟩ := @listFlag_lists _ _ context options now unchanging _ _ lists after entry
      fun other member => apart other member entry (List.mem_singleton_self _)
    refine ⟨next, last, ?_, listsNext⟩
    rw [List.foldlM_append, returned]
    simp only [bind, Option.bind, List.foldlM_cons, listed, List.foldlM_nil]
    rfl

variable (initialized : client.initialized = true)
include initialized

theorem allFlagsState_lists {allFlags : List (String × ItemDescriptor Flag)}
    (order : allFlags.Perm client.evaluator.source.flags.entries) (world : World) :
    ∃ builder after, client.allFlagsState context options now allFlags world = some (builder.build, after) ∧
      client.Lists context options allFlags builder := by
  have distinct : allFlags.Pairwise fun first second => first.1 ≠ second.1 :=
    (order.pairwise_iff fun different => different.symm).2
      (client.evaluator.source.flags.ascending.imp fun below => below.ne)
  obtain ⟨builder, after, returned, lists⟩ :=
    @foldlM_listFlag _ _ context options now unchanging world allFlags distinct
  refine ⟨builder, after, ?_, lists⟩
  rw [allFlagsState, initialized, returned]
  rfl

/-- What is asked of each flag that is listed. -/
theorem agrees_of_each
    (each : ∀ entry ∈ client.evaluator.source.flags.entries, ∀ flag, selected options entry.2 = some flag →
      ∀ detail, client.Evaluates context flag detail → ∀ later,
        ∃ answer, client.jsonVariationDetail context entry.1 .null later = some answer ∧
          SameDetail options detail answer.detail) : client.Agrees context options := by
  intro now allFlags world order
  obtain ⟨builder, after, returned, lists⟩ :=
    @allFlagsState_lists _ _ context options now unchanging initialized _ order world
  have filed (entry : String × ItemDescriptor Flag) :
      entry ∈ allFlags ↔ client.evaluator.source.flags.find entry.1 = some entry.2 :=
    order.mem_iff.trans (OrdMap.find_eq_some_iff _).symm
  refine ⟨builder.build, after, returned, ?_, ?_, ?_⟩
  · exact List.pairwise_map.2 (builder.flagsState.ascending.imp fun below => below.ne)
  · intro key
    constructor
    · intro member
      obtain ⟨⟨_, state⟩, listed, rfl⟩ := List.mem_map.1 member
      have found := (OrdMap.find_eq_some_iff builder.flagsState).2 listed
      obtain ⟨entry, gone, same, wanted⟩ := lists.only _ (Option.isSome_of_eq_some found)
      exact ⟨entry.2, same ▸ (filed entry).1 gone, wanted⟩
    · intro listed
      obtain ⟨descriptor, found, wanted⟩ := listed
      obtain ⟨flag, wantedFlag⟩ := Option.isSome_iff_exists.1 wanted
      obtain ⟨state, _, stored, _⟩ :=
        lists.present (key, descriptor) ((filed (key, descriptor)).2 found) flag wantedFlag
      exact List.mem_map.2 ⟨(key, state), (OrdMap.find_eq_some_iff builder.flagsState).1 stored, rfl⟩
  · intro key state found
    obtain ⟨entry, gone, rfl, wanted⟩ := lists.only key (Option.isSome_of_eq_some found)
    obtain ⟨flag, wantedFlag⟩ := Option.isSome_iff_exists.1 wanted
    obtain ⟨same, value, stored, evaluated, detail, evaluates, sameValue, sameVariation, sameReason⟩ :=
      lists.present entry gone flag wantedFlag
    cases Option.some.inj (found.symm.trans stored)
    refine ⟨value, evaluated, fun later => ?_⟩
    obtain ⟨answer, answered, value', variation', reason'⟩ :=
      each entry (order.mem_iff.1 gone) flag wantedFlag detail evaluates later
    exact ⟨answer, answered, sameValue.trans value', sameVariation.trans variation',
      fun included => (sameReason included).trans (reason' included)⟩

theorem Agrees.each [Nonempty World] (agrees : client.Agrees context options) {entry : String × ItemDescriptor Flag}
    (member : entry ∈ client.evaluator.source.flags.entries) {flag : Flag}
    (wanted : selected options entry.2 = some flag) :
    ∃ detail, client.Evaluates context flag detail ∧ ∀ later,
      ∃ answer, client.jsonVariationDetail context entry.1 .null later = some answer ∧
        SameDetail options detail answer.detail := by
  obtain ⟨world⟩ := ‹Nonempty World›
  obtain ⟨builder, after, returned, lists⟩ :=
    @allFlagsState_lists _ _ context options (fun _ => 0) unchanging initialized _ (.refl _) world
  obtain ⟨states, _, listed, _, _, same⟩ := agrees (fun _ => 0) _ world (.refl _)
  cases returned.symm.trans listed
  obtain ⟨state, value, stored, evaluated, detail, evaluates, sameValue, sameVariation, sameReason⟩ :=
    lists.present entry member flag wanted
  obtain ⟨value', evaluated', answers⟩ := same entry.1 state stored
  cases Option.some.inj (evaluated.symm.trans evaluated')
  refine ⟨detail, evaluates, fun later => ?_⟩
  obtain ⟨answer, answered, given, variation, reason⟩ := answers later
  exact ⟨answer, answered, sameValue.symm.trans given, sameVariation.symm.trans variation,
    fun included => (sameReason included).symm.trans (reason included)⟩

omit unchanging in
theorem jsonVariationDetail_of_evaluates (valid : context.valid = true)
    (found : findFlag client.evaluator key = some flag) (evaluates : client.Evaluates context flag detail)
    (world : World) :
    ∃ answer, client.jsonVariationDetail context key .null world = some answer ∧ answer.detail = detail := by
  obtain ⟨state, returned⟩ := evaluates client.eventProcessor world
  have passed : client.preEvaluationChecks context = none := by
    rw [preEvaluationChecks, initialized, valid]
    rfl
  have wellFormed : WellFormed flag detail := wellFormed_evaluate _ _ _ _ returned
  unfold jsonVariationDetail variationInternal
  rw [passed]
  rw [found]
  dsimp only
  rw [returned]
  exact ⟨_, rfl, postEvaluation_of_wellFormed wellFormed⟩

omit unchanging in
theorem jsonVariationDetail_of_invalid (invalid : ¬context.valid = true) (key : String) (world : World) :
    ∃ answer, client.jsonVariationDetail context key .null world = some answer ∧
      answer.detail = ⟨.null, none, some (.ofErrorKind .kUserNotSpecified)⟩ := by
  have refused : client.preEvaluationChecks context = some .kUserNotSpecified := by
    rw [preEvaluationChecks, initialized, Bool.eq_false_iff.2 invalid]
    rfl
  unfold jsonVariationDetail variationInternal
  rw [refused]
  exact ⟨_, rfl, rfl⟩

theorem agrees_of_valid (valid : context.valid = true) : client.Agrees context options := by
  refine agrees_of_each unchanging initialized fun entry member flag wanted detail evaluates later => ?_
  have live := findFlag_of_selected ((OrdMap.find_eq_some_iff _).2 member) wanted
  obtain ⟨answer, answered, given⟩ := jsonVariationDetail_of_evaluates initialized valid live evaluates later
  exact ⟨answer, answered, given ▸ ⟨rfl, rfl, fun _ => rfl⟩⟩

theorem Agrees.each_of_invalid [Nonempty World] (agrees : client.Agrees context options)
    (invalid : ¬context.valid = true) :
    ∀ entry ∈ client.evaluator.source.flags.entries, ∀ flag, selected options entry.2 = some flag →
      Options.isSet options .includeReasons = false ∧ client.Unvaried context flag := by
  intro entry member flag wanted
  obtain ⟨detail, evaluates, answers⟩ := agrees.each unchanging initialized member wanted
  obtain ⟨answer, answered, same⟩ := answers (Classical.arbitrary World)
  obtain ⟨refused, given, told⟩ :=
    jsonVariationDetail_of_invalid initialized invalid entry.1 (Classical.arbitrary World)
  cases answered.symm.trans given
  rw [told] at same
  obtain ⟨leftOut, unindexed⟩ := evaluates.sameDetail_iff.1 same
  refine ⟨leftOut, fun eventProcessor world => ?_⟩
  obtain ⟨state, returned⟩ := evaluates eventProcessor world
  exact ⟨detail, state, returned, unindexed⟩

end

def banner : Flag := { bareFlag "banner" 1 with variations := [.bool true], offVariation := some 0 }

def bannerClient : ClientImpl Unit where
  evaluator :=
    { platform := ⟨fun _ => .replicate 20 0, fun _ _ => false, fun _ => none, fun _ => 0, fun _ => 0⟩
      source := ⟨.ofEntries [("banner", .ofFlag banner)], .empty, true⟩
      bigSegmentStore := none }
  eventProcessor := false

theorem filed_bannerClient : FiledUnderOwnKey bannerClient.evaluator :=
  filedUnderOwnKey_of_entries (by decide) (by decide)

theorem unchanging_bannerClient : bannerClient.Unchanging := fun _ absent => nomatch absent

/-- The flag is listed with its variation, and refused when it is asked for. -/
theorem bannerClient_disagrees : ¬ bannerClient.Agrees ⟨.empty⟩ 0 := by
  intro agrees
  obtain ⟨states, after, returned, _, _, same⟩ := agrees (fun _ => 0) [("banner", .ofFlag banner)] () (.refl _)
  have computed : bannerClient.allFlagsState ⟨.empty⟩ 0 (fun _ => 0) [("banner", .ofFlag banner)] () =
      some (⟨true, .ofEntries [("banner", .bool true)],
        .ofEntries [("banner", ⟨1, some 0, none, false, false, none, false, []⟩)]⟩, ()) := by
    decide
  cases returned
  obtain ⟨value, _, answers⟩ := same "banner" _ rfl
  obtain ⟨answer, answered, _, sameVariation, _⟩ := answers ()
  cases answered
  cases sameVariation

/-- The state of all flags agrees with the flags one by one exactly if the context is valid or no flag is listed, or
if reasons are left out and no flag that is listed has a variation for the context. -/
theorem allFlagsState_agrees_iff {World : Type} [Nonempty World] (client : ClientImpl World) (context : Context)
    (options : Options) (initialized : client.initialized = true) (unchanging : client.Unchanging) :
    client.Agrees context options ↔
      context.valid = true ∨ (∀ key, ¬client.Listed options key) ∨
        Options.isSet options .includeReasons = false ∧
          ∀ entry ∈ client.evaluator.source.flags.entries, ∀ flag, selected options entry.2 = some flag →
            client.Unvaried context flag := by
  constructor
  · intro agrees
    by_cases valid : context.valid = true
    · exact .inl valid
    by_cases empty : ∀ key, ¬client.Listed options key
    · exact .inr (.inl empty)
    have each := agrees.each_of_invalid unchanging initialized valid
    obtain ⟨key, listed⟩ := not_forall_not.1 empty
    obtain ⟨descriptor, found, wanted⟩ := listed
    obtain ⟨flag, wantedFlag⟩ := Option.isSome_iff_exists.1 wanted
    refine .inr (.inr ⟨?_, fun entry member flag wanted => (each entry member flag wanted).2⟩)
    exact (each (key, descriptor) ((OrdMap.find_eq_some_iff _).1 found) flag wantedFlag).1
  · rintro (valid | empty | ⟨leftOut, unvaried⟩)
    · exact agrees_of_valid unchanging initialized valid
    · refine agrees_of_each unchanging initialized fun entry member flag wanted => ?_
      exact absurd ⟨entry.2, (OrdMap.find_eq_some_iff _).2 member, Option.isSome_of_eq_some wanted⟩ (empty entry.1)
    · by_cases valid : context.valid = true
      · exact agrees_of_valid unchanging initialized valid
      refine agrees_of_each unchanging initialized fun entry member flag wanted detail evaluates later => ?_
      obtain ⟨other, state, returned, unindexed⟩ := unvaried entry member flag wanted true later
      obtain ⟨_, again⟩ := evaluates true later
      cases returned.symm.trans again
      obtain ⟨answer, answered, told⟩ := jsonVariationDetail_of_invalid initialized valid entry.1 later
      exact ⟨answer, answered, told ▸ evaluates.sameDetail_iff.2 ⟨leftOut, unindexed⟩⟩

/-- Of the flags that are available on the client side there is none, and nothing disagrees. -/
theorem allFlagsState_agrees_clientSideOnly :
    bannerClient.initialized = true ∧ bannerClient.Unchanging ∧ bannerClient.Agrees ⟨.empty⟩ .clientSideOnly := by
  refine ⟨rfl, unchanging_bannerClient, ?_⟩
  refine (allFlagsState_agrees_iff bannerClient ⟨.empty⟩ .clientSideOnly rfl unchanging_bannerClient).2 (.inr (.inl ?_))
  rintro key ⟨descriptor, found, wanted⟩
  have only : (key, descriptor) ∈ [("banner", ItemDescriptor.ofFlag banner)] := (OrdMap.find_eq_some_iff _).1 found
  cases List.mem_singleton.1 only
  cases wanted

theorem allFlagsState_disagrees :
    ¬ ∀ (World : Type) (client : ClientImpl World) (context : Context) (options : Options),
      client.initialized = true → FiledUnderOwnKey client.evaluator → client.Unchanging →
        client.Agrees context options := by
  intro agrees
  exact bannerClient_disagrees (agrees Unit bannerClient ⟨.empty⟩ 0 rfl filed_bannerClient unchanging_bannerClient)

end ClientImpl

end FlagSdk.Server
