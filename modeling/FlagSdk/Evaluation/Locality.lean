import FlagSdk.Evaluation.Meaning

/-! What an evaluation depends on. Only the flags that are reached through prerequisites are looked up, only the
segments that the rules of these flags reach, and only the memberships in these segments. Two evaluators that have
the same there cannot be told apart. -/

namespace FlagSdk.Evaluation
open Lib Lib.StateRelation Lib.GuardedRecursion Data Relation

section
variable {World : Type} (evaluator : Evaluator World) (flag : Flag)

/-- The flag itself, its prerequisites, their prerequisites, and so on. -/
def ReachedFlag : Flag → Prop := ReflTransGen (FlagCalls evaluator) flag

def ReachedSegment (segment : Segment) : Prop :=
  ∃ item named, ReachedFlag evaluator flag item ∧ FlagNames evaluator item named ∧
    ReflTransGen (SegmentCalls evaluator) named segment

def NeedsFlag (key : String) : Prop :=
  ∃ item, ReachedFlag evaluator flag item ∧ ∃ prerequisite ∈ item.prerequisites, prerequisite.key = key

def NeedsSegment (key : String) : Prop :=
  (∃ item, ReachedFlag evaluator flag item ∧ ∃ rule ∈ item.rules, NamesKey rule.clauses key) ∨
    ∃ segment, ReachedSegment evaluator flag segment ∧ ∃ rule ∈ segment.rules, NamesKey rule.clauses key

def NeedsMembership (segmentRef : String) : Prop :=
  ∃ segment generation, ReachedSegment evaluator flag segment ∧ segment.unbounded = true ∧
    segment.generation = some generation ∧ segmentRef = makeBigSegmentRef segment generation

end

section
variable {World Other : Type} (refs : String → Prop) (Worlds : World → Other → Prop)

def SameMembership (membership other : Membership) : Prop :=
  ∀ segmentRef, refs segmentRef → membership.checkMembership segmentRef = other.checkMembership segmentRef

structure SameAnswer (result other : GetMembershipResult) : Prop where
  status : result.status = other.status
  membership : SameMembership refs result.membership other.membership

/-- Asked in related worlds, the two stores of big segments give the same answers, and leave related worlds. -/
def SameStores : Option (BigSegmentStoreWrapper World) → Option (BigSegmentStoreWrapper Other) → Prop
  | none, none => True
  | some store, some otherStore =>
    ∀ key world other, Worlds world other →
      SameAnswer refs (store.getMembership key world).1 (otherStore.getMembership key other).1 ∧
        Worlds (store.getMembership key world).2 (otherStore.getMembership key other).2
  | some _, none => False
  | none, some _ => False

/-- The two evaluators have the same wherever the evaluation of the flag can look. -/
structure SameBelow (first : Evaluator World) (second : Evaluator Other) (flag : Flag) : Prop where
  platform : first.platform = second.platform
  flags : ∀ key, NeedsFlag first flag key → findFlag first key = findFlag second key
  segments : ∀ key, NeedsSegment first flag key →
    findSegment first (.string key) = findSegment second (.string key)
  bigSegments : SameStores (NeedsMembership first flag) Worlds first.bigSegmentStore second.bigSegmentStore

/-- States that look the same to the evaluation. The events that were sent are only seen from outside. -/
structure SameState (Events : List PrerequisiteEvent → List PrerequisiteEvent → Prop) (state : EvaluationState World)
    (other : EvaluationState Other) : Prop where
  bigSegmentsStatus : state.bigSegmentsStatus = other.bigSegmentsStatus
  memberships : ∀ key, Option.Rel (SameMembership refs) (state.memberships.find key) (other.memberships.find key)
  storeErrorKeys : state.storeErrorKeys = other.storeErrorKeys
  world : Worlds state.world other.world
  events : Events state.events other.events
  log : state.log = other.log

end

theorem rel_cases {α β : Type} {R : α → β → Prop} {mine : Option α} {other : Option β}
    (related : Option.Rel R mine other) :
    mine = none ∧ other = none ∨
      ∃ value otherValue, mine = some value ∧ other = some otherValue ∧ R value otherValue := by
  cases related with
  | none => exact .inl ⟨rfl, rfl⟩
  | some both => exact .inr ⟨_, _, rfl, rfl, both⟩

variable {segment : Segment} (key : String)

section
variable {World Other : Type} {refs : String → Prop} {Worlds : World → Other → Prop}
  {Events : List PrerequisiteEvent → List PrerequisiteEvent → Prop} {first : Evaluator World}
  {second : Evaluator Other} {context : Context} {ending : Ending}

theorem sameState_initial {world : World} {other : Other} (worlds : Worlds world other) (unsent : Events [] []) :
    SameState refs Worlds Events (.initial world) (.initial other) where
  bigSegmentsStatus := rfl
  memberships _ := .none
  storeErrorKeys := rfl
  world := worlds
  events := unsent
  log := rfl

theorem related_recordBigSegmentsStatus (status : EvaluationReason.BigSegmentsStatus) :
    Related ending (SameState refs Worlds Events) Eq (recordBigSegmentsStatus status)
      (recordBigSegmentsStatus status) := by
  intro state other same
  refine ⟨rfl, ?_⟩
  dsimp only
  rw [same.bigSegmentsStatus]
  split
  · exact { same with bigSegmentsStatus := rfl }
  · exact same

theorem related_storeGetMembership {store : BigSegmentStoreWrapper World} {otherStore : BigSegmentStoreWrapper Other}
    (stores : SameStores refs Worlds (some store) (some otherStore)) (key : String) :
    Related ending (SameState refs Worlds Events) (SameAnswer refs) (storeGetMembership store key)
      (storeGetMembership otherStore key) := by
  intro state other same
  obtain ⟨answer, worlds⟩ := stores key state.world other.world same.world
  exact ⟨answer, { same with world := worlds }⟩

theorem related_storeFailed :
    Related ending (SameState refs Worlds Events) Eq
      (modify fun state => { state with storeErrorKeys := insert key state.storeErrorKeys } : Computation World Unit)
      (modify fun state => { state with storeErrorKeys := insert key state.storeErrorKeys } :
        Computation Other Unit) := by
  intro state other same
  exact ⟨rfl, { same with storeErrorKeys := congrArg (insert key) same.storeErrorKeys }⟩

theorem related_remember {membership other : Membership} (same : SameMembership refs membership other) :
    Related ending (SameState refs Worlds Events) Eq
      (modify fun state => { state with memberships := state.memberships.emplace key membership } :
        Computation World Unit)
      (modify fun state => { state with memberships := state.memberships.emplace key other } :
        Computation Other Unit) := by
  intro state otherState sameState
  refine ⟨rfl, { sameState with memberships := ?_ }⟩
  intro wanted
  rw [OrdMap.find_emplace, OrdMap.find_emplace]
  obtain ⟨unknown, otherUnknown⟩ | ⟨_, _, known, otherKnown, held⟩ := rel_cases (sameState.memberships wanted)
  · rw [unknown, otherUnknown]
    by_cases here : wanted = key
    · rw [if_pos here, if_pos here]
      exact .some same
    · rw [if_neg here, if_neg here]
      exact .none
  · rw [known, otherKnown]
    exact .some held

theorem related_queryMembership (stores : SameStores refs Worlds first.bigSegmentStore second.bigSegmentStore)
    (key : String) :
    Related ending (SameState refs Worlds Events) (Option.Rel (SameMembership refs)) (queryMembership first key)
      (queryMembership second key) := by
  unfold queryMembership queryMembershipBy
  cases store : first.bigSegmentStore with
  | none =>
    cases otherStore : second.bigSegmentStore with
    | none => exact (related_recordBigSegmentsStatus _).bind_eq fun _ => .pure .none
    | some _ =>
      rw [store, otherStore] at stores
      exact stores.elim
  | some store' =>
    cases otherStore : second.bigSegmentStore with
    | none =>
      rw [store, otherStore] at stores
      exact stores.elim
    | some otherStore' =>
      rw [store, otherStore] at stores
      apply (related_storeGetMembership stores key).bind
      intro result other answer
      rw [answer.status]
      apply (related_recordBigSegmentsStatus _).bind_eq
      intro _
      split
      · exact (related_storeFailed key).bind_eq fun _ => .pure .none
      · exact (related_remember key answer.membership).bind_eq fun _ => .pure (.some answer.membership)

theorem related_get :
    Related ending (SameState refs Worlds Events) (SameState refs Worlds Events)
      (get : Computation World (EvaluationState World)) (get : Computation Other (EvaluationState Other)) :=
  fun _ _ same => ⟨same, same⟩

theorem related_matchBigSegment (stores : SameStores refs Worlds first.bigSegmentStore second.bigSegmentStore)
    (needed : ∀ generation, segment.generation = some generation → refs (makeBigSegmentRef segment generation)) :
    Related ending (SameState refs Worlds Events) Eq (matchBigSegment first context segment)
      (matchBigSegment second context segment) := by
  unfold matchBigSegment matchBigSegmentBy
  cases generated : segment.generation with
  | none => exact (related_recordBigSegmentsStatus _).bind_eq fun _ => .pure rfl
  | some generation =>
    have matters := needed generation generated
    dsimp only
    split
    · exact .pure rfl
    · apply related_get.bind
      intro state other same
      rw [same.storeErrorKeys]
      split
      · exact .pure rfl
      · obtain ⟨unknown, otherUnknown⟩ | ⟨_, _, known, otherKnown, held⟩ := rel_cases (same.memberships _)
        · rw [unknown, otherUnknown]
          apply (related_queryMembership stores _).bind
          intro membership otherMembership asked
          cases asked with
          | none => exact .pure rfl
          | some sameMembership => exact .pure (sameMembership _ matters)
        · rw [known, otherKnown]
          exact .pure (held _ matters)

end

section
variable {World Other : Type} {Worlds : World → Other → Prop}
    {Events : List PrerequisiteEvent → List PrerequisiteEvent → Prop} {first : Evaluator World}
    {second : Evaluator Other} {context : Context} {eventProcessor otherProcessor : Bool} {flag : Flag}
    {ending : Ending} {refs : String → Prop}

theorem related_malformed (error : Error) :
    Related ending (SameState refs Worlds Events) Eq (malformed key error) (malformed key error) := by
  intro state other same
  exact ⟨rfl, { same with log := congrArg (· ++ [⟨key, error⟩]) same.log }⟩

section
variable (same : SameBelow Worlds first second flag)
include same

theorem SameBelow.agree :
    Agree first second ending (SameState (NeedsMembership first flag) Worlds Events) fun _ => True where
  platform := same.platform
  pure _ := .pure rfl
  malformed key error _ := related_malformed key error

theorem SameBelow.named {clauses : List Clause}
    (needed : ∀ key, NamesKey clauses key → NeedsSegment first flag key) : SameNamed first second clauses := by
  intro clause member segmentMatch value named
  cases isString : value.isString with
  | true =>
    obtain ⟨key, rfl⟩ := Value.eq_string_of_isString isString
    exact same.segments key (needed key ⟨clause, member, segmentMatch, named⟩)
  | false =>
    unfold findSegment
    rw [isString]
    rfl

theorem SameBelow.pathContains (fuel : Nat) (path : Finset String) (reached : ReachedSegment first flag segment) :
    Related .together (SameState (NeedsMembership first flag) Worlds Events) (SameResult fun _ => True)
      (pathContains first context fuel path segment) (pathContains second context fuel path segment) := by
  have closed : ∀ segment named, ReachedSegment first flag segment → SegmentCalls first segment named →
      ReachedSegment first flag named := by
    intro segment named reached calls
    obtain ⟨item, start, reachedItem, names, below⟩ := reached
    exact ⟨item, start, reachedItem, names, below.tail calls⟩
  refine guarded_related (ReachedSegment first flag)
    (fun _ => Related .together (SameState (NeedsMembership first flag) Worlds Events) (SameResult fun _ => True))
    closed ?_ ?_ ?_ fuel path reached
  · intro _ _ _ _
    rfl
  · intro segment
    exact .pure (.error trivial)
  · intro segment ask askOther reached asked
    apply same.agree.lookInto _ _ asked
    · intro rule member
      apply same.named
      intro key names
      exact .inr ⟨segment, reached, rule, member, names⟩
    · intro unbounded
      apply related_matchBigSegment same.bigSegments
      intro generation generated
      exact ⟨segment, generation, reached, unbounded, generated, rfl⟩

end

def Sends (Events : List PrerequisiteEvent → List PrerequisiteEvent → Prop) (eventProcessor otherProcessor : Bool) :
    Prop :=
  ∀ events others event, Events events others →
    Events (if eventProcessor then events ++ [event] else events) (if otherProcessor then others ++ [event] else others)

theorem Sends.alike (sends : Sends Events eventProcessor otherProcessor) :
    SendsAlike World Other ending (SameState refs Worlds Events) eventProcessor otherProcessor := by
  intro event state other states
  have sent := sends state.events other.events event states.events
  cases eventProcessor <;> cases otherProcessor <;> exact ⟨rfl, { states with events := sent }⟩

theorem SameBelow.pathFlag (same : SameBelow Worlds first second flag)
    (sends : Sends Events eventProcessor otherProcessor) (depth fuel : Nat) :
    Related .together (SameState (NeedsMembership first flag) Worlds Events) Eq
      (pathFlag first context eventProcessor (Evaluation.pathContains first context depth ∅) fuel ∅
        (none, flag))
      (pathFlag second context otherProcessor (Evaluation.pathContains second context depth ∅) fuel ∅
        (none, flag)) := by
  have closed : ∀ node next : Option String × Flag, ReachedFlag first flag node.2 → FlagCalls first node.2 next.2 →
      ReachedFlag first flag next.2 := by
    intro node next reached calls
    exact reached.tail calls
  refine guarded_related (fun node : Option String × Flag => ReachedFlag first flag node.2)
    (fun _ => Related .together (SameState (NeedsMembership first flag) Worlds Events) Eq) closed ?_ ?_ ?_ fuel ∅ .refl
  · intro _ _ _ _
    rfl
  · intro node
    exact related_malformed _ _
  · intro node ask askOther reached asked
    apply same.agree.follow sends.alike
    · intro prerequisite member
      exact same.flags prerequisite.key ⟨node.2, reached, prerequisite, member, rfl⟩
    · intro rule member
      apply same.named
      intro key names
      exact .inl ⟨node.2, reached, rule, member, names⟩
    · intro named names
      exact same.pathContains depth ∅ ⟨node.2, named, reached, names, .refl⟩
    · intro needed calls
      exact asked (some node.2.key, needed) calls

theorem related_sameFinish (detail : EvaluationDetail) :
    Related ending (SameState refs Worlds Events) Eq (finish detail) (finish detail) := by
  apply related_get.bind
  intro state other same
  rw [same.bigSegmentsStatus]
  split <;> exact .pure rfl

theorem SameBelow.evaluate (same : SameBelow Worlds first second flag)
    (sends : Sends Events eventProcessor otherProcessor) (fuel : Nat) :
    Related .together (SameState (NeedsMembership first flag) Worlds Events) Eq
      (evaluate first context eventProcessor fuel flag) (evaluate second context otherProcessor fuel flag) := by
  rw [evaluate_eq_path, evaluate_eq_path]
  exact (same.pathFlag sends fuel fuel).bind_eq related_sameFinish

theorem sends_same (eventProcessor : Bool) : Sends Eq eventProcessor eventProcessor := by
  intro events others event same
  rw [same]

/-- With enough fuel, evaluators that have the same wherever the evaluation can look return the same detail. -/
theorem SameBelow.returns (same : SameBelow Worlds first second flag) (context : Context)
    (sends : Sends Events eventProcessor otherProcessor) (unsent : Events [] []) (world : World) (other : Other)
    (worlds : Worlds world other) :
    ∃ detail state otherState, Events state.events otherState.events ∧
      (∀ fuel, depthBound first flag ≤ fuel →
        Evaluation.evaluate first context eventProcessor fuel flag (.initial world) = some (detail, state)) ∧
      ∀ fuel, depthBound second flag ≤ fuel →
        Evaluation.evaluate second context otherProcessor fuel flag (.initial other) =
          some (detail, otherState) := by
  obtain ⟨⟨detail, state⟩, _, returned, _⟩ :=
    (@evaluate_returns _ first context eventProcessor flag (.initial world) (.initial world)
      ⟨rfl, fun _ _ => trivial⟩).of_never
  obtain ⟨⟨otherDetail, otherState⟩, _, otherReturned, _⟩ :=
    (@evaluate_returns _ second context otherProcessor flag (.initial other) (.initial other)
      ⟨rfl, fun _ _ => trivial⟩).of_never
  let fuel := max (depthBound first flag) (depthBound second flag)
  have related := (same.evaluate sends fuel : Related .together _ Eq
    (Evaluation.evaluate first context eventProcessor fuel flag)
    (Evaluation.evaluate second context otherProcessor fuel flag)) (.initial world) (.initial other)
    (sameState_initial worlds unsent)
  rw [evaluate_mono (le_max_left _ _) returned, evaluate_mono (le_max_right _ _) otherReturned] at related
  obtain ⟨sameDetail, sameState⟩ := related
  cases sameDetail
  exact ⟨detail, state, otherState, sameState.events, fun fuel within => evaluate_mono within returned,
    fun fuel within => evaluate_mono within otherReturned⟩

end

/-- Evaluators that have the same flags, segments and memberships wherever the evaluation of a flag can look give the
same detail, and send the same events, whatever else they have. -/
theorem evaluate_local {World Other : Type} {Worlds : World → Other → Prop} (first : Evaluator World)
    (second : Evaluator Other) (context : Context) (eventProcessor : Bool) (flag : Flag)
    (same : SameBelow Worlds first second flag) {world : World} {other : Other} (worlds : Worlds world other) :
    ∃ detail state otherState, state.events = otherState.events ∧
      (∀ fuel, depthBound first flag ≤ fuel →
        evaluate first context eventProcessor fuel flag (.initial world) = some (detail, state)) ∧
      ∀ fuel, depthBound second flag ≤ fuel →
        evaluate second context eventProcessor fuel flag (.initial other) = some (detail, otherState) :=
  same.returns context (sends_same eventProcessor) rfl world other worlds

variable {World : Type} {evaluator : Evaluator World} {flag : Flag}

theorem ReachedFlag.eq_or_found {item : Flag} (reached : ReachedFlag evaluator flag item) :
    item = flag ∨ ∃ key, findFlag evaluator key = some item := by
  rcases reached.cases_tail with same | ⟨before, _, prerequisite, _, found⟩
  · exact .inl same
  · exact .inr ⟨prerequisite.key, found⟩

theorem ReachedSegment.found (reached : ReachedSegment evaluator flag segment) :
    ∃ key, findSegment evaluator (.string key) = some segment := by
  obtain ⟨item, named, _, ⟨_, _, itemNames⟩, below⟩ := reached
  have names : ∃ clauses, Names evaluator clauses segment := by
    rcases below.cases_tail with same | ⟨before, _, _, _, segmentNames⟩
    · exact ⟨_, same ▸ itemNames⟩
    · exact ⟨_, segmentNames⟩
  obtain ⟨_, clause, _, _, value, _, found⟩ := names
  obtain ⟨key, rfl⟩ := eq_string_of_findSegment found
  exact ⟨key, found⟩

variable {key} (Named : String → Prop)

theorem NeedsFlag.of_entries (own : ∀ prerequisite ∈ flag.prerequisites, Named prerequisite.key)
    (flags : ∀ entry ∈ evaluator.source.flags.entries, ∀ item ∈ entry.2.item,
      ∀ prerequisite ∈ item.prerequisites, Named prerequisite.key)
    (needs : NeedsFlag evaluator flag key) : Named key := by
  obtain ⟨item, reached, prerequisite, member, rfl⟩ := needs
  rcases reached.eq_or_found with rfl | ⟨_, found⟩
  · exact own prerequisite member
  · obtain ⟨entry, filed, _, live⟩ := mem_of_find found
    exact flags entry filed item live prerequisite member

theorem NeedsSegment.of_entries
    (own : ∀ rule ∈ flag.rules, ∀ clause ∈ rule.clauses, ∀ value ∈ clause.values, Named value.asString)
    (flags : ∀ entry ∈ evaluator.source.flags.entries, ∀ item ∈ entry.2.item,
      ∀ rule ∈ item.rules, ∀ clause ∈ rule.clauses, ∀ value ∈ clause.values, Named value.asString)
    (segments : ∀ entry ∈ evaluator.source.segments.entries, ∀ item ∈ entry.2.item,
      ∀ rule ∈ item.rules, ∀ clause ∈ rule.clauses, ∀ value ∈ clause.values, Named value.asString)
    (needs : NeedsSegment evaluator flag key) : Named key := by
  rcases needs with ⟨item, reached, rule, member, clause, inRule, _, named⟩ |
    ⟨segment, reached, rule, member, clause, inRule, _, named⟩
  · rcases reached.eq_or_found with rfl | ⟨_, found⟩
    · exact own rule member clause inRule _ named
    · obtain ⟨entry, filed, _, live⟩ := mem_of_find found
      exact flags entry filed item live rule member clause inRule _ named
  · obtain ⟨_, found⟩ := reached.found
    obtain ⟨entry, filed, _, live⟩ := mem_of_find found
    exact segments entry filed segment live rule member clause inRule _ named

def crowded : Evaluator Unit :=
  { sharing with
    source :=
      { sharing.source with
        flags := sharing.source.flags.insert "zoo" (.ofFlag (sharingFlag "zoo" ["app"] ["zone"]))
        segments := sharing.source.segments.insert "zone" (.ofSegment (sharingSegment "zone" ["staff"])) } }

theorem sameBelow_crowded : SameBelow (fun _ _ => True) sharing crowded sharingApp where
  platform := rfl
  flags key needs := by
    have other : key ≠ "zoo" := needs.of_entries (· ≠ "zoo") (by decide) (by decide)
    unfold findFlag MemoryStore.getFlag
    rw [crowded, OrdMap.find_insert, if_neg other]
  segments key needs := by
    have other : key ≠ "zone" := needs.of_entries (· ≠ "zone") (by decide) (by decide) (by decide)
    have same : crowded.source.getSegment key = sharing.source.getSegment key :=
      (OrdMap.find_insert _ _ _ _).trans (if_neg other)
    exact congrArg (fun found => Option.bind found ItemDescriptor.item) same.symm
  bigSegments := trivial

theorem evaluate_crowded :
    SameBelow (fun _ _ => True) sharing crowded sharingApp ∧
      ∀ context, ∃ detail state otherState, state.events = otherState.events ∧
        (∀ fuel, depthBound sharing sharingApp ≤ fuel →
          evaluate sharing context true fuel sharingApp (.initial ()) = some (detail, state)) ∧
        ∀ fuel, depthBound crowded sharingApp ≤ fuel →
          evaluate crowded context true fuel sharingApp (.initial ()) = some (detail, otherState) :=
  ⟨sameBelow_crowded, fun context => evaluate_local sharing crowded context true sharingApp sameBelow_crowded trivial⟩

end FlagSdk.Evaluation
