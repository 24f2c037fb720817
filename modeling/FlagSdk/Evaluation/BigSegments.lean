import FlagSdk.Evaluation.WellFormed

/-! What one evaluation does about big segments. Every question to the store, every status that is recorded and every
answer about a segment is written down, in a run that is otherwise the evaluation itself. A key is asked for at most
once, a key for which the store failed is in no segment, and the reason carries the status that can be trusted least. -/

namespace FlagSdk.Evaluation
open Lib Lib.StateRelation Lib.GuardedRecursion Data

inductive Lookup where
  | recorded (status : EvaluationReason.BigSegmentsStatus)
  | asked (key : String) (status : BigSegmentsStatus)
  | answered (segment : Segment) (answer : Option Bool)

abbrev TracedComputation (World : Type) := Recording World (List Lookup)

section
variable {World : Type} (evaluator : Evaluator World) (context : Context) (eventProcessor : Bool)

def note (lookup : Lookup) : TracedComputation World Unit :=
  modify fun (state, lookups) => (state, lookups ++ [lookup])

def recordTraced (status : EvaluationReason.BigSegmentsStatus) : TracedComputation World Unit := do
  liftM (recordBigSegmentsStatus status : Computation World Unit)
  note (.recorded status)

def getMembershipTraced (store : BigSegmentStoreWrapper World) (key : String) :
    TracedComputation World GetMembershipResult := do
  let result ← liftM (storeGetMembership store key)
  note (.asked key result.status)
  return result

def matchBigSegmentTraced (segment : Segment) : TracedComputation World (Option Bool) := do
  let answer ← matchBigSegmentBy evaluator context recordTraced getMembershipTraced segment
  note (.answered segment answer)
  return answer

def containsTraced (fuel : Nat) (path : Finset String) (segment : Segment) :
    TracedComputation World (Except Error Bool) :=
  guarded Segment.key (fun segment => pure (.error (.cyclicSegmentReference segment.key)))
    (fun ask segment => lookIntoBy evaluator context ask (matchBigSegmentTraced evaluator context) segment)
    (fun _ => none) fuel path segment

def flagTraced (contains : Segment → TracedComputation World (Except Error Bool)) (fuel : Nat) (path : Finset String)
    (node : Option String × Flag) : TracedComputation World EvaluationDetail :=
  guarded (fun node => node.2.key) (fun node => liftM (refuseFlag node.1 node.2 : Computation World EvaluationDetail))
    (fun evaluate node =>
      follow evaluator context eventProcessor contains (fun _ needed => evaluate (some node.2.key, needed)) node.2)
    (fun _ => none) fuel path node

def evaluateTraced (fuel : Nat) (flag : Flag) : TracedComputation World EvaluationDetail := do
  let detail ← flagTraced evaluator context eventProcessor (containsTraced evaluator context fuel ∅) fuel ∅ (none, flag)
  liftM (finish detail : Computation World EvaluationDetail)

end

variable {key : String} {segment : Segment}

section
variable {World : Type} (evaluator : Evaluator World) (context : Context)

def bigSegmentKey (segment : Segment) : Option String :=
  let contextKey := context.get ((segment.unboundedContextKind.filter (· ≠ "")).getD "user") (.fromReferenceStr "key")
  if contextKey.isString then some contextKey.asString else none

variable (state : EvaluationState World)

def EvaluationState.record (status : EvaluationReason.BigSegmentsStatus) : EvaluationState World :=
  if precedence status > precedence state.bigSegmentsStatus then { state with bigSegmentsStatus := status }
  else state

def EvaluationState.fail (key : String) : EvaluationState World :=
  { state with storeErrorKeys := insert key state.storeErrorKeys }

def EvaluationState.remember (key : String) (membership : Membership) : EvaluationState World :=
  { state with memberships := state.memberships.emplace key membership }

def EvaluationState.Knows (key : String) : Prop :=
  key ∈ state.storeErrorKeys ∨ (state.memberships.find key).isSome = true

inductive Queried (key : String) (state : EvaluationState World) :
    Option Membership → EvaluationState World → List Lookup → Prop
  | unconfigured : evaluator.bigSegmentStore = none →
    Queried key state none (state.record .kNotConfigured) [.recorded .kNotConfigured]
  | failed (world : World) :
    Queried key state none (({ state with world := world }.record .kStoreError).fail key)
      [.asked key .storeError, .recorded .kStoreError]
  | given (world : World) (result : GetMembershipResult) : result.status ≠ .storeError →
    Queried key state (some result.membership)
      (({ state with world := world }.record (toBigSegmentsStatus result.status)).remember key result.membership)
      [.asked key result.status, .recorded (toBigSegmentsStatus result.status)]

inductive Looked (segment : Segment) (state : EvaluationState World) :
    Option Bool → EvaluationState World → List Lookup → Prop
  | incomplete : segment.generation = none →
    Looked segment state (some false) (state.record .kNotConfigured) [.recorded .kNotConfigured]
  | refused : (∀ key, bigSegmentKey context segment = some key → key ∈ state.storeErrorKeys) →
    Looked segment state (some false) state []
  | known {key : String} {answer : Option Bool} : bigSegmentKey context segment = some key →
    (state.memberships.find key).isSome = true → Looked segment state answer state []
  | queried {key : String} {membership : Option Membership} {answer : Option Bool} {after : EvaluationState World}
    {lookups : List Lookup} : bigSegmentKey context segment = some key → ¬state.Knows key →
    Queried evaluator key state membership after lookups → (membership = none → answer = some false) →
    Looked segment state answer after lookups

variable {evaluator context}

theorem storeGetMembership_eq {store : BigSegmentStoreWrapper World} {state : EvaluationState World}
    {result : GetMembershipResult} {world : World} (answered : store.getMembership key state.world = (result, world)) :
    storeGetMembership store key state = some (result, { state with world := world }) := by
  change some ((store.getMembership key state.world).1,
    { state with world := (store.getMembership key state.world).2 }) = _
  rw [answered]

theorem queried (key : String) (state : EvaluationState World) (lookups : List Lookup) :
    ∃ membership after more, queryMembership evaluator key state = some (membership, after) ∧
      queryMembershipBy evaluator recordTraced getMembershipTraced key (state, lookups) =
        some (membership, after, lookups ++ more) ∧
      Queried evaluator key state membership after more := by
  unfold queryMembership queryMembershipBy
  cases configured : evaluator.bigSegmentStore with
  | none => exact ⟨none, _, _, rfl, rfl, .unconfigured configured⟩
  | some store =>
    cases answered : store.getMembership key state.world with
    | mk result world =>
      have asked := storeGetMembership_eq answered
      have askedTraced : getMembershipTraced store key (state, lookups) =
          some (result, { state with world := world }, lookups ++ [.asked key result.status]) := by
        simp only [getMembershipTraced, bind, StateT.bind, liftRecording_apply, asked, Option.map_some,
          Option.bind_some]
        rfl
      obtain ⟨membership, status⟩ := result
      simp only [bind, StateT.bind, asked, askedTraced, Option.bind_some]
      have together (first second : Lookup) : lookups ++ [first, second] = lookups ++ [first] ++ [second] := by simp
      cases status with
      | storeError =>
        refine ⟨none, _, _, rfl, ?_, .failed world⟩
        rw [together]
        rfl
      | healthy | stale | notConfigured =>
        refine ⟨some membership, _, _, rfl, ?_, .given world ⟨membership, _⟩ nofun⟩
        rw [together]
        rfl

theorem looked (segment : Segment) (state : EvaluationState World) (lookups : List Lookup) :
    ∃ answer after more, matchBigSegment evaluator context segment state = some (answer, after) ∧
      matchBigSegmentTraced evaluator context segment (state, lookups) =
        some (answer, after, lookups ++ more ++ [.answered segment answer]) ∧
      Looked evaluator context segment state answer after more := by
  unfold matchBigSegment matchBigSegmentTraced matchBigSegmentBy
  cases complete : segment.generation with
  | none => exact ⟨some false, _, _, rfl, rfl, .incomplete complete⟩
  | some generation =>
    dsimp only
    split_ifs with absent
    · refine ⟨some false, state, [], rfl, ?_, .refused fun key found => ?_⟩
      · rw [List.append_nil]
        rfl
      · rw [bigSegmentKey, if_neg (by rw [absent]; exact Bool.false_ne_true)] at found
        cases found
    · have present : bigSegmentKey context segment = some (context.get
          ((segment.unboundedContextKind.filter (· ≠ "")).getD "user") (.fromReferenceStr "key")).asString :=
        if_pos (Bool.not_eq_false _ ▸ absent)
      generalize (context.get ((segment.unboundedContextKind.filter (· ≠ "")).getD "user")
        (.fromReferenceStr "key")).asString = key at present ⊢
      dsimp only [bind, StateT.bind, liftRecording_apply, liftM, monadLift_self, get, getThe, MonadStateOf.get,
        StateT.get, Option.map, pure, Option.bind]
      by_cases failed : key ∈ state.storeErrorKeys
      · simp only [if_pos failed]
        refine ⟨some false, state, [], rfl, ?_, .refused fun other found => ?_⟩
        · rw [List.append_nil]
          rfl
        · cases present.symm.trans found
          exact failed
      · simp only [if_neg failed]
        cases found : state.memberships.find key with
        | some membership =>
          refine ⟨_, state, [], rfl, ?_, .known present (by rw [found]; rfl)⟩
          rw [List.append_nil]
          rfl
        | none =>
          have unknown : ¬state.Knows key := by
            rw [EvaluationState.Knows, found]
            exact fun known => known.elim failed Bool.false_ne_true
          obtain ⟨membership, after, more, plain, traced, queried⟩ := @queried _ evaluator key state lookups
          unfold queryMembership at plain
          simp only [StateT.bind, plain, traced, bind, Option.bind]
          cases membership with
          | none => exact ⟨some false, after, more, rfl, rfl, .queried present unknown queried fun _ => rfl⟩
          | some membership =>
            have given : some membership ≠ none := Option.some_ne_none membership
            exact ⟨_, after, more, rfl, rfl, .queried present unknown queried fun missing => absurd missing given⟩

end

section

def askedKeys (lookups : List Lookup) : List String :=
  lookups.filterMap fun
    | .asked key _ => some key
    | _ => none

def recordedStatuses (lookups : List Lookup) : List EvaluationReason.BigSegmentsStatus :=
  lookups.filterMap fun
    | .recorded status => some status
    | _ => none

def statusOrder : List EvaluationReason.BigSegmentsStatus := [.kNotConfigured, .kStoreError, .kStale, .kHealthy]

def highest (recorded : List EvaluationReason.BigSegmentsStatus) : EvaluationReason.BigSegmentsStatus :=
  (statusOrder.find? fun status => status ∈ recorded).getD .kNone

theorem highest_append (recorded : List EvaluationReason.BigSegmentsStatus)
    (status : EvaluationReason.BigSegmentsStatus) :
    highest (recorded ++ [status]) =
      if precedence status > precedence (highest recorded) then status else highest recorded := by
  simp only [highest, statusOrder, List.find?, List.mem_append, List.mem_singleton, Bool.decide_or]
  generalize decide (.kNotConfigured ∈ recorded) = unconfigured
  generalize decide (.kStoreError ∈ recorded) = failed
  generalize decide (.kStale ∈ recorded) = stale
  generalize decide (.kHealthy ∈ recorded) = healthy
  revert unconfigured failed stale healthy
  cases status <;> decide

theorem highest_eq_none_iff {recorded : List EvaluationReason.BigSegmentsStatus} (real : .kNone ∉ recorded) :
    highest recorded = .kNone ↔ recorded = [] := by
  refine ⟨fun none => List.eq_nil_iff_forall_not_mem.2 fun status member => ?_, fun empty => empty ▸ rfl⟩
  have listed : status ∈ statusOrder := by
    cases status with
    | kNone => exact absurd member real
    | _ => decide
  unfold highest at none
  cases found : statusOrder.find? fun status => status ∈ recorded with
  | none => exact List.find?_eq_none.1 found status listed (decide_eq_true member)
  | some first =>
    rw [found, Option.getD_some] at none
    have holds := List.find?_some found
    exact real (none ▸ of_decide_eq_true holds)

variable {World : Type} (context : Context)

structure Sound (state : EvaluationState World) (lookups : List Lookup) : Prop where
  once : (askedKeys lookups).Nodup
  asked_iff : ∀ key, key ∈ askedKeys lookups ↔ state.Knows key
  failed_iff : ∀ key, Lookup.asked key .storeError ∈ lookups ↔ key ∈ state.storeErrorKeys
  apart : ∀ key ∈ state.storeErrorKeys, state.memberships.find key = none
  answers : ∀ segment answer, Lookup.answered segment answer ∈ lookups →
    ∀ key, bigSegmentKey context segment = some key → answer = some false ∨ (state.memberships.find key).isSome = true
  status : state.bigSegmentsStatus = highest (recordedStatuses lookups)
  real : .kNone ∉ recordedStatuses lookups

variable {context} {state : EvaluationState World} {lookups : List Lookup} {other : String}

theorem knows_fail : (state.fail key).Knows other ↔ other = key ∨ state.Knows other := by
  unfold EvaluationState.Knows EvaluationState.fail
  rw [Finset.mem_insert, or_assoc]

theorem find_remember (key other : String) (membership : Membership) :
    ((state.remember key membership).memberships.find other).isSome = true ↔
      (state.memberships.find other).isSome = true ∨ other = key := by
  rw [EvaluationState.remember, OrdMap.find_emplace]
  cases state.memberships.find other <;> by_cases same : other = key <;> simp [same]

theorem knows_remember {membership : Membership} :
    (state.remember key membership).Knows other ↔ other = key ∨ state.Knows other := by
  unfold EvaluationState.Knows
  rw [find_remember, or_comm (b := other = key), or_left_comm]
  rfl

variable (status : EvaluationReason.BigSegmentsStatus)

theorem fail_record (key : String) : (state.record status).fail key = (state.fail key).record status := by
  unfold EvaluationState.record EvaluationState.fail
  split <;> rfl

theorem remember_record (key : String) (membership : Membership) :
    (state.record status).remember key membership = (state.remember key membership).record status := by
  unfold EvaluationState.record EvaluationState.remember
  split <;> rfl

theorem sound_initial (world : World) : Sound context (.initial world) [] where
  once := .nil
  asked_iff key := iff_of_false List.not_mem_nil fun known => known.elim (Finset.notMem_empty key) Bool.false_ne_true
  failed_iff key := iff_of_false List.not_mem_nil (Finset.notMem_empty key)
  apart key member := absurd member (Finset.notMem_empty key)
  answers _ _ member := nomatch member
  status := rfl
  real := List.not_mem_nil

section
variable (lookups) (key) (answered : BigSegmentsStatus)
  (segment) (answer : Option Bool)

@[simp] theorem askedKeys_recorded : askedKeys (lookups ++ [.recorded status]) = askedKeys lookups := by
  simp [askedKeys]

@[simp] theorem askedKeys_asked : askedKeys (lookups ++ [.asked key answered]) = askedKeys lookups ++ [key] := by
  simp [askedKeys]

@[simp] theorem askedKeys_answered : askedKeys (lookups ++ [.answered segment answer]) = askedKeys lookups := by
  simp [askedKeys]

@[simp] theorem recordedStatuses_recorded :
    recordedStatuses (lookups ++ [.recorded status]) = recordedStatuses lookups ++ [status] := by
  simp [recordedStatuses]

@[simp] theorem recordedStatuses_asked :
    recordedStatuses (lookups ++ [.asked key answered]) = recordedStatuses lookups := by
  simp [recordedStatuses]

@[simp] theorem recordedStatuses_answered :
    recordedStatuses (lookups ++ [.answered segment answer]) = recordedStatuses lookups := by
  simp [recordedStatuses]

end

namespace Sound

section
variable (sound : Sound context state lookups)
include sound

theorem frame {other : EvaluationState World}
    (statuses : other.bigSegmentsStatus = state.bigSegmentsStatus) (memberships : other.memberships = state.memberships)
    (errors : other.storeErrorKeys = state.storeErrorKeys) : Sound context other lookups where
  once := sound.once
  asked_iff key := by rw [sound.asked_iff, EvaluationState.Knows, EvaluationState.Knows, memberships, errors]
  failed_iff key := by rw [sound.failed_iff, errors]
  apart := by
    rw [memberships, errors]
    exact sound.apart
  answers := by
    rw [memberships]
    exact sound.answers
  status := statuses.trans sound.status
  real := sound.real

theorem recorded {status : EvaluationReason.BigSegmentsStatus}
    (isStatus : status ≠ .kNone) : Sound context (state.record status) (lookups ++ [.recorded status]) := by
  have memberships : (state.record status).memberships = state.memberships := by
    unfold EvaluationState.record
    split <;> rfl
  have errors : (state.record status).storeErrorKeys = state.storeErrorKeys := by
    unfold EvaluationState.record
    split <;> rfl
  refine ⟨?_, ?_, ?_, ?_, ?_, ?_, ?_⟩
  · rw [askedKeys_recorded]
    exact sound.once
  · intro key
    rw [askedKeys_recorded, sound.asked_iff, EvaluationState.Knows, EvaluationState.Knows, memberships, errors]
  · intro key
    rw [errors, ← sound.failed_iff]
    simp
  · rw [memberships, errors]
    exact sound.apart
  · intro segment answer member
    rw [memberships]
    exact sound.answers segment answer (by simpa using member)
  · rw [recordedStatuses_recorded, highest_append, ← sound.status, EvaluationState.record]
    split <;> rfl
  · rw [recordedStatuses_recorded]
    simp [sound.real, isStatus.symm]

theorem once_asked (unknown : ¬state.Knows key)
    (status : BigSegmentsStatus) : (askedKeys (lookups ++ [.asked key status])).Nodup := by
  rw [askedKeys_asked, List.nodup_append]
  refine ⟨sound.once, List.nodup_singleton key, ?_⟩
  intro asked earlier other here same
  exact unknown ((sound.asked_iff key).1 (List.mem_singleton.1 here ▸ same ▸ earlier))

theorem failed (unknown : ¬state.Knows key) :
    Sound context (state.fail key) (lookups ++ [.asked key .storeError]) where
  once := sound.once_asked unknown .storeError
  asked_iff other := by
    rw [askedKeys_asked, List.mem_append, List.mem_singleton, sound.asked_iff, knows_fail, or_comm]
  failed_iff other := by
    rw [List.mem_append, sound.failed_iff, EvaluationState.fail, Finset.mem_insert, or_comm]
    simp
  apart other member := by
    rcases Finset.mem_insert.1 member with here | before
    · rw [here]
      exact Option.not_isSome_iff_eq_none.1 fun known => unknown (.inr known)
    · exact sound.apart other before
  answers segment answer member := sound.answers segment answer (by simpa using member)
  status := by
    rw [recordedStatuses_asked]
    exact sound.status
  real := by
    rw [recordedStatuses_asked]
    exact sound.real

theorem given (unknown : ¬state.Knows key)
    (membership : Membership) {status : BigSegmentsStatus} (answered : status ≠ .storeError) :
    Sound context (state.remember key membership) (lookups ++ [.asked key status]) where
  once := sound.once_asked unknown status
  asked_iff other := by
    rw [askedKeys_asked, List.mem_append, List.mem_singleton, sound.asked_iff, knows_remember, or_comm]
  failed_iff other := by
    rw [List.mem_append, sound.failed_iff]
    simp [answered.symm, EvaluationState.remember]
  apart other member := by
    have earlier : other ≠ key := fun same => unknown (.inl (same ▸ member))
    rw [EvaluationState.remember, OrdMap.find_emplace, sound.apart other member, if_neg earlier]
    rfl
  answers segment answer member asked found := by
    have before := sound.answers segment answer (by simpa using member) asked found
    exact before.imp_right fun known => (find_remember key asked membership).2 (.inl known)
  status := by
    rw [recordedStatuses_asked]
    exact sound.status
  real := by
    rw [recordedStatuses_asked]
    exact sound.real

end

variable {answer : Option Bool} {more : List Lookup}

variable (sound : Sound context state lookups)
include sound

theorem answered (known : ∀ key, bigSegmentKey context segment = some key →
      answer = some false ∨ (state.memberships.find key).isSome = true) :
    Sound context state (lookups ++ [.answered segment answer]) where
  once := by
    rw [askedKeys_answered]
    exact sound.once
  asked_iff key := by rw [askedKeys_answered, sound.asked_iff]
  failed_iff key := by
    rw [← sound.failed_iff]
    simp
  apart := sound.apart
  answers other given member := by
    rcases List.mem_append.1 member with before | new
    · exact sound.answers other given before
    · cases List.mem_singleton.1 new
      exact known
  status := by
    rw [recordedStatuses_answered]
    exact sound.status
  real := by
    rw [recordedStatuses_answered]
    exact sound.real

theorem queried {evaluator : Evaluator World}
    (unknown : ¬state.Knows key) {membership : Option Membership} {after : EvaluationState World}
    (queried : Queried evaluator key state membership after more) :
    Sound context after (lookups ++ more) ∧ (membership ≠ none → (after.memberships.find key).isSome = true) := by
  cases queried with
  | unconfigured => exact ⟨sound.recorded (by decide), fun given => absurd rfl given⟩
  | failed world =>
    have elsewhere : Sound context { state with world := world } lookups := sound.frame rfl rfl rfl
    rw [fail_record, List.append_cons]
    exact ⟨(elsewhere.failed unknown).recorded (by decide), fun given => absurd rfl given⟩
  | given world result answered =>
    have elsewhere : Sound context { state with world := world } lookups := sound.frame rfl rfl rfl
    have isStatus : toBigSegmentsStatus result.status ≠ .kNone := by cases result.status <;> decide
    rw [List.append_cons]
    refine ⟨?_, fun _ => (find_remember key key result.membership).2 (.inr rfl)⟩
    rw [remember_record]
    exact (elsewhere.given unknown result.membership answered).recorded isStatus

theorem looked {evaluator : Evaluator World} {after : EvaluationState World}
    (looked : Looked evaluator context segment state answer after more) :
    Sound context after (lookups ++ more ++ [.answered segment answer]) := by
  cases looked with
  | incomplete => exact (sound.recorded (by decide)).answered fun _ _ => .inl rfl
  | refused =>
    rw [List.append_nil]
    exact sound.answered fun _ _ => .inl rfl
  | @known key _ found known =>
    rw [List.append_nil]
    refine sound.answered fun other asked => .inr ?_
    cases found.symm.trans asked
    exact known
  | @queried key membership _ _ _ found unknown queried refused =>
    obtain ⟨kept, given⟩ := sound.queried unknown queried
    refine kept.answered fun other asked => ?_
    cases found.symm.trans asked
    by_cases none : membership = none
    · exact .inl (refused none)
    · exact .inr (given none)

end Sound

end

section
variable {World : Type} {evaluator : Evaluator World} {context : Context} {eventProcessor : Bool}

def Traces (context : Context) (state : EvaluationState World) (traced : EvaluationState World × List Lookup) : Prop :=
  traced.1 = state ∧ Sound context state traced.2

theorem traces_elsewhere {α : Type} {x : Computation World α}
    (returns : ∀ state, ∃ value after, x state = some (value, after) ∧
      after.bigSegmentsStatus = state.bigSegmentsStatus ∧ after.memberships = state.memberships ∧
      after.storeErrorKeys = state.storeErrorKeys) :
    Related .together (Traces context) Eq x (liftM x : TracedComputation World α) := by
  intro state traced both
  obtain ⟨same, lookups⟩ := traced
  obtain ⟨rfl, sound⟩ := both
  obtain ⟨value, after, returned, statuses, memberships, errors⟩ := returns same
  rw [liftRecording_apply, returned]
  exact ⟨rfl, rfl, sound.frame statuses memberships errors⟩

theorem traces_matchBigSegment (segment : Segment) :
    Related .together (Traces context) Eq (matchBigSegment evaluator context segment)
      (matchBigSegmentTraced evaluator context segment) := by
  intro state traced both
  obtain ⟨same, lookups⟩ := traced
  obtain ⟨rfl, sound⟩ := both
  obtain ⟨answer, after, more, plain, written, looked⟩ := @looked _ evaluator context segment same lookups
  rw [plain, written]
  exact ⟨rfl, rfl, sound.looked looked⟩

theorem agree_traced :
    Agree evaluator evaluator .together (Traces context : EvaluationState World → _ → Prop) fun _ => True where
  platform := rfl
  pure _ := .pure rfl
  malformed _ _ _ := traces_elsewhere fun _ => ⟨_, _, rfl, rfl, rfl, rfl⟩

theorem sends_traced :
    SendsAlike World World .together (Traces context : EvaluationState World → _ → Prop) eventProcessor
      eventProcessor := by
  intro event
  apply traces_elsewhere
  intro state
  cases eventProcessor <;> exact ⟨_, _, rfl, rfl, rfl, rfl⟩

theorem traces_contains (fuel : Nat) (path : Finset String) (segment : Segment) :
    Related .together (Traces context) (SameResult fun _ => True) (pathContains evaluator context fuel path segment)
      (containsTraced evaluator context fuel path segment) := by
  refine guarded_related_everywhere (fun _ => Related .together (Traces context) (SameResult fun _ => True)) ?_ ?_ ?_
    fuel path segment
  · intro segment state traced both
    rfl
  · intro segment
    exact .pure (.error trivial)
  · intro segment ask askTraced asked
    exact related_lookIntoBy rfl (fun _ _ _ _ _ _ _ => rfl) (fun _ => traces_matchBigSegment segment)
      fun named _ => asked named

theorem traces_flag (depth fuel : Nat) (path : Finset String) (node : Option String × Flag) :
    Related .together (Traces context) Eq
      (pathFlag evaluator context eventProcessor (pathContains evaluator context depth ∅) fuel path node)
      (flagTraced evaluator context eventProcessor (containsTraced evaluator context depth ∅) fuel path node) := by
  refine guarded_related_everywhere (fun _ => Related .together (Traces context) Eq) ?_ ?_ ?_ fuel path node
  · intro node state traced both
    rfl
  · intro node
    exact traces_elsewhere fun _ => ⟨_, _, rfl, rfl, rfl, rfl⟩
  · intro node ask askTraced asked
    apply agree_traced.follow sends_traced (fun _ _ => rfl) fun _ _ _ _ _ _ _ => rfl
    · intro named _
      exact traces_contains depth ∅ named
    · intro needed _
      exact asked (some node.2.key, needed)

theorem finish_apply (detail : EvaluationDetail) (state : EvaluationState World) :
    finish detail state = some (if state.bigSegmentsStatus ≠ .kNone then
      detail.withBigSegmentsStatus state.bigSegmentsStatus else detail, state) := by
  change (if state.bigSegmentsStatus ≠ .kNone then _ else _ : Computation World EvaluationDetail) state = _
  split <;> rfl

theorem traces_evaluate (fuel : Nat) (flag : Flag) :
    Related .together (Traces context) Eq (evaluate evaluator context eventProcessor fuel flag)
      (evaluateTraced evaluator context eventProcessor fuel flag) := by
  rw [evaluate_eq_path]
  apply (traces_flag fuel fuel ∅ (none, flag)).bind_eq
  intro detail
  apply traces_elsewhere
  intro state
  exact ⟨_, state, finish_apply detail state, rfl, rfl, rfl⟩

end

theorem admits_unstatused :
    Admits fun _ detail => ∃ reason, detail.reason = some reason ∧ reason.bigSegmentsStatus = .kNone where
  malformed _ := ⟨_, rfl, rfl⟩
  variation own _ _ := ⟨_, rfl, own.noStatus⟩
  off own _ _ := ⟨_, rfl, own.noStatus⟩
  inherited unstatused _ := unstatused

theorem status_of_evaluate {World : Type} {evaluator : Evaluator World} {context : Context} {eventProcessor : Bool}
    {fuel : Nat} {flag : Flag} {state after : EvaluationState World} {detail : EvaluationDetail}
    (returned : evaluate evaluator context eventProcessor fuel flag state = some (detail, after)) :
    ∃ reason, detail.reason = some reason ∧ reason.bigSegmentsStatus = after.bigSegmentsStatus := by
  rw [evaluate_eq_path] at returned
  obtain ⟨⟨unfinished, before⟩, evaluated, finished⟩ := Option.bind_eq_some_iff.1 returned
  obtain ⟨reason, given, unstatused⟩ := admits_unstatused.gives_pathFlag _ fuel (none, flag) _ _ _ evaluated
  dsimp only at finished
  rw [finish_apply] at finished
  cases finished
  split
  · exact ⟨_, congrArg (Option.map _) given, rfl⟩
  next none => exact ⟨reason, given, unstatused.trans (not_not.1 none).symm⟩

/-- In an evaluation with all that belongs to it, no key is asked for twice, a key for which the store failed is not
asked for again and is in no big segment, and the reason has the status that can be trusted least of those recorded. -/
theorem big_segment_lookups {World : Type} (evaluator : Evaluator World) (context : Context) (eventProcessor : Bool)
    (flag : Flag) (world : World) (spare : Nat) :
    ∃ detail after lookups reason,
      evaluate evaluator context eventProcessor (depthBound evaluator flag + spare) flag (.initial world) =
        some (detail, after) ∧
      evaluateTraced evaluator context eventProcessor (depthBound evaluator flag + spare) flag (.initial world, []) =
        some (detail, after, lookups) ∧
      (askedKeys lookups).Nodup ∧
      (∀ earlier key later, lookups = earlier ++ .asked key .storeError :: later →
        key ∉ askedKeys later ∧ ∀ segment answer, .answered segment answer ∈ lookups →
          bigSegmentKey context segment = some key → answer = some false) ∧
      detail.reason = some reason ∧ reason.bigSegmentsStatus = highest (recordedStatuses lookups) ∧
      (reason.bigSegmentsStatus = .kNone ↔ recordedStatuses lookups = []) := by
  obtain ⟨⟨detail, after⟩, returns⟩ :=
    evaluate_terminates evaluator context eventProcessor flag (.initial world)
  have returned := returns (depthBound evaluator flag + spare) (Nat.le_add_right _ spare)
  have outcomes := @traces_evaluate _ evaluator context eventProcessor (depthBound evaluator flag + spare) flag
    (.initial world) (.initial world, []) ⟨rfl, sound_initial world⟩
  rw [returned] at outcomes
  obtain ⟨⟨tracedDetail, tracedAfter, lookups⟩, traced, sameDetail, sameAfter, sound⟩ := outcomes.of_some
  dsimp only at sameDetail sameAfter sound
  rw [sameAfter, ← sameDetail] at traced
  obtain ⟨reason, given, status⟩ := status_of_evaluate returned
  rw [sound.status] at status
  refine ⟨detail, after, lookups, reason, returned, traced, sound.once, ?_, given, status, ?_⟩
  · intro earlier key later split
    have failed : key ∈ after.storeErrorKeys := by
      rw [← sound.failed_iff, split]
      exact List.mem_append_right _ List.mem_cons_self
    constructor
    · have once := sound.once
      rw [split, askedKeys, List.filterMap_append, List.filterMap_cons] at once
      exact (List.nodup_cons.1 (List.nodup_append.1 once).2.1).1
    · intro segment answer member asked
      apply (sound.answers segment answer member key asked).resolve_right
      rw [sound.apart key failed]
      exact Bool.false_ne_true
  · rw [status]
    exact highest_eq_none_iff sound.real

end FlagSdk.Evaluation
