import FlagSdk.Fdv2.Orchestration
import FlagSdk.Fdv2.Actions

/-! The end of the orchestration. When no synchronizer is left the status is off, and it stays off unless a retry of
FDv2 is handled then, or a result that was left over from a synchronizer that is gone. -/

namespace FlagSdk.Fdv2
open Data Lib.Runs

namespace FDv2DataSystem

variable (system : FDv2DataSystem)

def isOff : Bool := system.statusManager.state = .off

/-- A retry is not handled while the status is off, and a result or a condition is handled only for the synchronizer
that is active, shutdowns and cancellations apart. A closed system handles neither. -/
def Orderly : Posted → Prop
  | .retryTimer fired => system.closed = true ∨ fired = false ∨ system.isOff = false
  | .synchronizerResult synchronizer result =>
    system.closed = true ∨ result.value = .shutdown ∨ system.activeSynchronizer = some synchronizer
  | .conditionFired synchronizer type =>
    system.closed = true ∨ type = .cancelled ∨ system.activeSynchronizer = some synchronizer
  | _ => True

def RunsOrderly : Event → Prop
  | .runPosted position => ∀ item ∈ system.posted[position]?, system.Orderly item
  | _ => True

instance (system : FDv2DataSystem) : (item : Posted) → Decidable (system.Orderly item)
  | .retryTimer fired => inferInstanceAs (Decidable (system.closed = true ∨ fired = false ∨ system.isOff = false))
  | .synchronizerResult synchronizer result => inferInstanceAs (Decidable
      (system.closed = true ∨ result.value = .shutdown ∨ system.activeSynchronizer = some synchronizer))
  | .conditionFired synchronizer type => inferInstanceAs (Decidable
      (system.closed = true ∨ type = .cancelled ∨ system.activeSynchronizer = some synchronizer))
  | .runNextInitializer => isTrue trivial
  | .initializerResult _ => isTrue trivial

instance (system : FDv2DataSystem) : (event : Event) → Decidable (system.RunsOrderly event)
  | .runPosted position => inferInstanceAs (Decidable (∀ item ∈ system.posted[position]?, system.Orderly item))
  | .initializerResult _ _ => isTrue trivial
  | .synchronizerResult _ _ => isTrue trivial
  | .conditionTimer _ _ _ => isTrue trivial
  | .retryDelay _ _ => isTrue trivial
  | .close => isTrue trivial

structure Quiet (first second : FDv2DataSystem) : Prop where
  initializers : second.initializerContinuations = first.initializerContinuations
  on : first.isOff = false → second.isOff = false

/-- A callback that sets the status to off leaves no active synchronizer. -/
structure Stops (first second : FDv2DataSystem) : Prop where
  initializers : second.initializerContinuations = first.initializerContinuations
  inactive : first.isOff = false → second.isOff = true → second.activeSynchronizer = none

variable {second first third system next : FDv2DataSystem} {item : Posted} {event : Event}

theorem Quiet.stops (quiet : Quiet first second) : Stops first second where
  initializers := quiet.initializers
  inactive := fun on off => by
    rw [quiet.on on] at off
    cases off

theorem Quiet.before (quiet : Quiet first second) (stops : Stops second third) : Stops first third where
  initializers := stops.initializers.trans quiet.initializers
  inactive := stops.inactive ∘ quiet.on

theorem Quiet.trans (left : Quiet first second) (right : Quiet second third) : Quiet first third where
  initializers := right.initializers.trans left.initializers
  on := right.on ∘ left.on

theorem SameView.quiet (same : SameView first second)
    (initializers : second.initializerContinuations = first.initializerContinuations) : Quiet first second where
  initializers := initializers
  on := by
    rw [isOff, isOff, same.statusManager]
    exact id

section
variable (system)

theorem resetSynchronizer_quiet : Quiet system system.resetSynchronizer := by
  apply (resetSynchronizer_view system).quiet
  unfold resetSynchronizer
  split
  · rfl
  · exact (closeSynchronizer_same system _).initializers

theorem resetConditions_quiet : Quiet system system.resetConditions :=
  (resetConditions_view system).quiet (closeConditions_same system).initializers

theorem resetBoth_quiet : Quiet system system.resetSynchronizer.resetConditions :=
  (resetSynchronizer_quiet system).trans (resetConditions_quiet _)

theorem sourceManager_quiet (sourceManager : SourceManager) :
    Quiet system { system with sourceManager } := ⟨rfl, id⟩

theorem runSynchronizerNext_quiet : Quiet system system.runSynchronizerNext := by
  unfold runSynchronizerNext
  split
  · exact ⟨rfl, id⟩
  · split
    · simp only
      split
      · refine ⟨?_, id⟩
        simp [initializerContinuations, record, Posted.isInitializer]
      · exact ⟨rfl, id⟩
    · exact ⟨rfl, id⟩

theorem activateSynchronizer_quiet : Quiet system system.activateSynchronizer :=
  (resetConditions_quiet system).trans ⟨rfl, id⟩

theorem report_posted (report : Report ServerSide.DataSourceState) :
    (system.report report).initializerContinuations = system.initializerContinuations ∧
      (system.report report).activeSynchronizer = system.activeSynchronizer := by
  obtain ⟨log, reported⟩ := report_eq system report
  rw [reported]
  exact ⟨rfl, rfl⟩

end

theorem reportExhausted_stops (inactive : system.activeSynchronizer = none) :
    Stops system system.reportExhausted := by
  unfold reportExhausted
  simp only
  split
  · obtain ⟨initializers, active⟩ := report_posted system (.stateWithKind .off .unknown _)
    exact ⟨initializers, fun _ _ => active.trans inactive⟩
  · exact Quiet.stops ⟨rfl, id⟩

variable (value : FDv2SourceResult.Value)

section
variable (system)

theorem resetSynchronizer_inactive : system.resetSynchronizer.activeSynchronizer = none := by
  unfold resetSynchronizer
  split
  · rename_i inactive
    exact inactive
  · rfl

theorem startSynchronizers_stops : Stops system system.startSynchronizers := by
  unfold startSynchronizers
  split
  · exact Quiet.stops ⟨rfl, id⟩
  · refine ((resetSynchronizer_quiet system).trans
      (sourceManager_quiet _ system.sourceManager.nextSynchronizer.2)).before ?_
    simp only
    split
    · exact ((activateSynchronizer_quiet _).trans (runSynchronizerNext_quiet _)).stops
    · exact reportExhausted_stops (resetSynchronizer_inactive system)

theorem report_quiet {report : Report ServerSide.DataSourceState}
    (other : (system.statusManager.receive report).state ≠ .off) : Quiet system (system.report report) := by
  obtain ⟨log, reported⟩ := report_eq system report
  rw [reported]
  exact ⟨rfl, fun _ => decide_eq_false other⟩

theorem setInterrupted_quiet (kind : DataSourceStatusErrorKind) (message : String) :
    Quiet system (system.setInterrupted kind message) := by
  apply report_quiet
  show (system.statusManager.updateState .interrupted).state ≠ .off
  obtain same | same := system.statusManager.state_updateState .interrupted
  · rw [same]
    exact ServerSide.DataSourceState.noConfusion
  · rw [same]
    exact ServerSide.DataSourceState.noConfusion

theorem applyChangeSet_quiet (changeSet : ChangeSet) : Quiet system (system.applyChangeSet changeSet) := by
  refine Quiet.trans ?_ (report_quiet _ ServerSide.DataSourceState.noConfusion)
  exact ⟨rfl, id⟩

theorem visitInitializerResult_quiet :
    Quiet system (system.visitInitializerResult value) := by
  cases value with
  | changeSet changeSet => exact applyChangeSet_quiet system changeSet
  | interrupted | terminalError => exact setInterrupted_quiet system _ _
  | shutdown => exact ⟨rfl, id⟩
  | goodbye reason => exact ⟨rfl, id⟩

theorem visitSynchronizerResult_quiet :
    Quiet system (system.visitSynchronizerResult value) := by
  obtain ⟨logged, same⟩ := visitSynchronizerResult_logged system value
  rw [same]
  have quiet : Quiet system { system with lastLoggedSynchronizerInterrupted := logged } := ⟨rfl, id⟩
  exact quiet.trans (visitInitializerResult_quiet _ value)

theorem scheduleFDv2RetryLocked_quiet (ttl : Int64) : Quiet system (system.scheduleFDv2RetryLocked ttl) := by
  obtain ⟨delays, scheduled, _⟩ := scheduleFDv2RetryLocked_eq system ttl
  rw [scheduled]
  exact ⟨rfl, id⟩

end

theorem respected_stops : Respected Quiet Stops where
  unchanged _ := ⟨rfl, id⟩
  trans := .trans
  keeps := Quiet.stops
  before := Quiet.before
  resetBoth := resetBoth_quiet
  sourceManager := sourceManager_quiet
  schedule := scheduleFDv2RetryLocked_quiet
  start := startSynchronizers_stops
  next system := (runSynchronizerNext_quiet system).stops
  interrupt system kind message := (setInterrupted_quiet system kind message).stops

theorem onSynchronizerResult_stops (system : FDv2DataSystem) (result : FDv2SourceResult) :
    Stops system (system.onSynchronizerResult result) := by
  apply respected_stops.onSynchronizerResult
  intro _ after stops
  have informed : Quiet system (system.inform result) := ⟨rfl, id⟩
  exact (informed.trans (visitSynchronizerResult_quiet _ result.value)).before stops

/-- An initializer is waited for alone and while the status is on, and nothing is active once it is off. -/
structure OffIsLast (system : FDv2DataSystem) : Prop where
  single : system.initializerContinuations ≤ 1
  alone : system.initializerContinuations ≠ 0 → system.nextContinuations = [] ∧ system.retryContinuations = 0
  off : system.isOff = true → system.activeSynchronizer = none ∧ system.initializerContinuations = 0

theorem OffIsLast.of_same (last : first.OffIsLast)
    (continuations : SameContinuations first second) (view : SameView first second) : second.OffIsLast where
  single := continuations.initializers ▸ last.single
  alone := by
    intro waiting
    rw [continuations.initializers] at waiting
    obtain ⟨next, retry⟩ := last.alone waiting
    have none := continuations.next
    rw [next] at none
    exact ⟨none.eq_nil, continuations.retry.trans retry⟩
  off := by
    intro off
    rw [isOff, view.statusManager] at off
    rw [continuations.active, continuations.initializers]
    exact last.off off

theorem Stops.offIsLast (stops : Stops first second)
    (none : first.initializerContinuations = 0) (on : first.isOff = false) : second.OffIsLast where
  single := by
    rw [stops.initializers, none]
    exact Nat.zero_le 1
  alone := fun waiting => absurd (stops.initializers.trans none) waiting
  off := fun off => ⟨stops.inactive on off, stops.initializers.trans none⟩

structure Fresh (system : FDv2DataSystem) : Prop where
  initializers : system.initializerContinuations = 0
  next : system.nextContinuations = []
  retry : system.retryContinuations = 0
  on : system.isOff = false

section
variable (fresh : system.Fresh)
include fresh

theorem Fresh.offIsLast : system.OffIsLast :=
  (Quiet.stops ⟨rfl, id⟩).offIsLast fresh.initializers fresh.on

theorem Fresh.runNextInitializer : system.runNextInitializer.OffIsLast := by
  unfold FDv2DataSystem.runNextInitializer
  split
  · exact fresh.offIsLast
  · split
    · have one : system.initializerRuns.length + 1 + system.posted.countP Posted.isInitializer = 1 := by
        have none := fresh.initializers
        rw [initializerContinuations] at none
        omega
      refine ⟨?_, fun _ => ⟨fresh.next, fresh.retry⟩, fun off => ?_⟩
      · simp only [initializerContinuations, List.length_append, List.length_singleton]
        exact one.le
      · exact absurd (fresh.on.symm.trans off) Bool.false_ne_true
    · exact (startSynchronizers_stops system).offIsLast fresh.initializers fresh.on

theorem Fresh.visit : (system.visitInitializerResult value).Fresh := by
  have on := (visitInitializerResult_quiet system value).on fresh.on
  obtain ⟨status, store, selector, log, visited⟩ := visitInitializerResult_eq system value
  rw [visited] at on ⊢
  exact ⟨fresh.initializers, fresh.next, fresh.retry, on⟩

theorem Fresh.onInitializerResult (result : FDv2SourceResult) : (system.onInitializerResult result).OffIsLast := by
  have visited := fresh.visit result.value
  unfold FDv2DataSystem.onInitializerResult
  generalize system.visitInitializerResult result.value = middle at visited ⊢
  have released : { middle with activeInitializer := none }.Fresh :=
    ⟨visited.initializers, visited.next, visited.retry, visited.on⟩
  simp only
  split
  · exact released.offIsLast
  · split
    · exact ((sourceManager_quiet _ _).before (respected_stops.engageFDv1Fallback _ _)).offIsLast released.initializers
        released.on
    · split
      · exact (startSynchronizers_stops _).offIsLast released.initializers released.on
      · exact released.runNextInitializer

end

section
variable {position : Nat} (found : system.posted[position]? = some item)
include found

theorem OffIsLast.fresh (last : system.OffIsLast) (kind : item.isInitializer = true) (other : item.synchronizer? = none)
    (notRetry : item.isRetry = false) : (system.dequeue position).Fresh := by
  have counted := initializerContinuations_take found
  have nexts := nextContinuations_take found
  have retries := retryContinuations_take found
  rw [kind, Bool.toNat_true] at counted
  have waiting : system.initializerContinuations ≠ 0 := by omega
  obtain ⟨next, retry⟩ := last.alone waiting
  rw [next, other] at nexts
  rw [retry, notRetry] at retries
  refine ⟨?_, nexts.nil_eq.symm, ?_, ?_⟩
  · have single := last.single
    omega
  · simpa using retries.symm
  · cases off : system.isOff with
    | true => exact absurd (last.off off).2 waiting
    | false => exact off

theorem OffIsLast.no_initializer (last : system.OffIsLast)
    (kind : item.synchronizer?.isSome = true ∨ item.isRetry = true) : system.initializerContinuations = 0 := by
  by_contra waiting
  obtain ⟨next, retry⟩ := last.alone waiting
  obtain own | own := kind
  · obtain ⟨synchronizer, own⟩ := Option.isSome_iff_exists.1 own
    have nexts := nextContinuations_take found
    rw [next, own] at nexts
    exact absurd nexts.nil_eq (by simp)
  · have retries := retryContinuations_take found
    rw [retry, own, Bool.toNat_true] at retries
    omega

end

theorem runPosted_of_off (inactive : system.activeSynchronizer = none)
    (off : system.isOff = true) (kind : item.isInitializer = false) (orderly : system.Orderly item) :
    SameView system (system.runPosted item) ∧ Quiet system (system.runPosted item) ∧
      (system.runPosted item).activeSynchronizer = none := by
  have same : SameView system system ∧ Quiet system system ∧ system.activeSynchronizer = none :=
    ⟨.refl system, ⟨rfl, id⟩, inactive⟩
  cases item with
  | runNextInitializer | initializerResult => cases kind
  | conditionFired synchronizer type =>
    obtain closed | cancelled | active := orderly
    · simpa only [runPosted, onConditionFired, if_pos closed, ite_self] using same
    · simpa only [runPosted, onConditionFired, if_pos cancelled] using same
    · cases inactive.symm.trans active
  | synchronizerResult synchronizer result =>
    obtain closed | shutdown | active := orderly
    · simpa only [runPosted, onSynchronizerResult, if_pos closed] using same
    · cases closed : system.closed with
      | true => simpa only [runPosted, onSynchronizerResult, if_pos closed] using same
      | false =>
        have reset : system.onSynchronizerResult result = (system.inform result).resetSynchronizer.resetConditions := by
          simp [onSynchronizerResult, closed, shutdown, visitSynchronizerResult]
        have view : SameView system (system.inform result) := ⟨rfl, rfl, rfl, rfl, rfl⟩
        have quiet : Quiet system (system.inform result) := ⟨rfl, id⟩
        rw [runPosted, reset]
        exact ⟨view.trans (resetBoth_view _), quiet.trans (resetBoth_quiet _),
          (closeConditions_same _).active.trans (resetSynchronizer_inactive _)⟩
    · cases inactive.symm.trans active
  | retryTimer fired =>
    obtain closed | aborted | on := orderly
    · simpa only [runPosted, onFDv1RetryTimer, if_pos closed, ite_self] using same
    · cases aborted
      exact same
    · exact absurd (off.symm.trans on) Bool.noConfusion

theorem runPosted_stops (system : FDv2DataSystem) (kind : item.isInitializer = false) :
    Stops system (system.runPosted item) := by
  cases item with
  | runNextInitializer | initializerResult => cases kind
  | conditionFired synchronizer type => exact respected_stops.onConditionFired system type
  | synchronizerResult synchronizer result => exact onSynchronizerResult_stops system result
  | retryTimer fired =>
    cases fired with
    | true => exact respected_stops.onFDv1RetryTimer system
    | false => exact Quiet.stops ⟨rfl, id⟩

theorem runPosted_offIsLast {position : Nat} (last : system.OffIsLast)
    (found : system.posted[position]? = some item) (orderly : system.Orderly item) :
    ((system.dequeue position).runPosted item).OffIsLast := by
  have counted := initializerContinuations_take found
  have other (kind : item.isInitializer = false) (own : item.synchronizer?.isSome = true ∨ item.isRetry = true) :
      ((system.dequeue position).runPosted item).OffIsLast := by
    have none : (system.dequeue position).initializerContinuations = 0 := by
      have all := last.no_initializer found own
      omega
    cases off : system.isOff with
    | false => exact (runPosted_stops _ kind).offIsLast none off
    | true =>
      obtain ⟨_, quiet, inactive⟩ := @runPosted_of_off (system.dequeue position) item (last.off off).1 off kind orderly
      have still := quiet.initializers.trans none
      exact ⟨still ▸ Nat.zero_le 1, fun waiting => absurd still waiting, fun _ => ⟨inactive, still⟩⟩
  cases item with
  | runNextInitializer => exact (last.fresh found rfl rfl rfl).runNextInitializer
  | initializerResult result => exact (last.fresh found rfl rfl rfl).onInitializerResult result
  | conditionFired | synchronizerResult => exact other rfl (.inl rfl)
  | retryTimer fired => exact other rfl (.inr rfl)

theorem step_offIsLast (last : system.OffIsLast)
    (orderly : system.RunsOrderly event) (taken : system.step event = some next) : next.OffIsLast := by
  obtain ⟨view, continuations⟩ | ⟨position, item, rfl, found, rfl⟩ := step_cases taken
  · exact last.of_same continuations view
  · exact runPosted_offIsLast last found (orderly item found)

theorem step_of_off (last : system.OffIsLast)
    (off : system.isOff = true) (orderly : system.RunsOrderly event) (taken : system.step event = some next) :
    SameView system next := by
  obtain ⟨view, _⟩ | ⟨position, item, rfl, found, rfl⟩ := step_cases taken
  · exact view
  · have counted := initializerContinuations_take found
    obtain ⟨inactive, none⟩ := last.off off
    have kind : item.isInitializer = false := by
      cases kind : item.isInitializer with
      | false => rfl
      | true =>
        rw [kind, Bool.toNat_true] at counted
        omega
    have dequeued : SameView system (system.dequeue position) := ⟨rfl, rfl, rfl, rfl, rfl⟩
    exact dequeued.trans (@runPosted_of_off (system.dequeue position) item inactive off kind (orderly item found)).1

theorem start_offIsLast (config : Config) : (start config).OffIsLast := by
  obtain ⟨phase, inPhase, _⟩ := start_inPhase config
  have on : (start config).isOff = false := by
    unfold start
    simp only
    split
    · rfl
    · rfl
  refine ⟨?_, ?_, fun off => absurd (on.symm.trans off) Bool.false_ne_true⟩
  · rw [inPhase.initializers]
    cases phase with
    | initializing => exact le_rfl
    | synchronizing | idle => exact Nat.zero_le 1
  · intro waiting
    rw [inPhase.initializers] at waiting
    cases phase with
    | initializing => exact ⟨inPhase.next, inPhase.retry rfl⟩
    | synchronizing | idle => exact absurd rfl waiting

/-- In an orderly run the status stays off once it is off, and no source is built any more. -/
theorem off_is_terminal (config : Config) (earlier later : List Event)
    (orderly : Along step RunsOrderly (start config) (earlier ++ later)) (middle last : FDv2DataSystem)
    (reached : run step (start config) earlier = some middle) (off : middle.statusManager.state = .off)
    (continued : run step middle later = some last) :
    last.statusManager.state = .off ∧ last.nextInstance = middle.nextInstance := by
  obtain ⟨before, after⟩ := orderly.split reached
  have ended := run_invariant step_offIsLast (start_offIsLast config) before reached
  have kept : ∀ {system next : FDv2DataSystem} {event : Event},
      (system.OffIsLast ∧ SameView middle system) → system.RunsOrderly event → system.step event = some next →
        next.OffIsLast ∧ SameView middle next := by
    intro system next event invariant orderly taken
    have still : system.isOff = true := by
      rw [isOff, invariant.2.statusManager]
      exact decide_eq_true off
    exact ⟨step_offIsLast invariant.1 orderly taken,
      invariant.2.trans (step_of_off invariant.1 still orderly taken)⟩
  have view := (run_invariant kept ⟨ended, .refl middle⟩ after continued).2
  refine ⟨?_, view.nextInstance⟩
  rw [view.statusManager]
  exact off

/-- The only synchronizer is rejected, and the system is closed afterwards. -/
theorem off_after_rejection : ∃ middle last, run step (start ⟨0, [false], false, false⟩) [.runPosted 0,
      .synchronizerResult 0 ⟨.terminalError ⟨.errorResponse, 401, "unauthorized"⟩, none⟩, .runPosted 0] =
        some middle ∧
      middle.statusManager.state = .off ∧ run step middle [.close] = some last ∧
        last.statusManager.state = .off ∧ last.nextInstance = middle.nextInstance :=
  ⟨_, _, rfl, rfl, rfl, off_is_terminal ⟨0, [false], false, false⟩ [.runPosted 0,
    .synchronizerResult 0 ⟨.terminalError ⟨.errorResponse, 401, "unauthorized"⟩, none⟩, .runPosted 0] [.close]
    (by decide) _ _ rfl rfl rfl⟩

/-- The FDv2 synchronizer is told to fall back for a minute, and the FDv1 synchronizer is rejected. The minute ends
when the status is off already: the FDv2 synchronizer is started again, and its data makes the status valid. -/
theorem on_again_after_retry : ¬ ∀ (config : Config) (earlier later : List Event) (middle last : FDv2DataSystem),
    run step (start config) earlier = some middle → middle.statusManager.state = .off →
      run step middle later = some last →
        last.statusManager.state = .off ∧ last.nextInstance = middle.nextInstance := by
  intro claimed
  obtain ⟨middle, last, reached, off, continued, valid⟩ : ∃ middle last,
      run step (start fallbackConfig) [.runPosted 0, .synchronizerResult 0 ⟨.goodbye none, some ⟨60⟩⟩, .runPosted 0,
        .synchronizerResult 0 ⟨.terminalError ⟨.errorResponse, 401, "unauthorized"⟩, none⟩, .runPosted 0] =
          some middle ∧
        middle.statusManager.state = .off ∧
        run step middle [.retryDelay 0 true, .runPosted 0,
          .synchronizerResult 0 ⟨.changeSet ⟨.kFull, [], ⟨none⟩⟩, none⟩, .runPosted 0] = some last ∧
        last.statusManager.state = .valid :=
    ⟨_, _, rfl, rfl, rfl, rfl⟩
  have still := (claimed fallbackConfig _ _ middle last reached off continued).1
  rw [still] at valid
  cases valid

end FDv2DataSystem

end FlagSdk.Fdv2
