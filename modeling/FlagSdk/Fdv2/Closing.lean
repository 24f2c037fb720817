import FlagSdk.Fdv2.Orchestration
import FlagSdk.Fdv2.Selectors

/-! What a data system still does once it is closed. The continuations that are outstanding run and find it closed, but
an initializer that was started may still bring its change set. A callback that runs while `Close` is called counts as
one that ran before. -/

namespace FlagSdk.Fdv2
open Data Lib.Runs

def Action.changeSet? : Action → Option ChangeSet
  | .applied changeSet => some changeSet
  | _ => none

def Action.call? : Action → Option (Nat × Selector)
  | .next synchronizer selector => some (synchronizer, selector)
  | _ => none

def changeSets (log : List Action) : List ChangeSet := log.filterMap Action.changeSet?

def calls (log : List Action) : List (Nat × Selector) := log.filterMap Action.call?

namespace FDv2DataSystem

variable (system : FDv2DataSystem)

theorem filterMap_report {α : Type} {select : Action → Option α} (report : Report ServerSide.DataSourceState)
    (silent : ∀ state initialized, select (.signalled state initialized) = none) :
    (system.report report).log.filterMap select = system.log.filterMap select := by
  unfold FDv2DataSystem.report
  dsimp only
  split
  · simp [record, silent]
  · rfl

variable (report : Report ServerSide.DataSourceState)

@[simp] theorem changeSets_report : changeSets (system.report report).log = changeSets system.log :=
  filterMap_report system report fun _ _ => rfl

@[simp] theorem calls_report : calls (system.report report).log = calls system.log :=
  filterMap_report system report fun _ _ => rfl

variable {system} {next : FDv2DataSystem} {event : Event}

/-- What a closed system still does. -/
structure WindsDown (system next : FDv2DataSystem) : Prop where
  closed : next.closed = true
  built : next.nextInstance = system.nextInstance
  called : calls next.log = calls system.log
  applied : (changeSets next.log).length + next.initializerContinuations ≤
    (changeSets system.log).length + system.initializerContinuations

theorem runPosted_eq_of_closed (closed : system.closed = true) (item : Posted) :
    system.runPosted item = system ∨ ∃ result, item = .initializerResult result ∧
      system.runPosted item = { system.visitInitializerResult result.value with activeInitializer := none } := by
  cases item with
  | initializerResult result =>
    obtain ⟨_, _, _, _, visited⟩ := visitInitializerResult_eq system result.value
    exact .inr ⟨result, rfl, by simp only [runPosted, onInitializerResult, visited, closed, Bool.true_or, if_true]⟩
  | runNextInitializer => simp only [runPosted, runNextInitializer, if_pos closed, true_or]
  | conditionFired => simp only [runPosted, onConditionFired, if_pos closed, ite_self, true_or]
  | synchronizerResult => simp only [runPosted, onSynchronizerResult, if_pos closed, true_or]
  | retryTimer => simp only [runPosted, onFDv1RetryTimer, if_pos closed, ite_self, true_or]

/-- Visiting the result of an initializer applies its change set, if it has one, and calls nothing. -/
theorem visitInitializerResult_log (value : FDv2SourceResult.Value) :
    calls (system.visitInitializerResult value).log = calls system.log ∧
      (changeSets (system.visitInitializerResult value).log).length ≤ (changeSets system.log).length + 1 := by
  cases value with
  | changeSet changeSet =>
    simp only [visitInitializerResult, applyChangeSet, changeSets_report, calls_report]
    simp [record, calls, changeSets, Action.call?, Action.changeSet?, List.filterMap_cons]
  | interrupted | terminalError =>
    simp [visitInitializerResult, setInterrupted]
  | shutdown | goodbye => exact ⟨rfl, Nat.le_succ _⟩

theorem WindsDown.step (closed : system.closed = true) (taken : system.step event = some next) :
    WindsDown system next := by
  have unchanged {second : FDv2DataSystem} (view : SameView system second) (same : SameContinuations system second)
      (closed : second.closed = true) : WindsDown system second :=
    ⟨closed, view.nextInstance, by rw [view.log], by rw [view.log, same.initializers]⟩
  obtain ⟨position, item, rfl, found, rfl⟩ | ⟨rfl, rfl⟩ | ⟨moves, _⟩ := step_moves taken
  · have counted := initializerContinuations_take found
    obtain same | ⟨result, rfl, ran⟩ := @runPosted_eq_of_closed (system.dequeue position) closed item
    · rw [same]
      exact ⟨closed, rfl, rfl, by simp only [dequeue] at counted ⊢; omega⟩
    · obtain ⟨called, applied⟩ := @visitInitializerResult_log (system.dequeue position) result.value
      obtain ⟨status, store, selector, log, visited⟩ :=
        visitInitializerResult_eq (system.dequeue position) result.value
      rw [visited] at called applied ran
      rw [ran]
      refine ⟨closed, rfl, called, ?_⟩
      have kept : { (system.dequeue position) with
          statusManager := status, store, selector, log, activeInitializer := none }.initializerContinuations =
            (system.dequeue position).initializerContinuations := rfl
      simp only [Posted.isInitializer, Bool.toNat_true] at counted
      simp only [dequeue] at counted applied kept ⊢
      omega
  · exact unchanged (close_view system) (close_same system).1 (close_same system).2
  · exact unchanged moves.toSameView moves.toSameContinuations (moves.closed.trans closed)

theorem WindsDown.trans {first second third : FDv2DataSystem} (left : WindsDown first second)
    (right : WindsDown second third) : WindsDown first third where
  closed := right.closed
  built := right.built.trans left.built
  called := right.called.trans left.called
  applied := right.applied.trans left.applied

/-- Whatever still happens after `Close`, no source is built and no synchronizer is asked. A change set is applied for
an initializer that had been started, and for nothing else. -/
theorem closed_winds_down (system : FDv2DataSystem) (closed : system.closed = true) (later : List Event)
    (last : FDv2DataSystem) (continued : run FDv2DataSystem.step system later = some last) :
    WindsDown system last := by
  refine run_invariant_of_step (fun winds taken => winds.trans (WindsDown.step winds.closed taken)) ?_ continued
  exact ⟨closed, rfl, rfl, Nat.le_refl _⟩

theorem closed_winds_down_initializer :
    ∃ system last, run FDv2DataSystem.step (start ⟨1, [false], false, false⟩) [.runPosted 0, .close] = some system ∧
      run FDv2DataSystem.step system
        [.initializerResult 0 ⟨.changeSet basisChangeSet, none⟩, .runPosted 0] = some last ∧
      changeSets last.log = [basisChangeSet] ∧ WindsDown system last :=
  ⟨_, _, rfl, rfl, rfl, closed_winds_down _ rfl
    [.initializerResult 0 ⟨.changeSet basisChangeSet, none⟩, .runPosted 0] _ rfl⟩

end FDv2DataSystem

end FlagSdk.Fdv2
