import FlagSdk.Fdv2.Callbacks

/-! What a step of the data system can do to what is seen of it. Every callback is a chain of few kinds of actions:
it reports to the status manager, applies the change set that it was called with, calls `Next`, or builds a source.
Whatever these keep holds in every run. -/

namespace FlagSdk.Fdv2
open Relation
open Data Lib.Runs

namespace FDv2DataSystem

variable (system : FDv2DataSystem)

theorem sourceManager_view (sourceManager : SourceManager) : SameView system { system with sourceManager } :=
  ⟨rfl, rfl, rfl, rfl, rfl⟩

theorem closeSynchronizer_view (synchronizer : Nat) : SameView system (system.closeSynchronizer synchronizer) :=
  ⟨rfl, rfl, rfl, rfl, rfl⟩

theorem resetSynchronizer_view : SameView system system.resetSynchronizer := by
  unfold resetSynchronizer
  split
  · exact .refl system
  · exact ⟨rfl, rfl, rfl, rfl, rfl⟩

theorem closeConditions_view : SameView system system.closeConditions := by
  unfold closeConditions
  split
  · exact .refl system
  · exact (resolveConditions_view system _ .cancelled).trans ⟨rfl, rfl, rfl, rfl, rfl⟩

theorem resetConditions_view : SameView system system.resetConditions :=
  (closeConditions_view system).trans ⟨rfl, rfl, rfl, rfl, rfl⟩

theorem resetBoth_view : SameView system system.resetSynchronizer.resetConditions :=
  (resetSynchronizer_view system).trans (resetConditions_view _)

theorem scheduleFDv2RetryLocked_view (ttl : Int64) : SameView system (system.scheduleFDv2RetryLocked ttl) := by
  obtain ⟨delays, scheduled, _⟩ := scheduleFDv2RetryLocked_eq system ttl
  rw [scheduled]
  exact ⟨rfl, rfl, rfl, rfl, rfl⟩

/-- What a relation between the systems before and after needs for the callbacks to keep to it. It takes no notice of
the steps in `Frame`. -/
structure Respected (Frame R : FDv2DataSystem → FDv2DataSystem → Prop) : Prop where
  unchanged : ∀ system, Frame system system
  trans : ∀ {first second third}, Frame first second → Frame second third → Frame first third
  keeps : ∀ {first second}, Frame first second → R first second
  before : ∀ {first second third}, Frame first second → R second third → R first third
  resetBoth : ∀ system, Frame system system.resetSynchronizer.resetConditions
  sourceManager : ∀ system sourceManager, Frame system { system with sourceManager }
  schedule : ∀ system ttl, Frame system (system.scheduleFDv2RetryLocked ttl)
  start : ∀ system, R system system.startSynchronizers
  next : ∀ system, R system system.runSynchronizerNext
  interrupt : ∀ system kind message, R system (system.setInterrupted kind message)

namespace Respected
variable {Frame R : FDv2DataSystem → FDv2DataSystem → Prop} (respected : Respected Frame R)
include respected

theorem engageFDv1Fallback (directive : FDv1FallbackDirective) : R system (system.engageFDv1Fallback directive) := by
  unfold FDv2DataSystem.engageFDv1Fallback
  refine respected.before (respected.schedule system directive.ttl) ?_
  simp only
  split
  · exact respected.start _
  · exact respected.interrupt _ _ _

theorem onConditionFired (type : ConditionType) : R system (system.onConditionFired type) := by
  unfold FDv2DataSystem.onConditionFired
  split
  · exact respected.keeps (respected.unchanged system)
  · split
    · exact respected.keeps (respected.unchanged system)
    · refine respected.before (respected.resetBoth system) ?_
      simp only
      split
      · exact respected.before (respected.sourceManager _ _) (respected.start _)
      · exact respected.start _

theorem onFDv1RetryTimer : R system system.onFDv1RetryTimer := by
  unfold FDv2DataSystem.onFDv1RetryTimer
  split
  · exact respected.keeps (respected.unchanged system)
  · exact respected.before (respected.trans (respected.sourceManager system _) (respected.resetBoth _))
      (respected.start _)

theorem onSynchronizerResult (result : FDv2SourceResult) (visited : system.closed = false → ∀ {after},
      R ((system.inform result).visitSynchronizerResult result.value) after → R system after) :
    R system (system.onSynchronizerResult result) := by
  unfold FDv2DataSystem.onSynchronizerResult
  split
  · exact respected.keeps (respected.unchanged system)
  · rename_i running
    apply visited (by simpa using running)
    generalize (system.inform result).visitSynchronizerResult result.value = visited
    have managed (sourceManager : SourceManager) : Frame visited
        { visited with sourceManager }.resetSynchronizer.resetConditions :=
      respected.trans (respected.sourceManager visited sourceManager) (respected.resetBoth _)
    simp only
    split
    · exact respected.keeps (respected.resetBoth visited)
    · split
      · exact respected.before (managed _) (respected.engageFDv1Fallback _ _)
      · split
        · exact respected.before (managed _) (respected.start _)
        · exact respected.next visited

end Respected

/-- One action, where a change set that is applied is one of those given. -/
inductive Acts (given : ChangeSet → Prop) : FDv2DataSystem → FDv2DataSystem → Prop where
  | keep {first second : FDv2DataSystem} (same : SameView first second) : Acts given first second
  | report (system : FDv2DataSystem) {state : ServerSide.DataSourceState} (kind : DataSourceStatusErrorKind)
      (message : String) (other : state ≠ .valid) :
      Acts given system (system.report (.stateWithKind state kind message))
  | apply (system : FDv2DataSystem) {changeSet : ChangeSet} (allowed : given changeSet) :
      Acts given system (system.applyChangeSet changeSet)
  | next (system : FDv2DataSystem) (synchronizer : Nat) :
      Acts given system (system.record (.next synchronizer system.selector))
  | build (system : FDv2DataSystem) :
      Acts given system { system with nextInstance := system.nextInstance + 1 }

abbrev Does (given : ChangeSet → Prop) : FDv2DataSystem → FDv2DataSystem → Prop := ReflTransGen (Acts given)

variable {second first next : FDv2DataSystem} {event : Event}

section
variable {given : ChangeSet → Prop}

theorem SameView.does (same : SameView first second) : Does given first second :=
  .single (.keep same)

theorem SameView.before {third : FDv2DataSystem} (same : SameView first second)
    (does : Does given second third) : Does given first third := .head (.keep same) does

theorem runSynchronizerNext_does : Does given system system.runSynchronizerNext := by
  unfold runSynchronizerNext
  split
  · exact .refl
  · split
    · rename_i synchronizer conditions _ _
      refine .head (.next system synchronizer) ?_
      simp only
      split
      · exact SameView.does ⟨rfl, rfl, rfl, rfl, rfl⟩
      · exact SameView.does ⟨rfl, rfl, rfl, rfl, rfl⟩
    · exact .refl

theorem activateSynchronizer_does : Does given system system.activateSynchronizer := by
  refine (resetConditions_view system).before (.head (.build _) (SameView.does ⟨rfl, rfl, rfl, ?_, rfl⟩))
  exact congrArg (· + 1) (resetConditions_view system).nextInstance.symm

theorem reportExhausted_does : Does given system system.reportExhausted := by
  unfold reportExhausted
  simp only
  split
  · exact .single (.report system _ _ (by simp))
  · exact .refl

theorem startSynchronizers_does : Does given system system.startSynchronizers := by
  unfold startSynchronizers
  split
  · exact .refl
  · have same : SameView system
        { system.resetSynchronizer with sourceManager := system.sourceManager.nextSynchronizer.2 } :=
      (resetSynchronizer_view system).trans ⟨rfl, rfl, rfl, rfl, rfl⟩
    refine same.before ?_
    simp only
    split
    · exact (activateSynchronizer_does _).trans (runSynchronizerNext_does _)
    · exact reportExhausted_does _

theorem runNextInitializer_does : Does given system system.runNextInitializer := by
  unfold runNextInitializer
  split
  · exact .refl
  · split
    · exact .head (.build system) (SameView.does ⟨rfl, rfl, rfl, rfl, rfl⟩)
    · exact startSynchronizers_does system

theorem setInterrupted_does (kind : DataSourceStatusErrorKind) (message : String) :
    Does given system (system.setInterrupted kind message) := .single (.report system kind message (by simp))

theorem respected_does : Respected SameView (Does given) where
  unchanged := .refl
  trans := .trans
  keeps := SameView.does
  before := SameView.before
  resetBoth := resetBoth_view
  sourceManager := sourceManager_view
  schedule := scheduleFDv2RetryLocked_view
  start system := startSynchronizers_does system
  next system := runSynchronizerNext_does system
  interrupt system := setInterrupted_does system

variable {value : FDv2SourceResult.Value} {result : FDv2SourceResult}

theorem visitInitializerResult_does (allowed : ∀ changeSet, value = .changeSet changeSet → given changeSet) :
    Does given system (system.visitInitializerResult value) := by
  cases value with
  | changeSet changeSet => exact .single (.apply system (allowed changeSet rfl))
  | interrupted | terminalError => exact setInterrupted_does system _ _
  | shutdown => exact .refl
  | goodbye reason => exact .refl

theorem visitSynchronizerResult_does (allowed : ∀ changeSet, value = .changeSet changeSet → given changeSet) :
    Does given system (system.visitSynchronizerResult value) := by
  obtain ⟨logged, same⟩ := visitSynchronizerResult_logged system value
  rw [same]
  have view : SameView system { system with lastLoggedSynchronizerInterrupted := logged } := ⟨rfl, rfl, rfl, rfl, rfl⟩
  exact view.before (visitInitializerResult_does _ allowed)

theorem onInitializerResult_does (allowed : ∀ changeSet, result.value = .changeSet changeSet → given changeSet) :
    Does given system (system.onInitializerResult result) := by
  refine (visitInitializerResult_does system allowed).trans ?_
  simp only [onInitializerResult]
  generalize system.visitInitializerResult result.value = visited
  have released : SameView visited { visited with activeInitializer := none } := ⟨rfl, rfl, rfl, rfl, rfl⟩
  split
  · exact released.does
  · refine released.before ?_
    split
    · exact (sourceManager_view _ _).before (respected_does.engageFDv1Fallback _ _)
    · split
      · exact startSynchronizers_does _
      · exact runNextInitializer_does _

theorem onSynchronizerResult_does
    (allowed : system.closed = false → ∀ changeSet, result.value = .changeSet changeSet → given changeSet) :
    Does given system (system.onSynchronizerResult result) := by
  apply respected_does.onSynchronizerResult
  intro running after does
  have informed : SameView system (system.inform result) := ⟨rfl, rfl, rfl, rfl, rfl⟩
  exact (informed.before (visitSynchronizerResult_does _ (allowed running))).trans does

end

def appliedBy : Posted → Option ChangeSet
  | .initializerResult ⟨.changeSet changeSet, _⟩ => some changeSet
  | .synchronizerResult _ ⟨.changeSet changeSet, _⟩ => if system.closed then none else some changeSet
  | _ => none

def applies : Event → Option ChangeSet
  | .runPosted position => system.posted[position]?.bind system.appliedBy
  | _ => none

theorem runPosted_does (item : Posted) :
    Does (fun changeSet => system.appliedBy item = some changeSet) system (system.runPosted item) := by
  cases item with
  | runNextInitializer => exact runNextInitializer_does system
  | initializerResult result =>
    refine onInitializerResult_does system ?_
    intro changeSet same
    obtain ⟨value, fdv1Fallback⟩ := result
    cases same
    rfl
  | conditionFired synchronizer type => exact respected_does.onConditionFired system type
  | synchronizerResult synchronizer result =>
    refine onSynchronizerResult_does system ?_
    intro running changeSet same
    obtain ⟨value, fdv1Fallback⟩ := result
    cases same
    simp [appliedBy, running]
  | retryTimer fired =>
    cases fired with
    | true => exact respected_does.onFDv1RetryTimer system
    | false => exact .refl

theorem close_view : SameView system system.close := by
  have cancelled : SameView system { system with closed := true }.cancelRetry := ⟨rfl, rfl, rfl, rfl, rfl⟩
  unfold close
  simp only
  split
  · exact cancelled.trans (closeConditions_view _)
  · exact (cancelled.trans (closeSynchronizer_view _ _)).trans (closeConditions_view _)

/-- Only the executor makes the data system act. Everything else carries continuations forward. -/
theorem step_cases {system : FDv2DataSystem} (taken : system.step event = some next) :
    (SameView system next ∧ SameContinuations system next) ∨
      ∃ position item, event = .runPosted position ∧ system.posted[position]? = some item ∧
        next = (system.dequeue position).runPosted item := by
  obtain ran | ⟨rfl, rfl⟩ | ⟨moves, _⟩ := step_moves taken
  · exact .inr ran
  · exact .inl ⟨close_view system, (close_same system).1⟩
  · exact .inl ⟨moves.toSameView, moves.toSameContinuations⟩

theorem Does.invariant {given : ChangeSet → Prop} {Inv : FDv2DataSystem → Prop}
    (does : Does given first second) (keeps : ∀ {before after}, Acts given before after → Inv before → Inv after)
    (start : Inv first) : Inv second := by
  induction does with
  | refl => exact start
  | tail _ acts ih => exact keeps acts ih

theorem step_does {system : FDv2DataSystem} (taken : system.step event = some next) :
    Does (fun changeSet => system.applies event = some changeSet) system next := by
  obtain ⟨same, _⟩ | ⟨position, item, rfl, found, rfl⟩ := step_cases taken
  · exact same.does
  · have dequeued : SameView system (system.dequeue position) := ⟨rfl, rfl, rfl, rfl, rfl⟩
    simp only [applies, found, Option.bind_some]
    exact dequeued.before (runPosted_does (system.dequeue position) item)

end FDv2DataSystem

end FlagSdk.Fdv2
