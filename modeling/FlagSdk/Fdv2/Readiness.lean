import FlagSdk.Fdv2.Actions

/-! When the client counts as started. The future of `StartAsync` is resolved by a listener of the status, which asks
for the store each time it is called. A report that the status is valid calls the listeners only when the status
changes, so a change set that makes it valid before the store is initialized leaves the future unresolved. -/

namespace FlagSdk.Fdv2
open Data Lib.Runs

def Action.resolves : Action → Bool
  | .applied _ => false
  | .signalled _ initialized => initialized
  | .next _ _ => false

namespace FDv2DataSystem

/-- Whether the future of `StartAsync` is resolved. Its listener is there from the start, and goes once it has found
the store initialized. -/
def startResolved (system : FDv2DataSystem) : Bool := system.log.any Action.resolves

/-- The status is valid only with an initialized store, and the client counts as started exactly then. -/
structure Ready (system : FDv2DataSystem) : Prop where
  valid : system.statusManager.state = .valid → system.store.initialized = true
  started : system.startResolved = true ↔ system.store.initialized = true

/-- What is applied to a store that is not initialized is a full change set. -/
def InitializesFirst (system : FDv2DataSystem) (event : Event) : Prop :=
  ∀ changeSet ∈ system.applies event, system.store.initialized = true ∨ changeSet.type = .kFull
  deriving Decidable

variable (system : FDv2DataSystem)

theorem startResolved_record (action : Action) :
    (system.record action).startResolved = (system.startResolved || action.resolves) := by
  simp [startResolved, record]

section
variable (report : Report ServerSide.DataSourceState)

theorem startResolved_report :
    (system.report report).startResolved =
      (system.startResolved || (system.statusManager.signals report && system.store.initialized)) := by
  unfold FDv2DataSystem.report
  simp only
  split
  · rename_i signals
    rw [startResolved_record, signals]
    rfl
  · rename_i quiet
    simp [startResolved, quiet]

theorem report_store : (system.report report).store = system.store := by
  obtain ⟨log, reported⟩ := report_eq system report
  rw [reported]

end

theorem Ready.report_error {system : FDv2DataSystem} (ready : system.Ready) {state : ServerSide.DataSourceState}
    (kind : DataSourceStatusErrorKind) (message : String) (other : state ≠ .valid) :
    (system.report (.stateWithKind state kind message)).Ready where
  valid := by
    intro valid
    obtain same | same := system.statusManager.state_updateState state
    · exact absurd (same.symm.trans valid) other
    · cases same.symm.trans valid
  started := by
    rw [startResolved_report, report_store, ← ready.started]
    simp [DataSourceStatusManager.signals, ready.started]

theorem Ready.applyChangeSet {system : FDv2DataSystem} (ready : system.Ready) {changeSet : ChangeSet}
    (initializes : (system.store.apply changeSet).initialized = true) : (system.applyChangeSet changeSet).Ready := by
  have initialized : (system.applyChangeSet changeSet).store.initialized = true := by
    rw [FDv2DataSystem.applyChangeSet, report_store]
    exact initializes
  refine ⟨fun _ => initialized, iff_of_true ?_ initialized⟩
  rw [FDv2DataSystem.applyChangeSet, startResolved_report]
  by_cases before : system.startResolved = true
  · rw [startResolved_record]
    exact Bool.or_eq_true_iff.2 (.inl (Bool.or_eq_true_iff.2 (.inl before)))
  · have invalid : system.statusManager.state ≠ .valid := fun valid => before (ready.started.2 (ready.valid valid))
    have signals : system.statusManager.signals (.state .valid) = true := by
      simpa [DataSourceStatusManager.signals, DataSourceStatusManager.setState, DataSourceStatusManager.updateState,
        DataSourceStates.interrupted] using Ne.symm invalid
    exact Bool.or_eq_true_iff.2 (.inr (Bool.and_eq_true_iff.2 ⟨signals, initializes⟩))

theorem Ready.of_view {first second : FDv2DataSystem} (same : SameView first second) (ready : first.Ready) :
    second.Ready where
  valid := by
    rw [same.statusManager, same.store]
    exact ready.valid
  started := by
    rw [startResolved, same.log, same.store]
    exact ready.started

theorem Ready.acts {given : ChangeSet → Prop} {initialized : Bool} {before after : FDv2DataSystem}
    (allowed : ∀ changeSet, given changeSet → initialized = true ∨ changeSet.type = .kFull)
    (acts : Acts given before after)
    (ready : before.Ready ∧ (initialized = true → before.store.initialized = true)) :
    after.Ready ∧ (initialized = true → after.store.initialized = true) := by
  obtain ⟨ready, kept⟩ := ready
  cases acts with
  | keep same => exact ⟨ready.of_view same, same.store ▸ kept⟩
  | report kind message other => exact ⟨ready.report_error kind message other, (report_store _ _).symm ▸ kept⟩
  | @apply changeSet given =>
    have initializes : (before.store.apply changeSet).initialized = true := by
      rw [MemoryStore.initialized_apply, Bool.or_eq_true_iff, decide_eq_true_eq]
      exact (allowed changeSet given).symm.imp_right kept
    refine ⟨ready.applyChangeSet initializes, fun _ => ?_⟩
    rw [FDv2DataSystem.applyChangeSet, report_store]
    exact initializes
  | next synchronizer =>
    refine ⟨⟨ready.valid, ?_⟩, kept⟩
    rw [startResolved_record]
    rw [Action.resolves, Bool.or_false]
    exact ready.started
  | build => exact ⟨⟨ready.valid, ready.started⟩, kept⟩

theorem step_ready {system next : FDv2DataSystem} {event : Event} (ready : system.Ready)
    (first : system.InitializesFirst event) (taken : system.step event = some next) : next.Ready :=
  (Does.invariant (step_does taken) (Ready.acts first) ⟨ready, id⟩).1

theorem start_ready {config : Config} (sources : config.initializers ≠ 0 ∨ config.synchronizers ≠ []) :
    (start config).Ready := by
  have online : ¬ ((construct config).initializerFactories = 0 ∧
      (construct config).sourceManager.synchronizerCount = 0) := by
    intro offline
    have none : config.synchronizers = [] := by
      simpa [construct, SourceManager.synchronizerCount, SourceManager.ofFactories] using offline.2
    exact sources.elim (absurd offline.1) (absurd none)
  rw [start, if_neg online]
  refine ⟨fun valid => ?_, iff_of_false Bool.false_ne_true Bool.false_ne_true⟩
  cases valid

/-- With at least one source, the system is ready whenever no callback is running, in every run in which only full
change sets are applied until the store is initialized. -/
theorem ready_of_run (config : Config) (sources : config.initializers ≠ 0 ∨ config.synchronizers ≠ [])
    (events : List Event) (first : Along step InitializesFirst (start config) events) (system : FDv2DataSystem)
    (reached : run step (start config) events = some system) : system.Ready :=
  run_invariant step_ready (start_ready sources) first reached

def firstChangeSet (changeSet : ChangeSet) : List Event :=
  [.runPosted 0, .synchronizerResult 0 ⟨.changeSet changeSet, none⟩, .runPosted 0]

theorem ready_after_full_changeSet : ∃ system,
    run step (start ⟨0, [false], false, false⟩) (firstChangeSet ⟨.kFull, [], ⟨none⟩⟩) = some system ∧
      system.store.initialized = true ∧ system.Ready :=
  ⟨_, rfl, rfl, ready_of_run ⟨0, [false], false, false⟩ (by decide) (firstChangeSet ⟨.kFull, [], ⟨none⟩⟩)
    (by decide) _ rfl⟩

/-- The synchronizer first says that there are no changes and then sends all data. The store is initialized and the
future is not resolved. -/
theorem not_started_after_empty_changeSet : ¬ ∀ config : Config,
    (config.initializers ≠ 0 ∨ config.synchronizers ≠ []) → ∀ events system,
      run step (start config) events = some system → system.Ready := by
  intro claimed
  obtain ⟨system, reached, initialized, waiting⟩ : ∃ system,
      run step (start ⟨0, [false], false, false⟩) (firstChangeSet ⟨.kNone, [], ⟨none⟩⟩ ++
        [.synchronizerResult 0 ⟨.changeSet ⟨.kFull, [], ⟨none⟩⟩, none⟩, .runPosted 0]) = some system ∧
      system.store.initialized = true ∧ system.startResolved = false := ⟨_, rfl, rfl, rfl⟩
  have ready := claimed _ (by decide) _ system reached
  rw [ready.started.2 initialized] at waiting
  cases waiting

end FDv2DataSystem

end FlagSdk.Fdv2
