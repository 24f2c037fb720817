import FlagSdk.Fdv2.Phases

/-! The callbacks of the orchestration, each run with no other continuation outstanding. A callback
either waits for a source again, or leaves nothing to wait for and then no synchronizer is available
unless a retry is due. -/

namespace FlagSdk.Fdv2.FDv2DataSystem
open Data

variable (system : FDv2DataSystem) (value : FDv2SourceResult.Value)

theorem buildActiveConditions_types (id : Nat) :
    ∀ condition ∈ (system.buildActiveConditions id).conditions, condition.type ≠ .cancelled := by
  intro condition member
  simp only [buildActiveConditions] at member
  split at member
  · cases member
  · rcases List.mem_append.1 member with fallback | recovery
    · split at fallback
      · cases List.mem_singleton.1 fallback
        decide
      · cases fallback
    · split at recovery
      · cases List.mem_singleton.1 recovery
        decide
      · cases recovery

theorem report_eq (report : Report ServerSide.DataSourceState) :
    ∃ log, system.report report =
      { system with statusManager := system.statusManager.receive report, log := log } := by
  unfold FDv2DataSystem.report
  simp only
  split
  · exact ⟨_, rfl⟩
  · exact ⟨_, rfl⟩

theorem scheduleFDv2RetryLocked_eq (ttl : Int64) :
    ∃ delays, system.scheduleFDv2RetryLocked ttl = { system with retryDelays := delays } ∧
      (ttl ≠ 0 → ∃ delay ∈ delays, delay.cancelled = false) := by
  unfold scheduleFDv2RetryLocked
  split
  · rename_i zero
    exact ⟨system.retryDelays, rfl, fun positive => absurd zero positive⟩
  · exact ⟨_, rfl, fun _ => ⟨⟨false⟩, by simp, rfl⟩⟩

theorem visitInitializerResult_eq :
    ∃ status store selector log, system.visitInitializerResult value =
      { system with statusManager := status, store := store, selector := selector, log := log } := by
  cases value with
  | changeSet changeSet => exact ⟨_, _, _, report_eq _ _⟩
  | interrupted error | terminalError error =>
    exact ⟨_, _, _, report_eq system (.stateWithKind .interrupted error.kind error.message)⟩
  | shutdown | goodbye => exact ⟨_, _, _, _, rfl⟩

theorem visitSynchronizerResult_logged :
    ∃ logged, system.visitSynchronizerResult value =
      { system with lastLoggedSynchronizerInterrupted := logged }.visitInitializerResult value := by
  cases value with
  | changeSet => exact ⟨false, rfl⟩
  | interrupted => exact ⟨true, rfl⟩
  | _ => exact ⟨system.lastLoggedSynchronizerInterrupted, rfl⟩

theorem visitSynchronizerResult_eq :
    ∃ logged status store selector log, system.visitSynchronizerResult value =
      { system with
        lastLoggedSynchronizerInterrupted := logged
        statusManager := status
        store := store
        selector := selector
        log := log } := by
  obtain ⟨logged, same⟩ := visitSynchronizerResult_logged system value
  obtain ⟨status, store, selector, log, visited⟩ :=
    visitInitializerResult_eq { system with lastLoggedSynchronizerInterrupted := logged } value
  exact ⟨logged, status, store, selector, log, same.trans visited⟩

variable {system} {synchronizer : Nat}

theorem resetSynchronizer_eq (noWaits : system.waits = []) :
    system.resetSynchronizer = { system with activeSynchronizer := none } := by
  unfold resetSynchronizer
  split
  · rename_i inactive
    rw [← inactive]
  · simp [closeSynchronizer, resolveWaits, noWaits]

theorem resetConditions_eq (noWaits : system.waits = []) :
    system.resetConditions = { system with activeConditions := none } := by
  unfold resetConditions closeConditions
  split
  · rfl
  · unfold resolveConditions
    split
    · rfl
    · simp [resolveWaits, noWaits]

theorem resetBoth_eq (noWaits : system.waits = []) : system.resetSynchronizer.resetConditions =
    { system with activeSynchronizer := none, activeConditions := none } := by
  have quiet : { system with activeSynchronizer := none }.waits = [] := noWaits
  rw [resetSynchronizer_eq noWaits, resetConditions_eq quiet]

theorem runSynchronizerNext_of_active {conditions : Conditions} (running : system.closed = false)
    (active : system.activeSynchronizer = some synchronizer) (present : system.activeConditions = some conditions) :
    system.runSynchronizerNext = match conditions.aggregateResult with
      | some type => { system with
          posted := system.posted ++ [.conditionFired synchronizer type]
          log := system.log ++ [.next synchronizer system.selector] }
      | none => { system with
          waits := system.waits ++ [⟨synchronizer, conditions.id, system.selector⟩]
          log := system.log ++ [.next synchronizer system.selector] } := by
  cases result : conditions.aggregateResult with
  | none | some => simp [runSynchronizerNext, record, running, active, present, result]

theorem startSynchronizers_of_found (running : system.closed = false) (noWaits : system.waits = [])
    (found : system.sourceManager.nextSynchronizer.1.isSome) :
    ∃ conditions : Conditions, conditions.aggregateResult = none ∧
      (∀ condition ∈ conditions.conditions, condition.type ≠ .cancelled) ∧
      system.startSynchronizers = { system with
        sourceManager := system.sourceManager.nextSynchronizer.2
        activeSynchronizer := some system.nextInstance
        nextInstance := system.nextInstance + 1
        lastLoggedSynchronizerInterrupted := false
        activeConditions := some conditions
        waits := [⟨system.nextInstance, conditions.id, system.selector⟩]
        log := system.log ++ [.next system.nextInstance system.selector] } := by
  let built : FDv2DataSystem := { system with
    activeSynchronizer := none
    sourceManager := system.sourceManager.nextSynchronizer.2 }
  refine ⟨built.buildActiveConditions system.nextInstance, rfl, buildActiveConditions_types built _, ?_⟩
  have unfolded : system.startSynchronizers = built.activateSynchronizer.runSynchronizerNext := by
    simp only [startSynchronizers, running, resetSynchronizer_eq noWaits, found, built]
    rfl
  have activated : built.activateSynchronizer = { built with
      activeSynchronizer := some system.nextInstance
      nextInstance := system.nextInstance + 1
      lastLoggedSynchronizerInterrupted := false
      activeConditions := some (built.buildActiveConditions system.nextInstance) } := by
    have quiet : built.waits = [] := noWaits
    rw [activateSynchronizer, resetConditions_eq quiet]
  have open_ : built.activateSynchronizer.closed = false := activated ▸ running
  rw [unfolded, runSynchronizerNext_of_active open_ rfl rfl, activated]
  simp [buildActiveConditions, built, noWaits]

theorem inform_type (condition : TimedCondition) (result : FDv2SourceResult) :
    (condition.inform result).type = condition.type := by
  unfold TimedCondition.inform
  split
  · unfold TimedCondition.cancelTimer
    split <;> rfl
  · unfold TimedCondition.armTimer
    split <;> rfl
  · rfl

theorem Uncancelled.inform (uncancelled : system.Uncancelled) (result : FDv2SourceResult) :
    (system.inform result).Uncancelled where
  posted := uncancelled.posted
  conditions := by
    intro conditions informed
    obtain ⟨old, present, rfl⟩ := Option.map_eq_some_iff.1 informed
    have unclosed := uncancelled.conditions old present
    refine ⟨unclosed.result, ?_⟩
    intro condition member
    obtain ⟨before, earlier, rfl⟩ := List.mem_map.1 member
    rw [inform_type]
    exact unclosed.types before earlier

theorem startSynchronizers_of_none (running : system.closed = false) (noWaits : system.waits = [])
    (none : system.sourceManager.nextSynchronizer.1 = none) :
    ∃ status log, system.startSynchronizers = { system with
      sourceManager := system.sourceManager.nextSynchronizer.2
      activeSynchronizer := Option.none
      statusManager := status
      log := log } := by
  simp only [startSynchronizers, running, resetSynchronizer_eq noWaits, none, reportExhausted]
  split
  · contradiction
  · split
    · contradiction
    · split
      · obtain ⟨log, reported⟩ := report_eq _ _
        exact ⟨_, log, reported⟩
      · exact ⟨_, _, rfl⟩

/-! What each callback leaves behind. -/

structure Settles (before after : FDv2DataSystem) : Prop where
  running : after.closed = false
  phase : ∃ phase, after.InPhase phase
  uncancelled : before.Uncancelled → after.Uncancelled
  posted : ∀ item ∈ after.posted, item ∈ before.posted ∨
    ∃ synchronizer type, item = .conditionFired synchronizer type

/-- A callback that does not stop while it could go on. -/
structure Continues (before after : FDv2DataSystem) : Prop extends Settles before after where
  progress : after.InPhase .idle →
    after.sourceManager.availableSynchronizerCount = 0 ∨ after.RetryDue

variable {after middle before : FDv2DataSystem} {result : FDv2SourceResult}

theorem Settles.after_update (settles : Settles middle after)
    (posted : middle.posted = before.posted) (uncancelled : before.Uncancelled → middle.Uncancelled) :
    Settles before after where
  running := settles.running
  phase := settles.phase
  uncancelled := settles.uncancelled ∘ uncancelled
  posted := posted ▸ settles.posted

theorem Continues.after_update (continues : Continues middle after)
    (posted : middle.posted = before.posted) (uncancelled : before.Uncancelled → middle.Uncancelled) :
    Continues before after where
  toSettles := continues.toSettles.after_update posted uncancelled
  progress := continues.progress

theorem Uncancelled.without_conditions (uncancelled : system.Uncancelled) {other : FDv2DataSystem}
    (posted : other.posted = system.posted) (none : other.activeConditions = none) : other.Uncancelled where
  posted := posted ▸ uncancelled.posted
  conditions := by simp [none]

theorem InPhase.not_idle_of_next {others : List Nat} (next : system.nextContinuations = synchronizer :: others) :
    ¬system.InPhase .idle := by
  intro idle
  simp [idle.next, Phase.synchronizer?] at next

theorem Released.posted (released : system.Released) : system.posted.filterMap Posted.synchronizer? = [] :=
  (List.append_eq_nil_iff.1 released.next).2

theorem Released.reset (released : system.Released) (manager : SourceManager) : FDv2DataSystem.InPhase { system with
    sourceManager := manager
    activeSynchronizer := none
    activeConditions := none } .idle :=
  Released.inPhase_idle ⟨released.initializers, released.next⟩ rfl

theorem Continues.of_next (running : after.closed = false) (initializers : after.initializerContinuations = 0)
    (next : after.nextContinuations = [synchronizer]) (active : after.activeSynchronizer = some synchronizer)
    (present : after.activeConditions.isSome) (uncancelled : system.Uncancelled → after.Uncancelled)
    (posted : ∀ item ∈ after.posted, item ∈ system.posted ∨
      ∃ synchronizer type, item = .conditionFired synchronizer type) : Continues system after where
  running := running
  phase := ⟨.synchronizing synchronizer, initializers, next, active, fun _ => present, by simp⟩
  uncancelled := uncancelled
  posted := posted
  progress := fun idle => absurd idle (InPhase.not_idle_of_next next)

theorem startSynchronizers_continues (released : system.Released) (running : system.closed = false) :
    Continues system system.startSynchronizers := by
  by_cases found : system.sourceManager.nextSynchronizer.1.isSome
  · obtain ⟨conditions, unresolved, types, result⟩ :=
      startSynchronizers_of_found running released.waits found
    rw [result]
    refine .of_next running released.initializers ?_ rfl rfl ?_ fun item member => .inl member
    · simp [nextContinuations, released.posted]
    · intro uncancelled
      refine ⟨uncancelled.posted, ?_⟩
      intro other same
      cases same
      exact ⟨by simp [unresolved], types⟩
  · rw [Option.not_isSome_iff_eq_none] at found
    obtain ⟨status, log, result⟩ := startSynchronizers_of_none running released.waits found
    have exhausted := SourceManager.nextSynchronizer_none found
    rw [result]
    refine ⟨⟨running, ⟨.idle, Released.inPhase_idle ⟨released.initializers, released.next⟩ rfl⟩, ?_, ?_⟩, ?_⟩
    · exact fun uncancelled => ⟨uncancelled.posted, uncancelled.conditions⟩
    · exact fun item member => .inl member
    · exact fun _ => .inl exhausted

section
variable (idle : system.InPhase .idle) (running : system.closed = false)
include idle running

theorem runNextInitializer_continues (unscheduled : system.retryContinuations = 0) :
    Continues system system.runNextInitializer := by
  simp only [runNextInitializer, if_neg (Bool.eq_false_iff.1 running)]
  split
  · have counted := idle.initializers
    refine ⟨⟨running, ⟨.initializing, ?_, idle.next, idle.active, by simp [Phase.synchronizer?], fun _ => unscheduled⟩,
      ?_, fun item member => .inl member⟩, ?_⟩
    · simp only [initializerContinuations, Phase.initializers, List.length_append, List.length_singleton] at counted ⊢
      omega
    · exact fun uncancelled => ⟨uncancelled.posted, uncancelled.conditions⟩
    · intro stopped
      have none := stopped.initializers
      simp only [initializerContinuations, Phase.initializers, List.length_append, List.length_singleton] at none
      omega
  · exact startSynchronizers_continues idle.released_of_idle running

theorem engageFDv1Fallback_continues (directive : FDv1FallbackDirective) :
    Continues system (system.engageFDv1Fallback directive) := by
  obtain ⟨delays, scheduled, _⟩ := scheduleFDv2RetryLocked_eq system directive.ttl
  have released : { system with retryDelays := delays }.Released := ⟨idle.initializers, idle.next⟩
  simp only [engageFDv1Fallback, scheduled]
  split
  · exact (startSynchronizers_continues released running).after_update rfl
      fun uncancelled => ⟨uncancelled.posted, uncancelled.conditions⟩
  · rename_i blocked
    refine ⟨⟨running, ⟨.idle, Released.inPhase_idle ⟨idle.initializers, idle.next⟩ idle.active⟩, ?_, ?_⟩, ?_⟩
    · exact fun uncancelled => ⟨uncancelled.posted, uncancelled.conditions⟩
    · exact fun item member => .inl member
    · exact fun _ => .inl (Nat.eq_zero_of_not_pos blocked)

theorem onInitializerResult_shutdown (shutdown : result.value = .shutdown) :
    Settles system (system.onInitializerResult result) := by
  simp only [onInitializerResult, shutdown, visitInitializerResult, decide_true, Bool.or_true, if_true]
  exact ⟨running, ⟨.idle, Released.inPhase_idle ⟨idle.initializers, idle.next⟩ idle.active⟩,
    fun uncancelled => ⟨uncancelled.posted, uncancelled.conditions⟩, fun item member => .inl member⟩

theorem onInitializerResult_continues (unscheduled : system.retryContinuations = 0) (alive : result.value ≠ .shutdown) :
    Continues system (system.onInitializerResult result) := by
  obtain ⟨status, store, selector, log, visited⟩ := visitInitializerResult_eq system result.value
  simp only [onInitializerResult]
  generalize system.visitInitializerResult result.value = middle at visited ⊢
  have open_ : middle.closed = false := visited ▸ running
  have posted : middle.posted = system.posted := visited ▸ rfl
  have same : ∀ manager, { middle with activeInitializer := none, sourceManager := manager }.InPhase .idle :=
    fun manager => visited ▸ Released.inPhase_idle ⟨idle.initializers, idle.next⟩ idle.active
  have kept : ∀ manager, system.Uncancelled →
      { middle with activeInitializer := none, sourceManager := manager }.Uncancelled :=
    fun manager uncancelled => visited ▸ ⟨uncancelled.posted, uncancelled.conditions⟩
  have proceeds : ¬(middle.closed || decide (result.value = .shutdown)) = true := by simp [open_, alive]
  rw [if_neg proceeds]
  split
  · exact (engageFDv1Fallback_continues (same _) open_ _).after_update posted (kept _)
  · split
    · exact (startSynchronizers_continues (same _).released_of_idle open_).after_update posted (kept _)
    · exact (runNextInitializer_continues (same _) open_ (visited ▸ unscheduled)).after_update posted (kept _)

end

variable (released : system.Released) (running : system.closed = false)
include released running

theorem runSynchronizerNext_continues (active : system.activeSynchronizer = some synchronizer)
    (present : system.activeConditions.isSome) : Continues system system.runSynchronizerNext := by
  obtain ⟨conditions, stored⟩ := Option.isSome_iff_exists.1 present
  rw [runSynchronizerNext_of_active running active stored]
  cases resolved : conditions.aggregateResult with
  | some type =>
    refine .of_next running ?_ ?_ active present ?_ ?_
    · have same : [Posted.conditionFired synchronizer type].countP Posted.isInitializer = 0 := rfl
      rw [initializerContinuations, List.countP_append, same]
      exact released.initializers
    · simp [nextContinuations, released.waits, released.posted, Posted.synchronizer?]
    · intro uncancelled
      refine ⟨?_, uncancelled.conditions⟩
      intro other member
      rcases List.mem_append.1 member with old | new
      · exact uncancelled.posted other old
      · cases List.mem_singleton.1 new
        exact (uncancelled.conditions conditions stored).result resolved
    · intro item member
      rcases List.mem_append.1 member with old | new
      · exact .inl old
      · exact .inr ⟨synchronizer, type, List.mem_singleton.1 new⟩
  | none =>
    refine .of_next running released.initializers ?_ active present ?_ fun item member => .inl member
    · simp [nextContinuations, released.waits, released.posted]
    · exact fun uncancelled => ⟨uncancelled.posted, uncancelled.conditions⟩

theorem onConditionFired_continues {type : ConditionType} (fired : type ≠ .cancelled) :
    Continues system (system.onConditionFired type) := by
  simp only [onConditionFired, if_neg fired, if_neg (Bool.eq_false_iff.1 running), resetBoth_eq released.waits]
  split
  · exact (startSynchronizers_continues (released.reset _).released_of_idle running).after_update rfl
      fun uncancelled => uncancelled.without_conditions rfl rfl
  · exact (startSynchronizers_continues (released.reset _).released_of_idle running).after_update rfl
      fun uncancelled => uncancelled.without_conditions rfl rfl

theorem onFDv1RetryTimer_continues : Continues system system.onFDv1RetryTimer := by
  have quiet : { system with sourceManager := system.sourceManager.switchBackToFDv2 }.waits = [] :=
    released.waits
  simp only [onFDv1RetryTimer, if_neg (Bool.eq_false_iff.1 running), resetBoth_eq quiet]
  exact (startSynchronizers_continues (released.reset _).released_of_idle running).after_update rfl
    fun uncancelled => uncancelled.without_conditions rfl rfl

theorem onSynchronizerResult_shutdown (shutdown : result.value = .shutdown) :
    Settles system (system.onSynchronizerResult result) := by
  have quiet : (system.inform result).waits = [] := released.waits
  simp only [onSynchronizerResult, if_neg (Bool.eq_false_iff.1 running), shutdown, visitSynchronizerResult,
    decide_true, Bool.or_true, if_true, resetBoth_eq quiet]
  exact ⟨running, ⟨.idle, released.reset _⟩, fun uncancelled => uncancelled.without_conditions rfl rfl,
    fun item member => .inl member⟩

theorem onSynchronizerResult_continues (active : system.activeSynchronizer = some synchronizer)
    (present : system.activeConditions.isSome) (alive : result.value ≠ .shutdown) :
    Continues system (system.onSynchronizerResult result) := by
  obtain ⟨logged, status, store, selector, log, visited⟩ :=
    visitSynchronizerResult_eq (system.inform result) result.value
  simp only [onSynchronizerResult, if_neg (Bool.eq_false_iff.1 running)]
  generalize (system.inform result).visitSynchronizerResult result.value = middle at visited ⊢
  have same : middle.Released := visited ▸ ⟨released.initializers, released.next⟩
  have open_ : middle.closed = false := visited ▸ running
  have posted : middle.posted = system.posted := visited ▸ rfl
  have kept : system.Uncancelled → middle.Uncancelled :=
    fun uncancelled => visited ▸ ⟨uncancelled.posted, (uncancelled.inform result).conditions⟩
  have quiet : ∀ manager, { middle with sourceManager := manager }.waits = [] := fun _ => same.waits
  have proceeds : ¬(middle.closed || decide (result.value = .shutdown)) = true := by simp [open_, alive]
  rw [if_neg proceeds]
  split
  · rw [resetBoth_eq (quiet _)]
    exact (engageFDv1Fallback_continues (same.reset _) open_ _).after_update posted
      fun uncancelled => uncancelled.without_conditions posted rfl
  · split
    · rw [resetBoth_eq (quiet _)]
      exact (startSynchronizers_continues (same.reset _).released_of_idle open_).after_update posted
        fun uncancelled => uncancelled.without_conditions posted rfl
    · have stays : middle.activeSynchronizer = some synchronizer := visited ▸ active
      have informed : middle.activeConditions.isSome := by
        rw [visited]
        simpa [inform] using present
      exact (runSynchronizerNext_continues same open_ stays informed).after_update posted kept

end FlagSdk.Fdv2.FDv2DataSystem
