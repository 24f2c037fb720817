import FlagSdk.Fdv2.Callbacks

/-! Whole runs of the orchestration, over every order of results, timers and posted work. They are
orderly as long as the retry timer never finds a synchronizer at work. When it does, the result of the
closed synchronizer is handled as if it came from the next one, which is then lost. -/

namespace FlagSdk.Fdv2
open Lib.Runs

def Posted.isShutdown : Posted → Bool
  | .initializerResult result => result.value = .shutdown
  | .synchronizerResult _ result => result.value = .shutdown
  | _ => false

namespace FDv2DataSystem

/-- If the event runs the callback of the retry timer, then no synchronizer is active. -/
def RetryFindsNoSynchronizer (system : FDv2DataSystem) : Event → Prop
  | .runPosted position => system.posted[position]? = some (.retryTimer true) →
      system.closed = false → system.activeSynchronizer = none
  | _ => True

/-- If the event runs the callback for a synchronizer's result, then that synchronizer is active. -/
def ResultFromActive (system : FDv2DataSystem) : Event → Prop
  | .runPosted position => ∀ synchronizer result,
      system.posted[position]? = some (.synchronizerResult synchronizer result) →
      system.activeSynchronizer = some synchronizer
  | _ => True

instance (system : FDv2DataSystem) (event : Event) : Decidable (system.RetryFindsNoSynchronizer event) := by
  cases event <;> unfold RetryFindsNoSynchronizer <;> infer_instance

variable {system : FDv2DataSystem}

theorem Uncancelled.erase (uncancelled : system.Uncancelled) (position : Nat) :
    (system.dequeue position).Uncancelled where
  posted := fun synchronizer member => uncancelled.posted synchronizer (List.mem_of_mem_eraseIdx member)
  conditions := uncancelled.conditions

variable {before after : FDv2DataSystem} {event : Event}

theorem Settles.coherent (settles : Settles before after) (uncancelled : before.Uncancelled) : after.Coherent := by
  obtain ⟨phase, inPhase⟩ := settles.phase
  exact inPhase.coherent (settles.uncancelled uncancelled)

variable {phase : Phase} {position : Nat} {item : Posted}

/-- Every callback of an open system goes on, once its continuation is the only one. -/
theorem runPosted_continues (inPhase : system.InPhase phase) (uncancelled : system.Uncancelled)
    (running : system.closed = false) (found : system.posted[position]? = some item)
    (guarded : system.RetryFindsNoSynchronizer (.runPosted position)) (alive : item.isShutdown = false)
    (fired : item ≠ .retryTimer false) :
    Continues (system.dequeue position)
      ((system.dequeue position).runPosted item) := by
  cases item with
  | runNextInitializer =>
    obtain ⟨idle, unscheduled⟩ := inPhase.take_initializer found rfl rfl rfl
    exact runNextInitializer_continues idle running unscheduled
  | initializerResult result =>
    obtain ⟨idle, unscheduled⟩ := inPhase.take_initializer found rfl rfl rfl
    exact onInitializerResult_continues idle running unscheduled (of_decide_eq_false alive)
  | conditionFired synchronizer type =>
    obtain ⟨released, _, _⟩ := inPhase.take_synchronizer found rfl
    have own : type ≠ .cancelled := by
      intro same
      subst same
      exact uncancelled.posted synchronizer (List.mem_of_getElem? found)
    exact onConditionFired_continues released running own
  | synchronizerResult synchronizer result =>
    obtain ⟨released, active, present⟩ := inPhase.take_synchronizer found rfl
    exact onSynchronizerResult_continues released running active present (of_decide_eq_false alive)
  | retryTimer elapsed =>
    cases elapsed with
    | false => exact absurd rfl fired
    | true =>
      obtain ⟨same, late⟩ := inPhase.take_retry found rfl rfl rfl
      have inactive := guarded found running
      cases phase with
      | initializing => exact absurd rfl late
      | synchronizing synchronizer =>
        rw [inPhase.active] at inactive
        cases inactive
      | idle => exact onFDv1RetryTimer_continues same.released_of_idle running

theorem runPosted_settles (inPhase : system.InPhase phase) (uncancelled : system.Uncancelled)
    (running : system.closed = false) (found : system.posted[position]? = some item)
    (guarded : system.RetryFindsNoSynchronizer (.runPosted position)) :
    Settles (system.dequeue position)
      ((system.dequeue position).runPosted item) := by
  by_cases aborted : item = .retryTimer false
  · subst aborted
    obtain ⟨same, _⟩ := inPhase.take_retry found rfl rfl rfl
    exact ⟨running, ⟨phase, same⟩, id, fun item member => .inl member⟩
  by_cases alive : item.isShutdown = false
  · exact (runPosted_continues inPhase uncancelled running found guarded alive aborted).toSettles
  cases item with
  | initializerResult result =>
    obtain ⟨idle, _⟩ := inPhase.take_initializer found rfl rfl rfl
    exact onInitializerResult_shutdown idle running (by simpa [Posted.isShutdown] using alive)
  | synchronizerResult synchronizer result =>
    obtain ⟨released, _, _⟩ := inPhase.take_synchronizer found rfl
    exact onSynchronizerResult_shutdown released running (by simpa [Posted.isShutdown] using alive)
  | runNextInitializer | conditionFired | retryTimer => exact absurd rfl alive

theorem runPosted_of_closed (closed : system.closed = true) (item : Posted) :
    SameContinuations system (system.runPosted item) ∧ (system.runPosted item).closed = true := by
  cases item with
  | runNextInitializer =>
    simp only [runPosted, runNextInitializer, if_pos closed]
    exact ⟨.refl system, closed⟩
  | initializerResult result =>
    obtain ⟨status, store, selector, log, visited⟩ := visitInitializerResult_eq system result.value
    simp only [runPosted, onInitializerResult, visited, closed, Bool.true_or, if_true]
    exact ⟨⟨rfl, .refl _, rfl, rfl, rfl⟩, trivial⟩
  | conditionFired synchronizer type =>
    simp only [runPosted, onConditionFired, if_pos closed, ite_self]
    exact ⟨.refl system, closed⟩
  | synchronizerResult synchronizer result =>
    simp only [runPosted, onSynchronizerResult, if_pos closed]
    exact ⟨.refl system, closed⟩
  | retryTimer fired =>
    simp only [runPosted, onFDv1RetryTimer, if_pos closed, ite_self]
    exact ⟨.refl system, closed⟩

theorem Coherent.erase_of_closed (coherent : system.Coherent) (closed : system.closed = true)
    (found : system.posted[position]? = some item) : (system.dequeue position).Coherent where
  single := by
    have counted := initializerContinuations_take found
    have next := (nextContinuations_take found).length_eq
    have single := coherent.single
    rw [List.length_append] at next
    omega
  fromActive := by
    intro synchronizer member
    exact coherent.fromActive synchronizer
      ((nextContinuations_take found).mem_iff.2 (List.mem_append_right _ member))
  phase := fun running => absurd (closed.symm.trans running) (by decide)
  uncancelled := fun running => absurd (closed.symm.trans running) (by decide)

variable {next : FDv2DataSystem}

/-- A step keeps the orchestration coherent, unless the retry timer finds a synchronizer at work. -/
theorem step_coherent (coherent : system.Coherent) (guarded : system.RetryFindsNoSynchronizer event)
    (taken : system.step event = some next) : next.Coherent := by
  obtain ⟨position, item, rfl, found, rfl⟩ | ⟨rfl, rfl⟩ | ⟨moves, _⟩ := step_moves taken
  · rcases Bool.eq_false_or_eq_true system.closed with closed | running
    · have erased := coherent.erase_of_closed closed found
      have still : (system.dequeue position).closed = true := closed
      obtain ⟨same, last⟩ := runPosted_of_closed still item
      exact same.coherent erased (fun running => absurd (last.symm.trans running) (by decide))
        (fun running => absurd (last.symm.trans running) (by decide))
    · obtain ⟨phase, inPhase⟩ := coherent.phase running
      have uncancelled := coherent.uncancelled running
      exact (runPosted_settles inPhase uncancelled running found guarded).coherent (uncancelled.erase position)
  · obtain ⟨same, closed⟩ := close_same system
    exact same.coherent coherent (fun running => absurd (closed.symm.trans running) (by decide))
      (fun running => absurd (closed.symm.trans running) (by decide))
  · exact moves.toSameContinuations.coherent coherent (fun running => moves.closed ▸ running) fun _ => moves.uncancelled

variable (config : Config)

theorem start_inPhase :
    ∃ phase, (start config).InPhase phase ∧
      (phase = .idle → (start config).sourceManager.availableSynchronizerCount = 0) := by
  unfold start
  simp only
  split
  · rename_i offline
    obtain ⟨log, reported⟩ := report_eq (construct config) (.state .valid)
    rw [reported]
    have none : config.synchronizers = [] := by
      simpa [construct, SourceManager.synchronizerCount, SourceManager.ofFactories] using offline.2
    refine ⟨.idle, ⟨rfl, rfl, rfl, by simp [Phase.synchronizer?], by simp⟩, fun _ => ?_⟩
    simp [construct, SourceManager.ofFactories, SourceManager.availableSynchronizerCount, none]
  · exact ⟨.initializing, ⟨rfl, rfl, rfl, by simp [Phase.synchronizer?], fun _ => rfl⟩, by simp⟩

theorem start_uncancelled : (start config).Uncancelled := by
  unfold start
  simp only
  split
  · obtain ⟨log, reported⟩ := report_eq (construct config) (.state .valid)
    rw [reported]
    exact ⟨fun _ => List.not_mem_nil, by simp [construct]⟩
  · exact ⟨by simp [construct], by simp [construct]⟩

theorem start_coherent : (start config).Coherent := by
  obtain ⟨phase, inPhase, _⟩ := start_inPhase config
  exact inPhase.coherent (start_uncancelled config)

/-- Along a run in which the retry timer never finds a synchronizer at work, every result that is
handled comes from the active synchronizer, and at most one `Next` has a continuation outstanding. -/
theorem results_from_active (config : Config) (events : List Event)
    (guarded : Along step RetryFindsNoSynchronizer (start config) events) :
    Along step ResultFromActive (start config) events ∧
      ∀ system, run step (start config) events = some system → system.nextContinuations.length ≤ 1 := by
  constructor
  · refine along_of_invariant (fun {_ _ _} => step_coherent) ?_ (start_coherent config) guarded
    intro system next event coherent _ _
    cases event with
    | runPosted position =>
      intro synchronizer result found
      apply coherent.fromActive synchronizer
      exact List.mem_append_right _ (List.mem_filterMap.2 ⟨_, List.mem_of_getElem? found, rfl⟩)
    | _ => trivial
  · intro system reached
    have single := (run_invariant step_coherent (start_coherent config) guarded reached).single
    omega

/-- A retry that finds nothing at work: the directive came without an FDv1 fallback to switch to. -/
theorem results_from_active_after_disconnect :
    Along step ResultFromActive (start ⟨0, [false], true, true⟩) [.runPosted 0,
      .synchronizerResult 0 ⟨.goodbye none, some ⟨60⟩⟩, .runPosted 0, .retryDelay 0 true, .runPosted 0] :=
  (results_from_active _ _ (by decide)).1

def fallbackConfig : Config := ⟨0, [false, true], false, false⟩

/-- The FDv2 synchronizer is told to fall back for a minute. When the minute is over, the retry timer
closes the FDv1 synchronizer, whose pending result becomes a shutdown, and starts a third one. -/
def retryEvents : List Event :=
  [.runPosted 0, .synchronizerResult 0 ⟨.goodbye none, some ⟨60⟩⟩, .runPosted 0, .retryDelay 0 true,
    .runPosted 0]

/-- The shutdown of the closed synchronizer is handled while its successor is active. -/
theorem results_from_active_fails_after_retry :
    ¬∀ config events, Along step ResultFromActive (start config) events ∧
      ∀ system, run step (start config) events = some system → system.nextContinuations.length ≤ 1 := by
  intro claimed
  obtain ⟨before, reached, stale, active⟩ : ∃ before,
      run step (start fallbackConfig) retryEvents = some before ∧
      before.posted[0]? = some (.synchronizerResult 1 ⟨.shutdown, none⟩) ∧
      before.activeSynchronizer = some 2 := ⟨_, rfl, rfl, rfl⟩
  obtain ⟨after, taken⟩ : ∃ after, before.step (.runPosted 0) = some after := by
    simp only [step, stale, Option.bind_eq_bind, Option.bind_some]
    exact ⟨_, rfl⟩
  have own := (claimed fallbackConfig (retryEvents ++ [.runPosted 0])).1.last reached taken
  have same := own 1 _ stale
  rw [active] at same
  cases same

/-! Progress. -/

/-- A source reports a shutdown only after it was closed. The data system closes a source that it
waits for only when it is closed itself; what its own resets do is part of the callbacks. -/
def ShutdownOnlyAfterClose (system : FDv2DataSystem) : Event → Prop
  | .initializerResult _ result => result.value = .shutdown → system.closed = true
  | .synchronizerResult _ result => result.value = .shutdown → system.closed = true
  | _ => True

instance (system : FDv2DataSystem) (event : Event) : Decidable (system.ShutdownOnlyAfterClose event) := by
  cases event <;> unfold ShutdownOnlyAfterClose <;> infer_instance

/-- Nothing is outstanding: no posted continuation, no awaited future and no armed retry timer. -/
structure Quiescent (system : FDv2DataSystem) : Prop where
  posted : system.posted = []
  initializerRuns : system.initializerRuns = []
  waits : system.waits = []
  retryDelays : ∀ delay ∈ system.retryDelays, delay.cancelled = true

/-- No source that is waited for was closed, and the system is idle only for a reason. -/
structure Live (system : FDv2DataSystem) : Prop where
  alive : ∀ item ∈ system.posted, item.isShutdown = false
  progress : system.InPhase .idle →
    system.sourceManager.availableSynchronizerCount = 0 ∨ system.RetryDue

theorem SameContinuations.symm {first second : FDv2DataSystem} (same : SameContinuations first second) :
    SameContinuations second first :=
  ⟨same.initializers.symm, same.next.symm, same.active.symm, same.conditions.symm, same.retry.symm⟩

theorem Moves.live (moves : Moves system next) (live : system.Live)
    (alive : ∀ item ∈ next.posted, item.isShutdown = false) : next.Live where
  alive := alive
  progress := by
    intro idle
    rw [moves.sourceManager]
    exact (live.progress (moves.toSameContinuations.symm.inPhase idle)).imp_right moves.retryDue

theorem Continues.live (continues : Continues before after)
    (alive : ∀ item ∈ before.posted, item.isShutdown = false) : after.Live where
  alive := by
    intro item member
    rcases continues.posted item member with old | ⟨synchronizer, type, rfl⟩
    · exact alive item old
    · rfl
  progress := continues.progress

theorem Live.dequeue_aborted (live : system.Live) (inPhase : system.InPhase phase)
    (found : system.posted[position]? = some (.retryTimer false)) : (system.dequeue position).Live where
  alive := fun item member => live.alive item (List.mem_of_mem_eraseIdx member)
  progress := by
    intro idle
    obtain ⟨same, _⟩ := inPhase.take_retry found rfl rfl rfl
    have stopped : phase = .idle := by
      have counted := same.initializers.symm.trans idle.initializers
      have active := same.active.symm.trans idle.active
      cases phase with
      | initializing => cases counted
      | synchronizing synchronizer => cases active
      | idle => rfl
    rcases live.progress (stopped ▸ inPhase) with exhausted | delay | posted
    · exact .inl exhausted
    · exact .inr (.inl delay)
    · have other := (perm_eraseIdx found).mem_iff.1 posted
      exact .inr (.inr (List.mem_of_ne_of_mem (by simp) other))

theorem step_live (coherent : system.Coherent) (live : system.closed = false → system.Live)
    (guarded : system.RetryFindsNoSynchronizer event) (sources : system.ShutdownOnlyAfterClose event)
    (taken : system.step event = some next) (running : next.closed = false) : next.Live := by
  obtain ⟨position, item, rfl, found, rfl⟩ | ⟨rfl, rfl⟩ | ⟨moves, posted⟩ := step_moves taken
  · rcases Bool.eq_false_or_eq_true system.closed with closed | before
    · have still : (system.dequeue position).closed = true := closed
      exact absurd ((runPosted_of_closed still item).2.symm.trans running) (by decide)
    obtain ⟨phase, inPhase⟩ := coherent.phase before
    by_cases aborted : item = .retryTimer false
    · subst aborted
      exact (live before).dequeue_aborted inPhase found
    · have alive := (live before).alive item (List.mem_of_getElem? found)
      exact (runPosted_continues inPhase (coherent.uncancelled before) before found guarded alive aborted).live
        fun other member => (live before).alive other (List.mem_of_mem_eraseIdx member)
  · exact absurd ((close_same system).2.symm.trans running) (by decide)
  · have before := moves.closed.symm.trans running
    have alive {result : FDv2SourceResult} (allowed : result.value = .shutdown → system.closed = true) :
        decide (result.value = .shutdown) = false :=
      decide_eq_false fun shutdown => by simpa [before] using allowed shutdown
    refine moves.live (live before) fun item member => ?_
    obtain old | brought := posted item member
    · exact (live before).alive item old
    · cases event with
      | runPosted | close => exact brought.elim
      | initializerResult => exact brought ▸ alive sources
      | synchronizerResult =>
        obtain ⟨synchronizer, rfl⟩ := brought
        exact alive sources
      | conditionTimer =>
        obtain ⟨synchronizer, type, rfl⟩ := brought
        rfl
      | retryDelay => exact brought ▸ rfl

theorem start_live : (start config).Live where
  alive := by
    unfold start
    simp only
    split
    · obtain ⟨log, reported⟩ := report_eq (construct config) (.state .valid)
      rw [reported]
      simp [construct]
    · simp [construct, Posted.isShutdown]
  progress := by
    intro idle
    obtain ⟨phase, inPhase, exhausted⟩ := start_inPhase config
    have counted := inPhase.initializers.symm.trans idle.initializers
    have active := inPhase.active.symm.trans idle.active
    cases phase with
    | initializing => cases counted
    | synchronizing synchronizer => cases active
    | idle => exact .inl (exhausted rfl)

theorem Quiescent.inPhase_idle (quiescent : system.Quiescent) (coherent : system.Coherent)
    (running : system.closed = false) : system.InPhase .idle := by
  obtain ⟨phase, inPhase⟩ := coherent.phase running
  have next : system.nextContinuations = [] := by
    simp [nextContinuations, quiescent.waits, quiescent.posted]
  have initializers : system.initializerContinuations = 0 := by
    simp [initializerContinuations, quiescent.initializerRuns, quiescent.posted]
  cases phase with
  | initializing => cases inPhase.initializers.symm.trans initializers
  | synchronizing synchronizer => cases inPhase.next.symm.trans next
  | idle => exact inPhase

theorem Quiescent.not_retryDue (quiescent : system.Quiescent) : ¬system.RetryDue := by
  intro due
  rcases due with ⟨delay, member, armed⟩ | posted
  · exact absurd (armed.symm.trans (quiescent.retryDelays delay member)) (by decide)
  · rw [quiescent.posted] at posted
    cases posted

end FDv2DataSystem

/-- The directive that comes with a result, if the event is a result. -/
def Event.directive : Event → Option FDv1FallbackDirective
  | .initializerResult _ result => result.fdv1Fallback
  | .synchronizerResult _ result => result.fdv1Fallback
  | _ => none

/-- A directive to fall back for good arrived and there is no FDv1 synchronizer. -/
def StrandedByDirective (config : Config) (events : List Event) : Prop :=
  true ∉ config.synchronizers ∧ ∃ event ∈ events, event.directive = some ⟨0⟩

namespace FDv2DataSystem

/-- The orchestration goes quiet only when nothing is available any more. -/
theorem quiescent_only_when_exhausted (config : Config) (events : List Event)
    (sources : Along step ShutdownOnlyAfterClose (start config) events)
    (guarded : Along step RetryFindsNoSynchronizer (start config) events)
    (system : FDv2DataSystem) (reached : run step (start config) events = some system)
    (running : system.closed = false) (quiescent : system.Quiescent) :
    system.sourceManager.availableSynchronizerCount = 0 ∨ StrandedByDirective config events := by
  have kept : ∀ {system next : FDv2DataSystem} {event : Event},
      (system.Coherent ∧ (system.closed = false → system.Live)) →
      (system.RetryFindsNoSynchronizer event ∧ system.ShutdownOnlyAfterClose event) →
      system.step event = some next → next.Coherent ∧ (next.closed = false → next.Live) :=
    fun invariant good taken => ⟨step_coherent invariant.1 good.1 taken,
      step_live invariant.1 invariant.2 good.1 good.2 taken⟩
  obtain ⟨coherent, live⟩ := run_invariant kept ⟨start_coherent config, fun _ => start_live config⟩
    (guarded.and sources) reached
  have idle := quiescent.inPhase_idle coherent running
  exact .inl (((live running).progress idle).resolve_right quiescent.not_retryDue)

/-- After a terminal error of its only synchronizer the system is quiet, and nothing is available. -/
theorem quiescent_after_terminalError : ∃ system, run step (start ⟨0, [false], false, false⟩) [.runPosted 0,
      .synchronizerResult 0 ⟨.terminalError ⟨.errorResponse, 401, "unauthorized"⟩, none⟩,
      .runPosted 0] = some system ∧ system.Quiescent ∧
    (system.sourceManager.availableSynchronizerCount = 0 ∨
      StrandedByDirective ⟨0, [false], false, false⟩ [.runPosted 0,
        .synchronizerResult 0 ⟨.terminalError ⟨.errorResponse, 401, "unauthorized"⟩, none⟩, .runPosted 0]) :=
  have quiet : Quiescent _ := ⟨rfl, rfl, rfl, by decide⟩
  ⟨_, rfl, quiet, quiescent_only_when_exhausted _ _ (by decide) (by decide) _ rfl rfl quiet⟩

/-- After the stale shutdown was handled, the successor is gone and nothing is outstanding, although
the FDv2 synchronizer is available. -/
theorem quiescent_after_retry :
    ¬∀ config events, Along step ShutdownOnlyAfterClose (start config) events →
      ∀ system, run step (start config) events = some system → system.closed = false → system.Quiescent →
        system.sourceManager.availableSynchronizerCount = 0 ∨ StrandedByDirective config events := by
  intro claimed
  obtain ⟨system, reached, running, quiescent, available⟩ : ∃ system,
      run step (start fallbackConfig) (retryEvents ++ [.runPosted 0, .runPosted 0]) = some system ∧
      system.closed = false ∧ system.Quiescent ∧ system.sourceManager.availableSynchronizerCount = 1 :=
    ⟨_, rfl, rfl, ⟨rfl, rfl, rfl, by decide⟩, rfl⟩
  rcases claimed _ _ (by decide) system reached running quiescent with exhausted | ⟨missing, _⟩
  · rw [available] at exhausted
    cases exhausted
  · exact missing (by decide)

end FDv2DataSystem

end FlagSdk.Fdv2
