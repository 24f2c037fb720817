import FlagSdk.Fdv2.System

/-! What the orchestration is meant to do, one thing at a time: it runs initializers, or it waits
for one synchronizer, or it has nothing to wait for. Each of its callbacks is analysed once, for
a state in which no other continuation is outstanding. -/

namespace FlagSdk.Fdv2

namespace Posted

/-- The synchronizer for whose turn a continuation was made. -/
def synchronizer? : Posted → Option Nat
  | .conditionFired synchronizer _ => some synchronizer
  | .synchronizerResult synchronizer _ => some synchronizer
  | _ => none

def isInitializer : Posted → Bool
  | .runNextInitializer => true
  | .initializerResult _ => true
  | _ => false

def isRetry : Posted → Bool
  | .retryTimer _ => true
  | _ => false

end Posted

inductive Phase where
  | initializing
  | synchronizing (synchronizer : Nat)
  | idle
  deriving DecidableEq

namespace Phase

def synchronizer? : Phase → Option Nat
  | .synchronizing synchronizer => some synchronizer
  | _ => none

def initializers : Phase → Nat
  | .initializing => 1
  | _ => 0

end Phase

def Event.Brings : Event → Posted → Prop
  | .initializerResult _ result, item => item = .initializerResult result
  | .synchronizerResult _ result, item => ∃ synchronizer, item = .synchronizerResult synchronizer result
  | .conditionTimer _ _ _, item => ∃ synchronizer type, item = .conditionFired synchronizer type
  | .retryDelay _ fired, item => item = .retryTimer fired
  | _, _ => False

structure Conditions.Unclosed (conditions : Conditions) : Prop where
  result : conditions.aggregateResult ≠ some .cancelled
  types : ∀ condition ∈ conditions.conditions, condition.type ≠ .cancelled

namespace FDv2DataSystem

variable (system : FDv2DataSystem)

def nextContinuations : List Nat :=
  system.waits.map (·.synchronizer) ++ system.posted.filterMap Posted.synchronizer?

def initializerContinuations : Nat :=
  system.initializerRuns.length + system.posted.countP Posted.isInitializer

def retryContinuations : Nat :=
  system.retryDelays.length + system.posted.countP Posted.isRetry

/-- The state of the data system is that of a phase: exactly its continuations are outstanding. -/
structure InPhase (system : FDv2DataSystem) (phase : Phase) : Prop where
  initializers : system.initializerContinuations = phase.initializers
  next : system.nextContinuations = phase.synchronizer?.toList
  active : system.activeSynchronizer = phase.synchronizer?
  conditions : phase.synchronizer?.isSome → system.activeConditions.isSome
  retry : phase = .initializing → system.retryContinuations = 0

/-- Neither the active conditions nor a continuation of them comes from conditions that were closed. -/
structure Uncancelled (system : FDv2DataSystem) : Prop where
  posted : ∀ synchronizer, Posted.conditionFired synchronizer .cancelled ∉ system.posted
  conditions : ∀ conditions, system.activeConditions = some conditions → conditions.Unclosed

/-- At most one continuation is outstanding, and it belongs to the active synchronizer. -/
structure Coherent (system : FDv2DataSystem) : Prop where
  single : system.initializerContinuations + system.nextContinuations.length ≤ 1
  fromActive : ∀ synchronizer ∈ system.nextContinuations, system.activeSynchronizer = some synchronizer
  phase : system.closed = false → ∃ phase, system.InPhase phase
  uncancelled : system.closed = false → system.Uncancelled

structure Released (system : FDv2DataSystem) : Prop where
  initializers : system.initializerContinuations = 0
  next : system.nextContinuations = []

variable {system second first third next : FDv2DataSystem} {phase : Phase} {position timer : Nat} {fired : Bool}
    {item : Posted} {result : FDv2SourceResult}

theorem InPhase.coherent (inPhase : system.InPhase phase) (uncancelled : system.Uncancelled) : system.Coherent where
  single := by
    rw [inPhase.initializers, inPhase.next]
    cases phase <;> simp [Phase.initializers, Phase.synchronizer?]
  fromActive := by
    intro synchronizer member
    rw [inPhase.next] at member
    rw [inPhase.active, Option.mem_toList.1 member]
  phase := fun _ => ⟨phase, inPhase⟩
  uncancelled := fun _ => uncancelled

theorem Released.waits (released : system.Released) : system.waits = [] :=
  List.map_eq_nil_iff.1 (List.append_eq_nil_iff.1 released.next).1

theorem Released.inPhase_idle (released : system.Released)
    (inactive : system.activeSynchronizer = none) : system.InPhase .idle where
  initializers := released.initializers
  next := released.next
  active := inactive
  conditions := by simp [Phase.synchronizer?]
  retry := by simp

theorem InPhase.released_of_idle (inPhase : system.InPhase .idle) :
    system.Released := ⟨inPhase.initializers, inPhase.next⟩

/-! Taking a posted continuation out of the queue. -/

theorem perm_eraseIdx {α : Type*} {list : List α} {item : α}
    (found : list[position]? = some item) : list.Perm (item :: list.eraseIdx position) := by
  obtain ⟨bound, rfl⟩ := List.getElem?_eq_some_iff.1 found
  exact (List.getElem_cons_eraseIdx_perm bound).symm

section
variable (found : system.posted[position]? = some item)
include found

theorem nextContinuations_take : system.nextContinuations.Perm (item.synchronizer?.toList ++
    (system.dequeue position).nextContinuations) := by
  have moved : system.nextContinuations.Perm (system.waits.map (·.synchronizer) ++
      (item :: system.posted.eraseIdx position).filterMap Posted.synchronizer?) :=
    ((perm_eraseIdx found).filterMap _).append_left _
  apply moved.trans
  rw [List.filterMap_cons]
  cases item.synchronizer? with
  | none => exact .refl _
  | some synchronizer => exact List.perm_middle

theorem countP_take (kind : Posted → Bool) :
    system.posted.countP kind = (kind item).toNat + (system.dequeue position).posted.countP kind := by
  rw [(perm_eraseIdx found).countP_eq, List.countP_cons, Nat.add_comm]
  cases kind item <;> rfl

theorem initializerContinuations_take : system.initializerContinuations = item.isInitializer.toNat +
    (system.dequeue position).initializerContinuations := by
  rw [initializerContinuations, initializerContinuations, countP_take found, Nat.add_left_comm]
  rfl

theorem retryContinuations_take : system.retryContinuations = item.isRetry.toNat +
    (system.dequeue position).retryContinuations := by
  rw [retryContinuations, retryContinuations, countP_take found, Nat.add_left_comm]
  rfl

theorem InPhase.take_initializer (inPhase : system.InPhase phase)
    (kind : item.isInitializer = true) (other : item.synchronizer? = none) (notRetry : item.isRetry = false) :
    (system.dequeue position).InPhase .idle ∧
      (system.dequeue position).retryContinuations = 0 := by
  have counted := initializerContinuations_take found
  have next := nextContinuations_take found
  have retries := retryContinuations_take found
  rw [inPhase.initializers, kind] at counted
  rw [inPhase.next, other] at next
  cases phase with
  | initializing =>
    rw [inPhase.retry rfl, notRetry] at retries
    refine ⟨Released.inPhase_idle ⟨?_, next.symm.eq_nil⟩ inPhase.active, ?_⟩
    · simp only [Phase.initializers, Bool.toNat_true] at counted
      omega
    · simpa using retries.symm
  | synchronizing | idle =>
    simp only [Phase.initializers, Bool.toNat_true] at counted
    omega

theorem InPhase.take_synchronizer (inPhase : system.InPhase phase) {synchronizer : Nat}
    (kind : item.synchronizer? = some synchronizer) :
    (system.dequeue position).Released ∧
      system.activeSynchronizer = some synchronizer ∧ system.activeConditions.isSome := by
  have counted := initializerContinuations_take found
  have next := nextContinuations_take found
  rw [inPhase.initializers] at counted
  rw [inPhase.next, kind] at next
  cases phase with
  | initializing | idle => exact absurd next.nil_eq (by simp)
  | synchronizing other =>
    obtain ⟨same, rest⟩ := List.cons_eq_cons.1 (List.perm_singleton.1 next.symm)
    refine ⟨⟨?_, rest⟩, ?_, inPhase.conditions rfl⟩
    · simp only [Phase.initializers] at counted
      omega
    · rw [inPhase.active, same]
      rfl

theorem InPhase.take_retry (inPhase : system.InPhase phase)
    (kind : item.isRetry = true) (other : item.synchronizer? = none) (notInit : item.isInitializer = false) :
    (system.dequeue position).InPhase phase ∧ phase ≠ .initializing := by
  have counted := initializerContinuations_take found
  have next := nextContinuations_take found
  have retries := retryContinuations_take found
  rw [notInit, inPhase.initializers] at counted
  rw [inPhase.next, other] at next
  rw [kind] at retries
  have late : phase ≠ .initializing := by
    intro early
    rw [inPhase.retry early] at retries
    simp at retries
    omega
  refine ⟨⟨?_, ?_, inPhase.active, inPhase.conditions, fun early => absurd early late⟩, late⟩
  · simpa using counted.symm
  · cases phase with
    | initializing | idle => exact next.symm.eq_nil
    | synchronizing synchronizer => exact List.perm_singleton.1 next.symm

end

/-! Events that only carry a continuation forward. -/

/-- The second state has the same continuations outstanding as the first, in whatever form. -/
structure SameContinuations (first second : FDv2DataSystem) : Prop where
  initializers : second.initializerContinuations = first.initializerContinuations
  next : second.nextContinuations.Perm first.nextContinuations
  active : second.activeSynchronizer = first.activeSynchronizer
  conditions : second.activeConditions.isSome = first.activeConditions.isSome
  retry : second.retryContinuations = first.retryContinuations

theorem SameContinuations.inPhase
    (same : SameContinuations first second) (inPhase : first.InPhase phase) : second.InPhase phase where
  initializers := same.initializers.trans inPhase.initializers
  next := by
    have next := same.next
    rw [inPhase.next] at next
    cases phase with
    | initializing | idle => exact next.eq_nil
    | synchronizing synchronizer => exact List.perm_singleton.1 next
  active := same.active.trans inPhase.active
  conditions := fun waiting => same.conditions.trans (inPhase.conditions waiting)
  retry := fun early => same.retry.trans (inPhase.retry early)

theorem SameContinuations.coherent (same : SameContinuations first second)
    (coherent : first.Coherent) (running : second.closed = false → first.closed = false)
    (uncancelled : second.closed = false → first.Uncancelled → second.Uncancelled) : second.Coherent where
  single := by
    rw [same.initializers, same.next.length_eq]
    exact coherent.single
  fromActive := by
    intro synchronizer member
    rw [same.active]
    exact coherent.fromActive synchronizer (same.next.mem_iff.1 member)
  phase := by
    intro now
    obtain ⟨phase, inPhase⟩ := coherent.phase (running now)
    exact ⟨phase, same.inPhase inPhase⟩
  uncancelled := fun now => uncancelled now (coherent.uncancelled (running now))

section
variable (system) (conditions : Conditions) (type : ConditionType)

theorem resolveWaits_same (concerned : Wait → Bool) (outcome : Wait → Posted)
    (own : ∀ wait, (outcome wait).synchronizer? = some wait.synchronizer)
    (notInit : ∀ wait, (outcome wait).isInitializer = false) (notRetry : ∀ wait, (outcome wait).isRetry = false) :
    SameContinuations system (system.resolveWaits concerned outcome) where
  initializers := by
    simp [initializerContinuations, resolveWaits, List.countP_map, Function.comp_def, notInit]
  next := by
    have split := ((List.filter_append_perm concerned system.waits).map (·.synchronizer)).append_right
      (system.posted.filterMap Posted.synchronizer?)
    refine List.Perm.trans ?_ split
    simp only [nextContinuations, resolveWaits, List.filterMap_append, List.filterMap_map, Function.comp_def,
      own, List.filterMap_eq_map', List.map_append, List.append_assoc]
    apply (List.Perm.append_left _ List.perm_append_comm).trans
    rw [← List.append_assoc, ← List.append_assoc]
    exact List.perm_append_comm.append_right _
  active := rfl
  conditions := rfl
  retry := by
    simp [retryContinuations, resolveWaits, List.countP_map, Function.comp_def, notRetry]

theorem closeSynchronizer_same (synchronizer : Nat) :
    SameContinuations system (system.closeSynchronizer synchronizer) :=
  resolveWaits_same system _ _ (fun _ => rfl) (fun _ => rfl) (fun _ => rfl)

theorem SameContinuations.refl : SameContinuations system system :=
  ⟨rfl, .refl _, rfl, rfl, rfl⟩

theorem SameContinuations.trans (left : SameContinuations first second)
    (right : SameContinuations second third) : SameContinuations first third where
  initializers := right.initializers.trans left.initializers
  next := right.next.trans left.next
  active := right.active.trans left.active
  conditions := right.conditions.trans left.conditions
  retry := right.retry.trans left.retry

theorem resolveConditions_same : SameContinuations system (system.resolveConditions conditions type) := by
  unfold resolveConditions
  split
  · exact .refl system
  · exact resolveWaits_same system _ _ (fun _ => rfl) (fun _ => rfl) (fun _ => rfl)

theorem SameContinuations.set_conditions (same : SameContinuations first second)
    {old : Conditions} (present : first.activeConditions = some old) (new : Conditions) :
    SameContinuations first { second with activeConditions := some new } where
  initializers := same.initializers
  next := same.next
  active := same.active
  conditions := by rw [present]; rfl
  retry := same.retry

theorem closeConditions_same : SameContinuations system system.closeConditions := by
  unfold closeConditions
  split
  · exact .refl system
  · rename_i conditions present
    exact (resolveConditions_same system conditions .cancelled).set_conditions present _

structure SameView (first second : FDv2DataSystem) : Prop where
  statusManager : second.statusManager = first.statusManager
  store : second.store = first.store
  selector : second.selector = first.selector
  nextInstance : second.nextInstance = first.nextInstance
  log : second.log = first.log

theorem SameView.refl : SameView system system := ⟨rfl, rfl, rfl, rfl, rfl⟩

theorem SameView.trans (left : SameView first second) (right : SameView second third) : SameView first third where
  statusManager := right.statusManager.trans left.statusManager
  store := right.store.trans left.store
  selector := right.selector.trans left.selector
  nextInstance := right.nextInstance.trans left.nextInstance
  log := right.log.trans left.log

theorem resolveConditions_eq :
    ∃ waits more, system.resolveConditions conditions type =
      { system with waits := waits, posted := system.posted ++ more } := by
  unfold resolveConditions
  split
  · exact ⟨system.waits, [], by simp⟩
  · exact ⟨_, _, rfl⟩

theorem resolveConditions_view : SameView system (system.resolveConditions conditions type) := by
  obtain ⟨waits, more, resolved⟩ := resolveConditions_eq system conditions type
  rw [resolved]
  exact ⟨rfl, rfl, rfl, rfl, rfl⟩

theorem closed_resolveConditions : (system.resolveConditions conditions type).closed = system.closed := by
  unfold resolveConditions
  split <;> rfl

theorem closed_closeConditions : system.closeConditions.closed = system.closed := by
  unfold closeConditions
  split
  · rfl
  · exact closed_resolveConditions system _ _

/-- A retry is due: its delay is running, or has elapsed and its continuation is posted. -/
def RetryDue : Prop :=
  (∃ delay ∈ system.retryDelays, delay.cancelled = false) ∨ Posted.retryTimer true ∈ system.posted

end

theorem conditionTimer_eq_some (taken : system.conditionTimer position timer fired = some next) :
    ∃ conditions condition rest, system.activeConditions = some conditions ∧
      conditions.conditions[position]? = some condition ∧
      rest = conditions.conditions.set position { condition with timers := condition.timers.eraseIdx timer } ∧
      (next = { system.resolveConditions conditions condition.type with
          activeConditions := some { conditions with
            conditions := rest
            aggregateResult := some (conditions.aggregateResult.getD condition.type) } } ∨
        next = { system with activeConditions := some { conditions with conditions := rest } }) := by
  simp only [conditionTimer, Option.bind_eq_bind, Option.bind_eq_some_iff] at taken
  obtain ⟨conditions, present, condition, member, delay, _, result⟩ := taken
  refine ⟨conditions, condition, _, present, member, rfl, ?_⟩
  cases fired with
  | true => exact .inl (Option.some.inj result).symm
  | false =>
    by_cases cancelled : delay.cancelled = true
    · simp only [cancelled, if_true] at result
      exact .inr (Option.some.inj result).symm
    · simp [cancelled] at result

/-- An event that carries a continuation forward and does nothing else to the orchestration. -/
structure Moves (first second : FDv2DataSystem) : Prop extends SameContinuations first second, SameView first second where
  closed : second.closed = first.closed
  sourceManager : second.sourceManager = first.sourceManager
  uncancelled : first.Uncancelled → second.Uncancelled
  retryDue : first.RetryDue → second.RetryDue

theorem Uncancelled.post {other : FDv2DataSystem} (uncancelled : system.Uncancelled)
    (posted : other.posted = system.posted ++ [item]) (conditions : other.activeConditions = system.activeConditions)
    (ordinary : ∀ synchronizer, item ≠ .conditionFired synchronizer .cancelled) : other.Uncancelled where
  posted := by
    intro synchronizer member
    rw [posted] at member
    rcases List.mem_append.1 member with old | new
    · exact uncancelled.posted synchronizer old
    · exact ordinary synchronizer (List.mem_singleton.1 new).symm
  conditions := conditions ▸ uncancelled.conditions

theorem initializerResult_moves (taken : system.step (.initializerResult position result) = some next) :
    Moves system next ∧ next.posted = system.posted ++ [.initializerResult result] := by
  obtain ⟨_, found, step⟩ := Option.bind_eq_some_iff.1 taken
  cases step
  have bound := (List.getElem?_eq_some_iff.1 found).1
  refine ⟨⟨⟨?_, ?_, rfl, rfl, ?_⟩, ⟨rfl, rfl, rfl, rfl, rfl⟩, rfl, rfl, ?_, ?_⟩, rfl⟩
  · simp only [initializerContinuations, List.length_eraseIdx_of_lt bound, List.countP_append,
      List.countP_singleton, Posted.isInitializer]
    simp only [if_true]
    omega
  · simp [nextContinuations, Posted.synchronizer?, List.filterMap_cons]
  · simp [retryContinuations, Posted.isRetry]
  · exact fun uncancelled => uncancelled.post rfl rfl (by simp)
  · exact fun due => due.imp_right (List.mem_append_left _)

theorem synchronizerResult_moves (taken : system.step (.synchronizerResult position result) = some next) :
    Moves system next ∧ ∃ synchronizer,
      next.posted = system.posted ++ [.synchronizerResult synchronizer result] := by
  obtain ⟨wait, found, step⟩ := Option.bind_eq_some_iff.1 taken
  cases step
  refine ⟨⟨⟨?_, ?_, rfl, rfl, ?_⟩, ⟨rfl, rfl, rfl, rfl, rfl⟩, rfl, rfl, ?_, ?_⟩, wait.synchronizer, rfl⟩
  · simp [initializerContinuations, Posted.isInitializer]
  · have moved := ((perm_eraseIdx found).map (·.synchronizer)).append_right
      (system.posted.filterMap Posted.synchronizer?)
    refine List.Perm.trans ?_ moved.symm
    simp only [nextContinuations, List.filterMap_append, List.filterMap_cons, Posted.synchronizer?,
      List.filterMap_nil, List.map_cons, List.cons_append]
    rw [← List.append_assoc]
    exact List.perm_append_singleton _ _
  · simp [retryContinuations, Posted.isRetry]
  · exact fun uncancelled => uncancelled.post rfl rfl (by simp)
  · exact fun due => due.imp_right (List.mem_append_left _)

theorem retryDelay_moves (taken : system.step (.retryDelay position fired) = some next) :
    Moves system next ∧ next.posted = system.posted ++ [.retryTimer fired] := by
  obtain ⟨delay, found, result⟩ := Option.bind_eq_some_iff.1 taken
  have bound := (List.getElem?_eq_some_iff.1 found).1
  split at result
  · rename_i possible
    cases result
    refine ⟨⟨⟨?_, ?_, rfl, rfl, ?_⟩, ⟨rfl, rfl, rfl, rfl, rfl⟩, rfl, rfl, ?_, ?_⟩, rfl⟩
    · simp [initializerContinuations, Posted.isInitializer]
    · simp [nextContinuations, Posted.synchronizer?, List.filterMap_cons]
    · simp only [retryContinuations, List.length_eraseIdx_of_lt bound, List.countP_append,
        List.countP_singleton, Posted.isRetry]
      simp only [if_true]
      omega
    · exact fun uncancelled => uncancelled.post rfl rfl (by simp)
    · intro due
      rcases due with ⟨other, member, running⟩ | posted
      · cases fired with
        | true => exact .inr (List.mem_append_right _ (List.mem_singleton.2 rfl))
        | false =>
          rcases List.mem_cons.1 ((perm_eraseIdx found).mem_iff.1 member) with same | kept
          · simp [← same, running] at possible
          · exact .inl ⟨other, kept, running⟩
      · exact .inr (List.mem_append_left _ posted)
  · cases result

theorem mem_resolveConditions {conditions : Conditions} {type : ConditionType}
    (member : item ∈ (system.resolveConditions conditions type).posted) :
    item ∈ system.posted ∨ ∃ synchronizer, item = .conditionFired synchronizer type := by
  unfold resolveConditions at member
  split at member
  · exact .inl member
  · rcases List.mem_append.1 member with old | new
    · exact .inl old
    · obtain ⟨wait, _, rfl⟩ := List.mem_map.1 new
      exact .inr ⟨wait.synchronizer, rfl⟩

theorem conditionTimer_moves (taken : system.conditionTimer position timer fired = some next) :
    Moves system next ∧ ∀ item ∈ next.posted, item ∈ system.posted ∨
      ∃ synchronizer type, item = .conditionFired synchronizer type := by
  obtain ⟨conditions, condition, rest, present, member, remaining, outcome⟩ := conditionTimer_eq_some taken
  have types : conditions.Unclosed → ∀ other ∈ rest, other.type ≠ .cancelled := by
    intro unclosed other among
    rw [remaining] at among
    rcases List.mem_or_eq_of_mem_set among with old | rfl
    · exact unclosed.types other old
    · exact unclosed.types condition (List.mem_of_getElem? member)
  rcases outcome with rfl | rfl
  · obtain ⟨waits, more, resolved⟩ := resolveConditions_eq system conditions condition.type
    refine ⟨⟨(resolveConditions_same system conditions condition.type).set_conditions present _, ?_, ?_, ?_, ?_, ?_⟩, ?_⟩
    · exact (resolveConditions_view system conditions condition.type).trans ⟨rfl, rfl, rfl, rfl, rfl⟩
    · rw [resolved]
    · rw [resolved]
    · intro uncancelled
      have unclosed := uncancelled.conditions conditions present
      have own := unclosed.types condition (List.mem_of_getElem? member)
      refine ⟨?_, ?_⟩
      · intro synchronizer posted
        rcases mem_resolveConditions posted with old | ⟨other, same⟩
        · exact uncancelled.posted synchronizer old
        · exact own (Posted.conditionFired.inj same).2.symm
      · intro updated same
        cases Option.some.inj same
        refine ⟨?_, types unclosed⟩
        cases result : conditions.aggregateResult with
        | none => simpa using own
        | some type => simpa [result] using unclosed.result
    · intro due
      refine due.imp (fun running => ?_) (fun posted => ?_)
      · rw [resolved]
        exact running
      · rw [resolved]
        exact List.mem_append_left _ posted
    · intro item posted
      exact (mem_resolveConditions posted).imp_right fun ⟨synchronizer, same⟩ => ⟨synchronizer, _, same⟩
  · refine ⟨⟨(SameContinuations.refl system).set_conditions present _, ⟨rfl, rfl, rfl, rfl, rfl⟩, rfl, rfl, ?_, id⟩,
      fun item => .inl⟩
    intro uncancelled
    refine ⟨uncancelled.posted, ?_⟩
    intro updated same
    cases Option.some.inj same
    have unclosed := uncancelled.conditions conditions present
    exact ⟨unclosed.result, types unclosed⟩

theorem close_same (system : FDv2DataSystem) :
    SameContinuations system system.close ∧ system.close.closed = true := by
  have cancelled : SameContinuations system { system with closed := true }.cancelRetry :=
    ⟨rfl, .refl _, rfl, rfl, by simp [retryContinuations, cancelRetry]⟩
  unfold close
  simp only
  split
  · exact ⟨cancelled.trans (closeConditions_same _), closed_closeConditions _⟩
  · exact ⟨(cancelled.trans (closeSynchronizer_same _ _)).trans (closeConditions_same _),
      closed_closeConditions _⟩

theorem step_moves {event : Event} (taken : system.step event = some next) :
    (∃ position item, event = .runPosted position ∧ system.posted[position]? = some item ∧
        next = (system.dequeue position).runPosted item) ∨
      event = .close ∧ next = system.close ∨
      Moves system next ∧ ∀ item ∈ next.posted, item ∈ system.posted ∨ event.Brings item := by
  have posts {item : Posted} (posted : next.posted = system.posted ++ [item]) :
      ∀ other ∈ next.posted, other ∈ system.posted ∨ other = item := by
    simp [posted]
  cases event with
  | runPosted position =>
    obtain ⟨item, found, ran⟩ := Option.bind_eq_some_iff.1 taken
    exact .inl ⟨position, item, rfl, found, (Option.some.inj ran).symm⟩
  | initializerResult position result =>
    obtain ⟨moves, posted⟩ := initializerResult_moves taken
    exact .inr (.inr ⟨moves, posts posted⟩)
  | synchronizerResult position result =>
    obtain ⟨moves, synchronizer, posted⟩ := synchronizerResult_moves taken
    exact .inr (.inr ⟨moves, fun item member => (posts posted item member).imp_right fun same => ⟨synchronizer, same⟩⟩)
  | conditionTimer position timer fired => exact .inr (.inr (conditionTimer_moves taken))
  | retryDelay position fired =>
    obtain ⟨moves, posted⟩ := retryDelay_moves taken
    exact .inr (.inr ⟨moves, posts posted⟩)
  | close => exact .inr (.inl ⟨rfl, (Option.some.inj taken).symm⟩)

end FDv2DataSystem

end FlagSdk.Fdv2
