import FlagSdk.Events.RequestWorker
import FlagSdk.Lib.Runs

/-! The life of one worker, over everything that is handed to it and that comes back. -/

namespace FlagSdk.Events.RequestWorker
open Lib.Runs Data

structure Record where
  posts : Nat
  reports : Nat

structure Recorded where
  worker : RequestWorker
  records : List Record

inductive Input where
  | asyncDeliver (batch : EventBatch)
  | onDeliveryAttempt (result : HttpResult)
  | onRetryTimer

/-- Only an available worker is given a batch. -/
def step (parseDateHeader : Option (String → Option TimePoint)) (state : Recorded) : Input → Option Recorded
  | .asyncDeliver batch =>
    if state.worker.available then some ⟨asyncDeliver batch, ⟨1, 0⟩ :: state.records⟩ else none
  | .onDeliveryAttempt result =>
    if state.worker.waits = .response then
      (state.worker.onDeliveryAttempt parseDateHeader result).map fun (worker, report) =>
        ⟨worker, state.records.modifyHead fun record =>
          { record with reports := record.reports + report.toList.length }⟩
    else none
  | .onRetryTimer =>
    if state.worker.waits = .retryTimer then
      state.worker.onRetryTimer.map fun worker =>
        ⟨worker, state.records.modifyHead fun record => { record with posts := record.posts + 1 }⟩
    else none

inductive Outcome (state : State) (batch : EventBatch) (result : HttpResult) :
    RequestWorker → Option (Nat × DeliveryResult) → Prop
  | released (report : Option (Nat × DeliveryResult))
      (passing : ∀ count status, report ≠ some (count, .permanentFailure status)) :
    Outcome state batch result ⟨.idle, none, .nothing⟩ report
  | failed : Outcome state batch result ⟨.permanentlyFailed, none, .nothing⟩
      (some (batch.count, .permanentFailure result.status))
  | retried (first : state = .firstChance) : Outcome state batch result ⟨.secondChance, some batch, .retryTimer⟩ none

variable {parseDateHeader : Option (String → Option TimePoint)} {state : State} {after : Recorded} {input : Input}

theorem nextState_cases (busy : state = .firstChance ∨ state = .secondChance) (result : HttpResult) :
    nextState state result = (.idle, .parseDateAndReset) ∨ nextState state result = (.idle, .reset) ∨
      nextState state result = (.permanentlyFailed, .notifyPermanentFailure) ∨
      state = .firstChance ∧ nextState state result = (.secondChance, .retry) := by
  obtain rfl | rfl := busy
  · unfold nextState
    split_ifs <;> simp
  · unfold nextState
    split_ifs <;> simp

theorem onDeliveryAttempt_outcome (busy : state = .firstChance ∨ state = .secondChance)
    (batch : EventBatch) (waits : Waits) (result : HttpResult) :
    ∃ next report, onDeliveryAttempt ⟨state, some batch, waits⟩ parseDateHeader result = some (next, report) ∧
      Outcome state batch result next report := by
  obtain action | action | action | ⟨first, action⟩ := nextState_cases busy result
  · cases parsed : serverTime parseDateHeader result with
    | none => exact ⟨_, none, by simp only [onDeliveryAttempt, action, parsed], .released none (by simp)⟩
    | some time =>
      refine ⟨_, some (batch.count, .serverTime time), ?_, .released _ (by simp)⟩
      simp [onDeliveryAttempt, action, parsed]
  · exact ⟨_, none, by simp [onDeliveryAttempt, action], .released none (by simp)⟩
  · exact ⟨_, _, by simp [onDeliveryAttempt, action], .failed⟩
  · exact ⟨_, none, by simp [onDeliveryAttempt, action], .retried first⟩

def Record.Finished (record : Record) : Prop := (record.posts = 1 ∨ record.posts = 2) ∧ record.reports ≤ 1

/-- Where a worker is with its latest batch, and the records of those before. -/
inductive Phase (past : List Record) : Recorded → Prop
  | idle : Phase past ⟨⟨.idle, none, .nothing⟩, past⟩
  | first (batch : EventBatch) : Phase past ⟨⟨.firstChance, some batch, .response⟩, ⟨1, 0⟩ :: past⟩
  | waiting (batch : EventBatch) : Phase past ⟨⟨.secondChance, some batch, .retryTimer⟩, ⟨1, 0⟩ :: past⟩
  | second (batch : EventBatch) : Phase past ⟨⟨.secondChance, some batch, .response⟩, ⟨2, 0⟩ :: past⟩
  | failed : Phase past ⟨⟨.permanentlyFailed, none, .nothing⟩, past⟩

def Alive (state : Recorded) : Prop := ∃ past, (∀ record ∈ past, record.Finished) ∧ Phase past state

theorem Alive.attempt {batch : EventBatch} {posts : Nat} {past : List Record} {result : HttpResult}
    {next : RequestWorker} {report : Option (Nat × DeliveryResult)} (outcome : Outcome state batch result next report)
    (posted : posts = 1 ∨ posts = 2) (single : state = .firstChance → posts = 1)
    (finished : ∀ record ∈ past, record.Finished) : Alive ⟨next, ⟨posts, 0 + report.toList.length⟩ :: past⟩ := by
  have ended : ∀ record ∈ (⟨posts, 0 + report.toList.length⟩ : Record) :: past, record.Finished :=
    List.forall_mem_cons.2 ⟨⟨posted, by cases report <;> simp⟩, finished⟩
  cases outcome with
  | released => exact ⟨_, ended, .idle⟩
  | failed => exact ⟨_, ended, .failed⟩
  | retried first =>
    cases single first
    exact ⟨past, finished, .waiting batch⟩

theorem Alive.step {state : Recorded} (alive : Alive state)
    (taken : step parseDateHeader state input = some after) : Alive after := by
  obtain ⟨past, finished, phase⟩ := alive
  cases input with
  | asyncDeliver batch =>
    obtain ⟨available, taken⟩ := Option.ite_none_right_eq_some.1 taken
    cases taken
    cases phase with
    | idle => exact ⟨past, finished, .first batch⟩
    | _ => cases available
  | onDeliveryAttempt result =>
    obtain ⟨waits, taken⟩ := Option.ite_none_right_eq_some.1 taken
    obtain ⟨⟨next, report⟩, attempted, rfl⟩ := Option.map_eq_some_iff.1 taken
    cases phase with
    | first batch =>
      obtain ⟨_, _, known, outcome⟩ := @onDeliveryAttempt_outcome parseDateHeader _ (.inl rfl) batch .response result
      cases known.symm.trans attempted
      exact .attempt outcome (.inl rfl) (fun _ => rfl) finished
    | second batch =>
      obtain ⟨_, _, known, outcome⟩ := @onDeliveryAttempt_outcome parseDateHeader _ (.inr rfl) batch .response result
      cases known.symm.trans attempted
      exact .attempt outcome (.inr rfl) (fun first => by cases first) finished
    | _ => cases waits
  | onRetryTimer =>
    obtain ⟨waits, taken⟩ := Option.ite_none_right_eq_some.1 taken
    obtain ⟨next, retried, rfl⟩ := Option.map_eq_some_iff.1 taken
    cases phase with
    | waiting batch =>
      cases retried
      exact ⟨past, finished, .second batch⟩
    | _ => cases waits

theorem permanentlyFailed_of_step {state : Recorded} (alive : Alive state)
    (failed : state.worker.state = .permanentlyFailed) : step parseDateHeader state input ≠ some after := by
  obtain ⟨past, -, phase⟩ := alive
  cases phase with
  | failed => cases input <;> simp [step, available]
  | _ => cases failed

/-- After every run: a batch was posted once or twice and reported at most once, and the worker has one exactly while
it has a chance, so that an attempt always has an outcome. It is available then, unless it is to try again or has failed
for good, and after that nothing happens to it. -/
theorem worker_lifecycle (parseDateHeader : Option (String → Option TimePoint)) (inputs : List Input) (last : Recorded)
    (reached : run (step parseDateHeader) ⟨construct, []⟩ inputs = some last) :
    (∀ record ∈ last.records, (record.posts = 1 ∨ record.posts = 2) ∧ record.reports ≤ 1) ∧
      (last.worker.batch.isSome = true ↔ last.worker.state = .firstChance ∨ last.worker.state = .secondChance) ∧
      (last.worker.waits = .response → ∀ result, ∃ next report,
        last.worker.onDeliveryAttempt parseDateHeader result = some (next, report) ∧
          (next.available = true ∨ next.waits = .retryTimer ∨
            ∃ count status, report = some (count, .permanentFailure status))) ∧
      (last.worker.waits = .retryTimer → last.worker.onRetryTimer.isSome = true) ∧
      (last.worker.state = .permanentlyFailed →
        ∀ more after, run (step parseDateHeader) last more = some after → after = last) := by
  have alive : Alive last :=
    run_invariant_of_step Alive.step ⟨[], fun _ none => absurd none List.not_mem_nil, .idle⟩ reached
  obtain ⟨past, finished, phase⟩ := alive
  refine ⟨?_, ?_, ?_, ?_, ?_⟩
  · cases phase with
    | idle | failed => exact finished
    | first | waiting => exact List.forall_mem_cons.2 ⟨⟨.inl rfl, Nat.zero_le _⟩, finished⟩
    | second => exact List.forall_mem_cons.2 ⟨⟨.inr rfl, Nat.zero_le _⟩, finished⟩
  · cases phase <;> simp
  · intro waits result
    have busy : ∃ state batch, last.worker = ⟨state, some batch, .response⟩ ∧
        (state = .firstChance ∨ state = .secondChance) := by
      cases phase with
      | first batch => exact ⟨_, batch, rfl, .inl rfl⟩
      | second batch => exact ⟨_, batch, rfl, .inr rfl⟩
      | _ => cases waits
    obtain ⟨state, batch, same, busy⟩ := busy
    obtain ⟨next, report, known, outcome⟩ := @onDeliveryAttempt_outcome parseDateHeader _ busy batch .response result
    refine ⟨next, report, same ▸ known, ?_⟩
    cases outcome with
    | released => exact .inl rfl
    | failed => exact .inr (.inr ⟨_, _, rfl⟩)
    | retried => exact .inr (.inl rfl)
  · intro waits
    cases phase with
    | waiting => rfl
    | _ => cases waits
  · intro failed more after moved
    cases more with
    | nil => exact (Option.some.inj moved).symm
    | cons input more =>
      obtain ⟨next, taken, -⟩ := run_cons_eq_some.1 moved
      exact absurd taken (permanentlyFailed_of_step ⟨past, finished, phase⟩ failed)

def retriedRun : List Input :=
  [.asyncDeliver ⟨[], none⟩, .onDeliveryAttempt (.response 503 none), .onRetryTimer,
    .onDeliveryAttempt (.response 202 none)]

theorem worker_lifecycle_retriedRun :
    ∃ last, run (step none) ⟨construct, []⟩ retriedRun = some last ∧ last.worker.available = true ∧
      ∀ record ∈ last.records, (record.posts = 1 ∨ record.posts = 2) ∧ record.reports ≤ 1 :=
  ⟨_, rfl, rfl, (worker_lifecycle none retriedRun _ rfl).1⟩

end FlagSdk.Events.RequestWorker
