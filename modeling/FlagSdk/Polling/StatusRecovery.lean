import FlagSdk.Polling.Schedule

/-! What the status of a polling data source says after each result. A result that shows the data to be current without
bringing them is not reported, so the status stays what an earlier result made it. -/

namespace FlagSdk.Polling
open Lib Lib.Runs Data Json Persistence

def HttpResult.notModified {Text : Type} : HttpResult Text → Bool
  | .error _ => false
  | .response status _ _ => status = 304

/-- No response, or one with a status after which polling goes on, but none that could mean success. -/
def HttpResult.recoverableFailure {Text : Type} : HttpResult Text → Bool
  | .error _ => true
  | .response status _ _ => status ≠ 200 && status ≠ 304 && isRecoverableStatus status

namespace PollingDataSource

variable {Text State Data : Type} [DataSourceStates State] [DecidableEq State] (sdk : Sdk Text State Data) (valid : State)

structure Validates : Prop where
  valid_ne : valid ≠ DataSourceStates.initializing
  interrupted_ne : (DataSourceStates.interrupted : State) ≠ DataSourceStates.initializing
  off_ne : sdk.off ≠ DataSourceStates.initializing
  decoded : ∀ status text data, sdk.decode text = .data data → (sdk.handleOk status (some text)).status.state = valid
  keeps : ∀ status body, status.state ≠ DataSourceStates.initializing →
    (sdk.handleOk status body).status.state ≠ DataSourceStates.initializing

variable (source : PollingDataSource State Data) (result : HttpResult Text)

/-- The result shows that the service is healthy and the data are current. -/
def Current : Prop :=
  (sdk.brings result).isSome = true ∨
    source.destination.isSome = true ∧ (result.notModified = true ∨ source.Skips result.etag)

/-- The result shows that the service has failed for now. -/
def Failed : Prop :=
  result.recoverableFailure = true ∧ ¬source.Skips result.etag

structure Reports (source : PollingDataSource State Data) (result : HttpResult Text) : Prop where
  recovered : Current sdk source result → (handlePollResult sdk source result).status.state = valid
  interrupted : source.destination.isSome = true → Failed source result →
    (handlePollResult sdk source result).status.state = DataSourceStates.interrupted

/-- A result that shows the data to be current passes without a report while the status says something else. -/
def Overlooks : Prop :=
  Current sdk source result ∧ (result.notModified = true ∨ source.Skips result.etag) ∧ source.status.state ≠ valid

def handled : Option (PollingDataSource State Data) :=
  some (handlePollResult sdk source result)

/-- Once a payload was applied, the source is initialized. -/
def Initialized : Prop :=
  source.destination.isSome = true → source.status.state ≠ DataSourceStates.initializing

variable {sdk valid} {source} {result : HttpResult Text}

omit [DataSourceStates State] [DecidableEq State] in
@[simp] theorem status_remember (etag : Option String) : (source.remember etag).status = source.status := by
  cases etag <;> rfl

theorem status_of_skips (skips : source.Skips result.etag) :
    (handlePollResult sdk source result).status = source.status := by
  rw [handlePollResult, if_pos skips, startPollingTimer]

theorem status_of_notModified (unchanged : result.notModified = true) :
    (handlePollResult sdk source result).status = source.status := by
  by_cases skips : source.Skips result.etag
  · exact status_of_skips skips
  · rw [handlePollResult, if_neg skips]
    cases result with
    | error message => cases unchanged
    | response status body etag =>
      cases of_decide_eq_true unchanged
      simp [handleResult, startPollingTimer]

theorem state_of_brings (validates : Validates sdk valid) (brings : (sdk.brings result).isSome = true)
    (fresh : ¬source.Skips result.etag) : (handlePollResult sdk source result).status.state = valid := by
  rw [handlePollResult, if_neg fresh]
  cases result with
  | error message => cases brings
  | response status body etag =>
    rw [Sdk.brings] at brings
    split at brings
    case isTrue ok =>
      subst ok
      cases body with
      | none => cases brings
      | some text =>
        rw [handleResult_ok]
        cases decoded : sdk.decode text with
        | data data => exact validates.decoded _ text data decoded
        | _ => simp [decoded, Payload.toOption] at brings
    case isFalse => cases brings

theorem state_of_failed (failed : Failed source result) :
    (handlePollResult sdk source result).status.state =
      if source.status.state = DataSourceStates.initializing then source.status.state
      else DataSourceStates.interrupted := by
  obtain ⟨recoverable, fresh⟩ := failed
  rw [handlePollResult, if_neg fresh]
  cases result with
  | error message =>
    simp only [handleResult, startPollingTimer, DataSourceStatusManager.setStateWithKind,
      DataSourceStatusManager.updateState, status_remember, true_and]
    split <;> rfl
  | response status body etag =>
    simp only [HttpResult.recoverableFailure, Bool.and_eq_true, decide_eq_true_eq] at recoverable
    simp only [handleResult, if_neg recoverable.1.1, if_neg recoverable.1.2, recoverable.2, if_true, startPollingTimer,
      DataSourceStatusManager.setStateWithCode, DataSourceStatusManager.updateState, status_remember, true_and]
    split <;> rfl

theorem Initialized.reports_iff (initialized : source.Initialized) (validates : Validates sdk valid) :
    Reports sdk valid source result ↔ ¬Overlooks sdk valid source result := by
  constructor
  · rintro reports ⟨current, unreported, other⟩
    have same : (handlePollResult sdk source result).status = source.status :=
      unreported.elim status_of_notModified status_of_skips
    exact other (same ▸ reports.recovered current)
  · intro seen
    refine ⟨fun current => ?_, fun applied failed => ?_⟩
    · by_cases unreported : result.notModified = true ∨ source.Skips result.etag
      · have same : (handlePollResult sdk source result).status = source.status :=
          unreported.elim status_of_notModified status_of_skips
        rw [same]
        exact not_not.1 fun other => seen ⟨current, unreported, other⟩
      · obtain brings | ⟨-, unchanged⟩ := current
        · exact state_of_brings validates brings fun skips => unreported (.inr skips)
        · exact absurd unchanged unreported
    · rw [state_of_failed failed, if_neg (initialized applied)]

theorem state_ne_initializing (validates : Validates sdk valid) (fresh : ¬source.Skips result.etag)
    (before : source.status.state ≠ DataSourceStates.initializing) :
    (handlePollResult sdk source result).status.state ≠ DataSourceStates.initializing := by
  cases result with
  | error message =>
    rw [state_of_failed ⟨rfl, fresh⟩, if_neg before]
    exact validates.interrupted_ne
  | response status body etag =>
    by_cases ok : status = 200
    · subst ok
      rw [handlePollResult, if_neg fresh, handleResult_ok]
      exact validates.keeps _ body (by simpa using before)
    · by_cases unchanged : status = 304
      · have same : (handlePollResult sdk source (.response status body etag)).status = source.status :=
          status_of_notModified (decide_eq_true unchanged)
        rw [same]
        exact before
      · cases recoverable : isRecoverableStatus status with
        | true =>
          have failed : Failed source (.response status body etag) :=
            ⟨by simp [HttpResult.recoverableFailure, ok, unchanged, recoverable], fresh⟩
          rw [state_of_failed failed, if_neg before]
          exact validates.interrupted_ne
        | false =>
          rw [handlePollResult, if_neg fresh, (handleResult_handles sdk _ _).off (by
            rw [HttpResult.unrecoverable, recoverable, Bool.not_false])]
          exact validates.off_ne

theorem Initialized.handlePollResult (initialized : source.Initialized) (validates : Validates sdk valid) :
    (handlePollResult sdk source result).Initialized := by
  intro applied
  by_cases skips : source.Skips result.etag
  · rw [status_of_skips skips]
    rw [PollingDataSource.handlePollResult, if_pos skips] at applied
    exact initialized applied
  · cases brings : sdk.brings result with
    | some data =>
      rw [state_of_brings validates (brings ▸ rfl) skips]
      exact validates.valid_ne
    | none =>
      rw [PollingDataSource.handlePollResult, if_neg skips, (handleResult_handles sdk _ _).destination, brings,
        Option.map_none, Option.none_or, destination_remember] at applied
      exact state_ne_initializing validates skips (initialized applied)

theorem reports_iff (validates : Validates sdk valid) (results : List (HttpResult Text)) :
    Along (handled sdk) (Reports sdk valid) (start sdk true) results ↔
      Along (handled sdk) (fun source result => ¬Overlooks sdk valid source result) (start sdk true) results := by
  have started : (start sdk true).Initialized := fun applied => by
    simp [start, doPoll] at applied
  refine along_iff_of_invariant (fun initialized _ taken => ?_) (fun initialized _ => ?_) started
  · cases taken
    exact initialized.handlePollResult validates
  · exact initialized.reports_iff validates

end PollingDataSource

open PollingDataSource
variable {Text : Type} (format : TextFormat Text)

theorem server_validates : Validates (server format) .valid where
  valid_ne := by decide
  interrupted_ne := by decide
  off_ne := by simp [server, DataSourceStates.initializing]
  decoded status text data decoded := by
    simp only [server] at decoded ⊢
    simp only [serverHandleOk, decoded]
    rfl
  keeps status body before := by
    change (serverHandleOk format status body).status.state ≠ _
    unfold serverHandleOk
    split
    · simp [DataSourceStatusManager.setStateWithKind, DataSourceStatusManager.updateState, before]
    · split
      · exact before
      · simp [DataSourceStatusManager.setState, DataSourceStatusManager.updateState, DataSourceStates.initializing,
          DataSourceStates.interrupted]
      · exact before
      · exact before

theorem client_validates : Validates (client format) .valid where
  valid_ne := by decide
  interrupted_ne := by decide
  off_ne := by simp [client, DataSourceStates.initializing]
  decoded status text data decoded := by
    simp only [client] at decoded ⊢
    simp only [clientHandleOk, decoded]
    rfl
  keeps status body before := by
    change (clientHandleOk format status body).status.state ≠ _
    unfold clientHandleOk
    split
    · exact before
    · split
      · exact before
      · simp [DataSourceStatusManager.setState, DataSourceStatusManager.updateState, DataSourceStates.initializing,
          DataSourceStates.interrupted]
      · exact before
      · exact before

/-- For every sequence of results, the status of either data source is valid after each one that shows the data to be
current, and interrupted after each failure that follows a payload, exactly as long as no result with a remembered tag
and no answer that nothing was modified shows the data to be current while the status is not valid. -/
theorem status_recovers_iff (results : List (HttpResult Text)) :
    (Along (handled (server format)) (Reports (server format) .valid) (start (server format) true) results ↔
      Along (handled (server format)) (fun source result => ¬Overlooks (server format) .valid source result)
        (start (server format) true) results) ∧
    (Along (handled (client format)) (Reports (client format) .valid) (start (client format) true) results ↔
      Along (handled (client format)) (fun source result => ¬Overlooks (client format) .valid source result)
        (start (client format) true) results) :=
  ⟨reports_iff (server_validates format) results, reports_iff (client_validates format) results⟩

/-- The client stays interrupted after the answer that nothing was modified, and the server passes over its first
payload, whose tag came with an error before. Both take place when polling. -/
theorem status_stays_behind :
    ¬Along (handled (client .plain)) (Reports (client .plain) .valid) (start (client .plain) true)
        [.response 200 (some (.object [])) (some "v1"), .error none, .response 304 none none] ∧
      (run (step (client .plain)) (start (client .plain) true)
        [.pollCompletes (.response 200 (some (.object [])) (some "v1")), .timerFires, .pollCompletes (.error none),
          .timerFires, .pollCompletes (.response 304 none none)]).isSome = true ∧
    ¬Along (handled (server .plain)) (Reports (server .plain) .valid) (start (server .plain) true)
        [.response 503 none (some "v1"), .response 200 (some (.object [])) (some "v1")] ∧
      (run (step (server .plain)) (start (server .plain) true)
        [.pollCompletes (.response 503 none (some "v1")), .timerFires,
          .pollCompletes (.response 200 (some (.object [])) (some "v1"))]).isSome = true := by
  refine ⟨fun along => ?_, rfl, fun along => ?_, rfl⟩
  · have reports := (((along _ rfl).2 _ rfl).2 _ rfl).1
    exact absurd (reports.recovered (.inr ⟨rfl, .inl rfl⟩)) (by decide)
  · have reports := ((along _ rfl).2 _ rfl).1
    exact absurd (reports.recovered (.inl rfl)) (by decide)

end FlagSdk.Polling
