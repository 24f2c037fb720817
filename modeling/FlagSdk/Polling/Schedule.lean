import FlagSdk.Polling.Source

/-! When polling goes on, and what the remembered tag says about the destination. Both are read off one
description of what a result does to the source. -/

namespace FlagSdk.Polling
open Lib Lib.Runs Data Json Persistence

section
variable {Text State Data : Type} [DataSourceStates State] [DecidableEq State]

def HttpResult.unrecoverable : HttpResult Text → Bool
  | .error _ => false
  | .response status _ _ => !isRecoverableStatus status

def Sdk.stops (sdk : Sdk Text State Data) : HttpResult Text → Bool
  | .error _ => false
  | .response status body _ =>
    if status = 200 then !sdk.goesOnAfter body else !isRecoverableStatus status

def Sdk.brings (sdk : Sdk Text State Data) : HttpResult Text → Option Data
  | .error _ => none
  | .response status body _ => if status = 200 then body.bind fun text => (sdk.decode text).toOption else none

end

namespace PollingDataSource

section
variable {State Data : Type} (source : PollingDataSource State Data) (etag : Option String)

@[simp] theorem etag_remember : (source.remember etag).etag = etag.or source.etag := by
  cases etag <;> rfl

@[simp] theorem ifNoneMatch_remember : (source.remember etag).ifNoneMatch = etag.or source.ifNoneMatch := by
  cases etag <;> rfl

@[simp] theorem requestsInFlight_remember : (source.remember etag).requestsInFlight = source.requestsInFlight := by
  cases etag <;> rfl

@[simp] theorem timerArmed_remember : (source.remember etag).timerArmed = source.timerArmed := by
  cases etag <;> rfl

@[simp] theorem destination_remember : (source.remember etag).destination = source.destination := by
  cases etag <;> rfl

/-- Exactly one poll lies ahead: its request is under way, or the timer is running. -/
def Scheduled : Prop := source.requestsInFlight + source.timerArmed.toNat = 1
  deriving Decidable

def Idle : Prop := source.requestsInFlight = 0 ∧ source.timerArmed = false
  deriving Decidable

variable {source}

theorem Scheduled.request_alone (scheduled : source.Scheduled) (waiting : source.requestsInFlight ≠ 0) :
    source.requestsInFlight = 1 ∧ source.timerArmed = false := by
  unfold Scheduled at scheduled
  cases armed : source.timerArmed with
  | true =>
    rw [armed, Bool.toNat_true] at scheduled
    omega
  | false => simpa [armed] using scheduled

end

variable {Text State Data : Type} [DataSourceStates State] [DecidableEq State] (sdk : Sdk Text State Data)

structure Handles (source next : PollingDataSource State Data) (result : HttpResult Text) : Prop where
  etag : next.etag = source.etag
  ifNoneMatch : next.ifNoneMatch = source.ifNoneMatch
  requestsInFlight : next.requestsInFlight = source.requestsInFlight
  timerArmed : next.timerArmed = (source.timerArmed || !sdk.stops result)
  destination : next.destination = ((sdk.brings result).map (Prod.mk result.etag)).or source.destination
  off : result.unrecoverable = true → next.status.state = sdk.off

theorem state_setStateWithCode_off (status : DataSourceStatusManager State) (code : Nat) (message : String) :
    (status.setStateWithCode sdk.off code message).state = sdk.off := by
  simp [DataSourceStatusManager.setStateWithCode, DataSourceStatusManager.updateState, sdk.off_ne_interrupted]

variable (source : PollingDataSource State Data)

theorem handleResult_ok (body : Option Text) (etag : Option String) :
    handleResult sdk source (.response 200 body etag) =
      { source with
        status := (sdk.handleOk source.status body).status
        destination := ((sdk.brings (.response 200 body etag)).map (Prod.mk etag)).or source.destination
        timerArmed := source.timerArmed || sdk.goesOnAfter body } := by
  simp only [handleResult, if_true, sdk.rearm_handleOk, sdk.delivered_handleOk, Sdk.brings]
  cases sdk.goesOnAfter body with
  | false => simp
  | true => simp [startPollingTimer]

theorem handleResult_handles (result : HttpResult Text) :
    Handles sdk source (handleResult sdk source result) result := by
  cases result with
  | error message =>
    exact ⟨rfl, rfl, rfl, by simp [handleResult, startPollingTimer, Sdk.stops], rfl,
      by simp [HttpResult.unrecoverable]⟩
  | response status body etag =>
    by_cases ok : status = 200
    · subst ok
      rw [handleResult_ok]
      exact ⟨rfl, rfl, rfl, by simp [Sdk.stops], rfl, by simp [HttpResult.unrecoverable, isRecoverableStatus]⟩
    · by_cases unchanged : status = 304
      · subst unchanged
        exact ⟨rfl, rfl, rfl, by simp [handleResult, startPollingTimer, Sdk.stops, isRecoverableStatus], rfl,
          by simp [HttpResult.unrecoverable, isRecoverableStatus]⟩
      · cases recoverable : isRecoverableStatus status <;>
          simp [handleResult, if_neg ok, if_neg unchanged, recoverable]
        case true =>
          exact ⟨rfl, rfl, rfl, by simp [startPollingTimer, Sdk.stops, ok, recoverable],
            by simp [startPollingTimer, Sdk.brings, ok], by simp [HttpResult.unrecoverable, recoverable]⟩
        case false =>
          exact ⟨rfl, rfl, rfl, by simp [Sdk.stops, ok, recoverable], by simp [Sdk.brings, ok],
            fun _ => state_setStateWithCode_off sdk _ _ _⟩

/-- Every successful response is skipped or has a body after which the SDK goes on. -/
def GoesOn : Event Text → Prop
  | .pollCompletes (.response status body etag) =>
    status = 200 → source.Skips etag ∨ sdk.goesOnAfter body = true
  | _ => True

instance (source : PollingDataSource State Data) : (event : Event Text) → Decidable (GoesOn sdk source event)
  | .pollCompletes (.response _ _ _) => inferInstanceAs (Decidable (_ → _))
  | .pollCompletes (.error _) => isTrue trivial
  | .timerFires => isTrue trivial
  | .shutdown => isTrue trivial

/-- After a result that does not make the source give up, one poll lies ahead. -/
def Reschedules (event : Event Text) : Prop :=
  ∀ result, event = .pollCompletes result → result.unrecoverable = false →
    ∀ next, step sdk source event = some next → next.Scheduled

/-- Before a shutdown, either one poll lies ahead or polling has been given up. -/
def Polls : Prop :=
  source.Scheduled ∨ source.Idle ∧ source.status.state = sdk.off
  deriving Decidable

variable {sdk} {source next : PollingDataSource State Data} {result : HttpResult Text}

theorem GoesOn.unrecoverable_of_stops (goesOn : GoesOn sdk source (.pollCompletes result))
    (fresh : ¬source.Skips result.etag) (stops : sdk.stops result = true) : result.unrecoverable = true := by
  cases result with
  | error message => cases stops
  | response status body etag =>
    by_cases ok : status = 200
    · have onward : sdk.goesOnAfter body = true := (goesOn ok).resolve_left fresh
      simp [Sdk.stops, ok, onward] at stops
    · simpa [Sdk.stops, HttpResult.unrecoverable, ok] using stops

theorem step_pollCompletes (taken : step sdk source (.pollCompletes result) = some next) :
    source.requestsInFlight ≠ 0 ∧
      (source.Skips result.etag ∧ next = source.received.startPollingTimer ∨
        ¬source.Skips result.etag ∧ Handles sdk (source.received.remember result.etag) next result) := by
  simp only [step] at taken
  split at taken
  · cases taken
  · next waiting =>
    refine ⟨waiting, ?_⟩
    cases taken
    by_cases skips : source.Skips result.etag
    · exact .inl ⟨skips, if_pos skips⟩
    · have handled : handlePollResult sdk source.received result =
          handleResult sdk (source.received.remember result.etag) result := if_neg skips
      rw [handled]
      exact .inr ⟨skips, handleResult_handles sdk _ _⟩

theorem step_timerFires (taken : step sdk source .timerFires = some next) :
    source.timerArmed = true ∧ next = doPoll { source with timerArmed := false } := by
  simp only [step] at taken
  split at taken
  · next armed => exact ⟨armed, (Option.some.inj taken).symm⟩
  · cases taken

theorem Scheduled.pollCompletes (scheduled : source.Scheduled)
    (taken : step sdk source (.pollCompletes result) = some next) :
    next.Scheduled ∧ (source.Skips result.etag ∨ sdk.stops result = false) ∨
      ¬source.Skips result.etag ∧ sdk.stops result = true ∧ next.Idle ∧
        (result.unrecoverable = true → next.status.state = sdk.off) := by
  obtain ⟨waiting, ⟨skips, rfl⟩ | ⟨fresh, handled⟩⟩ := step_pollCompletes taken
  · have alone := scheduled.request_alone waiting
    exact .inl ⟨by simp [Scheduled, startPollingTimer, received, alone], .inl skips⟩
  · have alone := scheduled.request_alone waiting
    have requests : next.requestsInFlight = 0 := by
      simp [handled.requestsInFlight, received, alone]
    have timer : next.timerArmed = !sdk.stops result := by
      simp [handled.timerArmed, received, alone]
    cases stops : sdk.stops result with
    | false => exact .inl ⟨by simp [Scheduled, requests, timer, stops], .inr rfl⟩
    | true => exact .inr ⟨fresh, rfl, ⟨requests, by simp [timer, stops]⟩, handled.off⟩

variable {event : Event Text}

theorem step_polls (polls : Polls sdk source)
    (good : GoesOn sdk source event ∧ event ≠ .shutdown) (taken : step sdk source event = some next) :
    Polls sdk next := by
  cases event with
  | shutdown => exact absurd rfl good.2
  | timerFires =>
    obtain ⟨armed, rfl⟩ := step_timerFires taken
    rcases polls with scheduled | ⟨⟨-, unarmed⟩, -⟩
    · simp only [Scheduled, armed, Bool.toNat_true] at scheduled
      exact .inl (by simpa [Scheduled, doPoll] using scheduled)
    · rw [armed] at unarmed
      cases unarmed
  | pollCompletes result =>
    rcases polls with scheduled | ⟨⟨idle, -⟩, -⟩
    · rcases scheduled.pollCompletes taken with ⟨scheduled, -⟩ | ⟨fresh, stops, idle, off⟩
      · exact .inl scheduled
      · exact .inr ⟨idle, off (good.1.unrecoverable_of_stops fresh stops)⟩
    · exact absurd idle (step_pollCompletes taken).1

theorem step_reschedules (polls : Polls sdk source)
    (good : GoesOn sdk source event ∧ event ≠ .shutdown) : Reschedules sdk source event := by
  rintro result rfl recoverable next taken
  rcases polls with scheduled | ⟨⟨idle, -⟩, -⟩
  · rcases scheduled.pollCompletes taken with ⟨scheduled, -⟩ | ⟨fresh, stops, -⟩
    · exact scheduled
    · have unrecoverable := good.1.unrecoverable_of_stops fresh stops
      rw [recoverable] at unrecoverable
      cases unrecoverable
  · exact absurd idle (step_pollCompletes taken).1

theorem start_polls (validRequest : Bool) : Polls sdk (start sdk validRequest) := by
  cases validRequest with
  | true => exact .inl rfl
  | false =>
    refine .inr ⟨⟨rfl, rfl⟩, ?_⟩
    simp [start, DataSourceStatusManager.setStateWithKind, DataSourceStatusManager.updateState,
      sdk.off_ne_interrupted]

/-- Every result is followed by another poll, unless the source gives up; so before a shutdown there is
always exactly one poll ahead, unless the source has given up. -/
def NeverStops (sdk : Sdk Text State Data) (validRequest : Bool) (events : List (Event Text)) : Prop :=
  Along (step sdk) (Reschedules sdk) (start sdk validRequest) events ∧
    ∀ source, run (step sdk) (start sdk validRequest) events = some source → Polls sdk source

theorem neverStops_of_goesOn {validRequest : Bool} {events : List (Event Text)} (running : .shutdown ∉ events)
    (goesOn : Along (step sdk) (GoesOn sdk) (start sdk validRequest) events) :
    NeverStops sdk validRequest events := by
  have good : Along (step sdk) (fun source event => GoesOn sdk source event ∧ event ≠ .shutdown)
      (start sdk validRequest) events :=
    goesOn.and (Along.of_mem fun event member _ same => running (same ▸ member))
  constructor
  · exact along_of_invariant step_polls (fun polls good _ => step_reschedules polls good)
      (start_polls validRequest) good
  · intro source reached
    exact run_invariant step_polls (start_polls validRequest) good reached

end PollingDataSource

open PollingDataSource
variable {Text : Type} (format : TextFormat Text)

/-- The server goes on polling as long as no response has a body that is not skipped, and the client as
long as every body that is not skipped is there and its decoding does not throw. -/
theorem polling_never_stops (validRequest : Bool) (events : List (Event Text)) (running : .shutdown ∉ events) :
    (Along (step (server format)) (GoesOn (server format)) (start (server format) validRequest) events →
        NeverStops (server format) validRequest events) ∧
      (Along (step (client format)) (GoesOn (client format)) (start (client format) validRequest) events →
        NeverStops (client format) validRequest events) :=
  ⟨neverStops_of_goesOn running, neverStops_of_goesOn running⟩

def troubleEvents : List (Event Json) :=
  [.pollCompletes (.error none), .timerFires, .pollCompletes (.response 304 none none), .timerFires,
    .pollCompletes (.response 503 none none), .timerFires, .pollCompletes (.response 401 none none)]

theorem polling_never_stops_in_trouble :
    NeverStops (server .plain) true troubleEvents ∧ NeverStops (client .plain) true troubleEvents :=
  ⟨(polling_never_stops .plain true troubleEvents (by simp [troubleEvents])).1 (by decide),
    (polling_never_stops .plain true troubleEvents (by simp [troubleEvents])).2 (by decide)⟩

/-- The server stops after the first payload, and the client after a response without a body. -/
theorem polling_stops :
    (¬∀ events : List (Event Json), .shutdown ∉ events → NeverStops (server .plain) true events) ∧
      ¬∀ events : List (Event Json), .shutdown ∉ events → NeverStops (client .plain) true events := by
  constructor
  · intro neverStops
    have polls := (neverStops [.pollCompletes (.response 200 (some (.object [])) none)] (by simp)).2 _ rfl
    revert polls
    decide
  · intro neverStops
    have polls := (neverStops [.pollCompletes (.response 200 none none)] (by simp)).2 _ rfl
    revert polls
    decide

end FlagSdk.Polling
