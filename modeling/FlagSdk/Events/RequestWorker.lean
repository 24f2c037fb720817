import FlagSdk.Events.Outbox

/-! The workers that deliver batches of events. A worker posts a batch, and posts it once more after a failure that may
pass; a failure that does not pass makes it unavailable forever. -/

namespace FlagSdk.Events
open Data

/-- The events of a batch, with the summary as the last one if there is any. -/
structure EventBatch where
  events : List OutputEvent
  summary : Option Summarizer

def EventBatch.count (batch : EventBatch) : Nat := batch.events.length + batch.summary.toList.length

/-- The result of a request. Only the date is read of the headers, and an error has none. -/
inductive HttpResult where
  | error (message : Option String)
  | response (status : UInt64) (date : Option String)
  deriving DecidableEq

namespace HttpResult

def isError : HttpResult → Bool
  | .error _ => true
  | .response _ _ => false

def status : HttpResult → UInt64
  | .error _ => 0
  | .response status _ => status

def date : HttpResult → Option String
  | .error _ => none
  | .response _ date => date

def statusClass (result : HttpResult) : UInt32 := result.status.toUInt32 / 100

end HttpResult

def isTransientFailure (result : HttpResult) : Bool :=
  if result.isError || result.statusClass ≠ 4 then true
  else result.status.toUInt32 ∈ ([400, 408, 429, 413] : List UInt32)

def isRetryable (status : UInt64) : Bool := status.toUInt32 ≠ 413

def isSuccess (result : HttpResult) : Bool := !result.isError && result.statusClass = 2

inductive DeliveryResult where
  | permanentFailure (status : UInt64)
  | serverTime (time : TimePoint)
  deriving DecidableEq

namespace RequestWorker

inductive State where
  | idle
  | firstChance
  | secondChance
  | permanentlyFailed
  deriving DecidableEq

inductive Action where
  | none
  | reset
  | parseDateAndReset
  | retry
  | notifyPermanentFailure
  deriving DecidableEq

def nextState (state : State) (result : HttpResult) : State × Action :=
  match state with
  | .idle => (state, .none)
  | .permanentlyFailed => (state, .none)
  | .firstChance =>
    if isSuccess result then (.idle, .parseDateAndReset)
    else if isTransientFailure result then
      if isRetryable result.status then (.secondChance, .retry) else (.idle, .reset)
    else (.permanentlyFailed, .notifyPermanentFailure)
  | .secondChance =>
    if isSuccess result then (.idle, .parseDateAndReset)
    else if isTransientFailure result then (.idle, .reset)
    else (.permanentlyFailed, .notifyPermanentFailure)

inductive Waits where
  | nothing
  | response
  | retryTimer
  deriving DecidableEq

end RequestWorker

structure RequestWorker where
  state : RequestWorker.State
  batch : Option EventBatch
  waits : RequestWorker.Waits

namespace RequestWorker

def construct : RequestWorker := ⟨.idle, none, .nothing⟩

variable (worker : RequestWorker)

def available : Bool := worker.state = .idle

def asyncDeliver (batch : EventBatch) : RequestWorker := ⟨.firstChance, some batch, .response⟩

variable (parseDateHeader : Option (String → Option TimePoint))

/-- The time of the server, if the dates of headers can be read on this platform. -/
def serverTime (result : HttpResult) : Option TimePoint := do
  let parse ← parseDateHeader
  let date ← result.date
  parse date

/-- What becomes of the worker, and what it reports. No result stands for undefined behavior: there is no batch where
one is expected. -/
def onDeliveryAttempt (result : HttpResult) : Option (RequestWorker × Option (Nat × DeliveryResult)) :=
  let (nextState, action) := nextState worker.state result
  let released : RequestWorker := ⟨nextState, none, .nothing⟩
  match action with
  | .none => some (⟨nextState, worker.batch, .nothing⟩, none)
  | .reset => worker.batch.map fun _ => (released, none)
  | .notifyPermanentFailure =>
    worker.batch.map fun batch => (released, some (batch.count, .permanentFailure result.status))
  | .parseDateAndReset =>
    match serverTime parseDateHeader result with
    | none => some (released, none)
    | some time => worker.batch.map fun batch => (released, some (batch.count, .serverTime time))
  | .retry => worker.batch.map fun batch => (⟨nextState, some batch, .retryTimer⟩, none)

/-- The same batch is posted again. -/
def onRetryTimer : Option RequestWorker :=
  worker.batch.map fun _ => { worker with waits := .response }

end RequestWorker

end FlagSdk.Events
