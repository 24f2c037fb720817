import FlagSdk.Events.ContextFilter
import FlagSdk.Events.RequestWorker
import FlagSdk.Lib.Runs

/-! The processor of analytics events. Events that are sent are posted to a strand and handled there one after another,
together with flushes, the timer for them, and what the workers report. -/

namespace FlagSdk.Events
open Data Json

inductive Sdk where
  | client
  | server
  deriving DecidableEq

structure Settings where
  sdk : Sdk
  filter : ContextFilter
  parseDateHeader : Option (String → Option TimePoint)

inductive FlushTrigger where
  | automatic
  | manual
  deriving DecidableEq

inductive FlushTimer where
  | unarmed
  | waiting
  /-- Its handler is about to run, and cannot be cancelled any more. -/
  | expired
  deriving DecidableEq

def FlushTimer.cancel : FlushTimer → FlushTimer
  | .waiting => .unarmed
  | timer => timer

inductive Task where
  | send (event : InputEvent)
  | flush
  deriving DecidableEq

/-- An event that was handled, what it was turned into, and how much of that fitted into the outbox then. -/
structure Handled where
  input : InputEvent
  outputs : List OutputEvent
  room : Nat

structure AsioEventProcessor where
  outbox : Outbox
  summarizer : Summarizer
  timer : FlushTimer
  workers : List RequestWorker
  inboxCapacity : Nat
  inboxSize : Nat
  fullOutboxEncountered : Bool
  fullInboxEncountered : Bool
  permanentDeliveryFailure : Bool
  lastKnownPastTime : Option TimePoint
  contextKeyCache : LRUCache
  posted : List Task
  /-- Every event that was handled, oldest first. -/
  handled : List Handled
  /-- Every batch that was given to a worker, oldest first. -/
  batches : List EventBatch

namespace AsioEventProcessor

def construct (capacity flushWorkers contextKeysCacheCapacity : Nat) (now : TimePoint) : AsioEventProcessor where
  outbox := ⟨[], capacity⟩
  summarizer := .start now
  timer := .waiting
  workers := .replicate flushWorkers .construct
  inboxCapacity := capacity
  inboxSize := 0
  fullOutboxEncountered := false
  fullInboxEncountered := false
  permanentDeliveryFailure := false
  lastKnownPastTime := none
  contextKeyCache := ⟨contextKeysCacheCapacity, ∅, []⟩
  posted := []
  handled := []
  batches := []

variable (settings : Settings) (processor : AsioEventProcessor)

def inboxIncrement : Bool × AsioEventProcessor :=
  if processor.permanentDeliveryFailure then (false, processor)
  else if processor.inboxSize < processor.inboxCapacity then
    (true, { processor with inboxSize := processor.inboxSize + 1 })
  else (false, { processor with fullInboxEncountered := true })

def inboxDecrement : AsioEventProcessor := { processor with inboxSize := processor.inboxSize - 1 }

def sendAsync (event : InputEvent) : AsioEventProcessor :=
  match processor.inboxIncrement with
  | (true, processor) => { processor with posted := processor.posted ++ [.send event] }
  | (false, processor) => processor

/-- The index event for a context that was not seen lately. Only a server has one. -/
def index (creationDate : TimePoint) (context : Context) : Option (List OutputEvent × AsioEventProcessor) :=
  match settings.sdk with
  | .client => some ([], processor)
  | .server => do
    let (known, cache) ← processor.contextKeyCache.notice context.canonicalKey
    let processor := { processor with contextKeyCache := cache }
    if known then some ([], processor)
    else
      let filtered ← settings.filter.filterContext context false
      some ([.index creationDate filtered], processor)

variable (now : TimePoint) (event : FeatureEventParams)

/-- The debug event, while debugging is on by the time of the host and by that of the server. -/
def debugEvent : Option (List OutputEvent) :=
  let conservativeNow := max now (processor.lastKnownPastTime.getD 0)
  if event.debugEventsUntilDate.any (conservativeNow < ·) then
    (settings.filter.filterContext event.context false).map fun filtered => [.debug (.ofParams event) filtered]
  else some []

def fullEvent : Option (List OutputEvent) :=
  if event.requireFullEvent then
    (settings.filter.filterContext event.context true).map fun filtered => [.feature (.ofParams event) filtered]
  else some []

def processFeature : Option (List OutputEvent × AsioEventProcessor) := do
  let processor := { processor with summarizer := processor.summarizer.update event }
  let (out, processor) ← processor.index settings event.creationDate event.context
  let debug ← processor.debugEvent settings now event
  let full ← fullEvent settings event
  some (out ++ debug ++ full, processor)

def noticeContext (context : Context) : Option AsioEventProcessor :=
  match settings.sdk with
  | .client => some processor
  | .server =>
    (processor.contextKeyCache.notice context.canonicalKey).map fun (_, cache) =>
      { processor with contextKeyCache := cache }

def processIdentify (event : IdentifyEventParams) : Option (List OutputEvent × AsioEventProcessor) := do
  let processor ← processor.noticeContext settings event.context
  let filtered ← settings.filter.filterContext event.context false
  some ([.identify event.creationDate filtered], processor)

def processTrack (event : TrackEventParams) : Option (List OutputEvent × AsioEventProcessor) := do
  let (out, processor) ← processor.index settings event.creationDate event.context
  let filtered ← settings.filter.filterContext event.context (settings.sdk = .server)
  some (out ++ [.track event.creationDate event.key filtered event.data event.metricValue], processor)

def process : InputEvent → Option (List OutputEvent × AsioEventProcessor)
  | .feature event => processor.processFeature settings now event
  | .identify event => processor.processIdentify settings event
  | .track event => processor.processTrack settings event

def handleSend (event : InputEvent) : Option AsioEventProcessor := do
  let (outputEvents, processor) ← processor.process settings now event
  let (inserted, outbox) := processor.outbox.pushDiscardingOverflow outputEvents
  some { processor with
    outbox := outbox
    fullOutboxEncountered := !inserted
    handled := processor.handled ++ [⟨event, outputEvents, processor.outbox.room⟩] }

/-- All that waits in the outbox, and the summary if it is of anything. -/
def createBatch : Option EventBatch × AsioEventProcessor :=
  let (events, outbox) := processor.outbox.consume
  let summarizer := processor.summarizer.finish now
  let processor := { processor with outbox := outbox, summarizer := summarizer }
  if !summarizer.empty then (some ⟨events, some summarizer⟩, processor)
  else if events.isEmpty then (none, processor)
  else (some ⟨events, none⟩, processor)

def scheduleFlush : AsioEventProcessor := { processor with timer := .waiting }

/-- A worker gets the batch, and a new summary is begun. -/
def flushTo (worker : Nat) (now later : TimePoint) : AsioEventProcessor :=
  match processor.createBatch now with
  | (none, processor) => processor
  | (some batch, processor) =>
    { processor with
      workers := processor.workers.set worker (.asyncDeliver batch)
      batches := processor.batches ++ [batch]
      summarizer := .start later }

/-- The first worker that is available is used. -/
def flush (flushType : FlushTrigger) (now later : TimePoint) : AsioEventProcessor :=
  let processor :=
    match processor.workers.findIdx? RequestWorker.available with
    | none => processor
    | some worker => processor.flushTo worker now later
  match flushType with
  | .automatic => processor.scheduleFlush
  | .manual => processor

def onEventDeliveryResult : DeliveryResult → AsioEventProcessor
  | .serverTime time => { processor with lastKnownPastTime := some time }
  | .permanentFailure _ =>
    if processor.permanentDeliveryFailure then processor
    else { processor with timer := processor.timer.cancel, permanentDeliveryFailure := true }

/-- What happens to the processor, with what the clock says where it is read. -/
inductive Input where
  | sendAsync (event : InputEvent)
  | flushAsync
  | shutdownAsync
  /-- The strand runs what was posted first. -/
  | task (now later : TimePoint)
  | timerExpires
  | timerHandler (now later : TimePoint)
  | deliveryAttempt (worker : Nat) (result : HttpResult)
  | retryTimer (worker : Nat)

def runTask (now later : TimePoint) : Task → Option AsioEventProcessor
  | .send event => processor.inboxDecrement.handleSend settings now event
  | .flush => some (processor.flush .manual now later)

def deliveryAttempt (index : Nat) (worker : RequestWorker) (result : HttpResult) : Option AsioEventProcessor :=
  (worker.onDeliveryAttempt settings.parseDateHeader result).map fun (worker, report) =>
    let processor :=
      match report with
      | none => processor
      | some (_, result) => processor.onEventDeliveryResult result
    { processor with workers := processor.workers.set index worker }

def step : Input → Option AsioEventProcessor
  | .sendAsync event => some (processor.sendAsync event)
  | .flushAsync => some { processor with posted := processor.posted ++ [.flush] }
  | .shutdownAsync => some { processor with timer := processor.timer.cancel }
  | .task now later =>
    match processor.posted with
    | [] => none
    | task :: posted => { processor with posted := posted }.runTask settings now later task
  | .timerExpires => if processor.timer = .waiting then some { processor with timer := .expired } else none
  | .timerHandler now later =>
    if processor.timer = .expired then some ({ processor with timer := .unarmed }.flush .automatic now later) else none
  | .deliveryAttempt index result =>
    match processor.workers[index]? with
    | none => none
    | some worker =>
      if worker.waits = .response then processor.deliveryAttempt settings index worker result else none
  | .retryTimer index =>
    match processor.workers[index]? with
    | none => none
    | some worker =>
      if worker.waits = .retryTimer then
        worker.onRetryTimer.map fun worker => { processor with workers := processor.workers.set index worker }
      else none

end AsioEventProcessor

end FlagSdk.Events
