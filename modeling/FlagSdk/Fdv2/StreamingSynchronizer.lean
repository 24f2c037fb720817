import FlagSdk.Fdv2.System
import FlagSdk.Fdv2.Transfers
import FlagSdk.Fdv2.Translation
import FlagSdk.Persistence.TextFormat
import FlagSdk.Sse.Error

/-! The streaming synchronizer. Its callbacks take what the event stream delivers and give out results, which wait in
a queue until they are asked for. A payload that is complete is given out as a change set, if it can be translated. -/

namespace FlagSdk.Fdv2
open Data Json Lib.Runs Persistence Fdv2.Protocol

structure StreamEvent (Text : Type) where
  type : String
  data : Text
  deriving DecidableEq

structure StreamingSynchronizer where
  protocolHandler : ProtocolHandler := {}
  latestFdv1Fallback : Option FDv1FallbackDirective := none
  /-- There is a client of the event stream to restart. -/
  sseClient : Bool := true
  pendingPromise : Bool := false
  resultQueue : List FDv2SourceResult := []
  /-- What the calls of `next` resolved with, oldest first. -/
  resolved : List FDv2SourceResult := []
  restarts : List String := []

namespace StreamingSynchronizer

variable {Text : Type} (format : TextFormat Text) (synchronizer : StreamingSynchronizer)

/-- A directive of the result itself goes before the one of the last response. -/
def withFallback (result : FDv2SourceResult) : FDv2SourceResult :=
  { result with fdv1Fallback := result.fdv1Fallback.or synchronizer.latestFdv1Fallback }

def notify (result : FDv2SourceResult) : StreamingSynchronizer :=
  if synchronizer.pendingPromise then
    { synchronizer with
      pendingPromise := false
      resolved := synchronizer.resolved ++ [synchronizer.withFallback result] }
  else { synchronizer with resultQueue := synchronizer.resultQueue ++ [synchronizer.withFallback result] }

def next : StreamingSynchronizer :=
  match synchronizer.resultQueue with
  | result :: resultQueue =>
    { synchronizer with resultQueue := resultQueue, resolved := synchronizer.resolved ++ [result] }
  | [] => { synchronizer with pendingPromise := true }

def asyncRestart (reason : String) : StreamingSynchronizer :=
  if synchronizer.sseClient then { synchronizer with restarts := synchronizer.restarts ++ [reason] } else synchronizer

def resetHandler : StreamingSynchronizer :=
  { synchronizer with protocolHandler := synchronizer.protocolHandler.reset }

def notifyInterrupted (kind : DataSourceStatusErrorKind) (message : String) : StreamingSynchronizer :=
  synchronizer.notify ⟨.interrupted ⟨kind, 0, message⟩, none⟩

def serverErrorMessage (error : Protocol.Error) : String :=
  "An issue was encountered receiving updates for payload '" ++ (error.serverError.bind FDv2Error.id).getD "" ++
    "' with reason: '" ++ error.message ++ "'. Automatic retry will occur."

def visit : Protocol.Result → StreamingSynchronizer
  | .monostate => synchronizer
  | .changeSet changeSet =>
    match translateChangeSet changeSet with
    | none => synchronizer.notifyInterrupted .invalidData "FDv2 streaming changeset could not be translated"
    | some typed => synchronizer.notify ⟨.changeSet typed, none⟩
  | .goodbye goodbye =>
    (synchronizer.notify ⟨.goodbye goodbye.reason, goodbye.protocolFallbackTtl.map FDv1FallbackDirective.mk⟩)
      |>.resetHandler.asyncRestart "FDv2 goodbye received"
  | .error error =>
    if error.kind = .kServerError then synchronizer.notifyInterrupted .errorResponse (serverErrorMessage error)
    else (synchronizer.notifyInterrupted .invalidData error.message).asyncRestart "FDv2 protocol error"

def onEvent (event : StreamEvent Text) : StreamingSynchronizer :=
  if !ProtocolHandler.isKnownEvent event.type then synchronizer
  else match format.parse event.data with
    | none =>
      (synchronizer.resetHandler.notifyInterrupted .invalidData "could not parse FDv2 streaming event payload")
        |>.asyncRestart "FDv2 parse error"
    | some data =>
      let handled := synchronizer.protocolHandler.handleEvent event.type data
      { synchronizer with protocolHandler := handled.1 }.visit handled.2

def onError (error : Sse.Error) : StreamingSynchronizer :=
  let synchronizer := synchronizer.resetHandler
  if Sse.isRecoverable error then synchronizer.notifyInterrupted .networkError (Sse.errorToString error)
  else match error with
    | .unrecoverableClientError status =>
      synchronizer.notify ⟨.terminalError ⟨.errorResponse, status, Sse.errorToString error⟩, none⟩
    | _ => synchronizer.notify ⟨.terminalError ⟨.networkError, 0, Sse.errorToString error⟩, none⟩

/-- What the synchronizer is called with. The response to each connection comes first, with the directive that its
headers carry. -/
inductive Input (Text : Type) where
  | response (fdv1Fallback : Option FDv1FallbackDirective)
  | event (event : StreamEvent Text)
  | error (error : Sse.Error)
  | next

def take : Input Text → StreamingSynchronizer
  | .response fdv1Fallback => { synchronizer with latestFdv1Fallback := fdv1Fallback }
  | .event event => synchronizer.onEvent format event
  | .error error => synchronizer.onError error
  | .next => synchronizer.next

variable (input : Input Text)

def step : Option StreamingSynchronizer :=
  some (synchronizer.take format input)

def after (inputs : List (Input Text)) : StreamingSynchronizer := inputs.foldl (take format) {}

/-- All results that were given out, with those that still wait in the queue. -/
def given : List FDv2SourceResult :=
  synchronizer.resolved ++ synchronizer.resultQueue

/-- A call waits only when nothing is in the queue, so that results resolve in the order they were given out. -/
def InOrder : Prop :=
  synchronizer.pendingPromise = true → synchronizer.resultQueue = []

/-- The payload that an input completes. -/
def completed : Input Text → Option FDv2ChangeSet
  | .event event =>
    if event.type = "payload-transferred" then
      match (format.parse event.data).map fun data => (synchronizer.protocolHandler.handleEvent event.type data).2 with
      | some (.changeSet changeSet) => some changeSet
      | _ => none
    else none
  | _ => none

/-- The response to a new connection, or a server-intent for a full or a partial transfer. -/
def startsOver : Input Text → Bool
  | .response _ => true
  | .event event =>
    match (format.parse event.data).map (readEvent event.type) with
    | some (.intent .kTransferFull) | some (.intent .kTransferChanges) => true
    | _ => false
  | _ => false

def Delivers (changeSet : ChangeSet) : Prop :=
  ∃ fdv1Fallback, (synchronizer.take format input).given = synchronizer.given ++ [⟨.changeSet changeSet, fdv1Fallback⟩]

/-- Whenever a change set is given out that moves the selector, the payloads completed before it, on the same
connection and since the same server-intent, were given out as well. -/
def NothingSkipped (inputs : List (Input Text)) : Prop :=
  ∀ before payload between delivery later,
    inputs = before ++ payload :: between ++ delivery :: later →
    (∀ input ∈ between, startsOver format input = false) →
    ∀ changeSet, Delivers format (after format (before ++ payload :: between)) delivery changeSet →
      changeSet.selector.value.isSome = true →
      ∀ earlier, completed format (after format before) payload = some earlier →
        ∃ typed, translateChangeSet earlier = some typed ∧ Delivers format (after format before) payload typed

/-- When the input completes a payload, every object collected for it can be decoded. -/
def Decodable : Prop :=
  (completed format synchronizer input).isSome = true →
    synchronizer.protocolHandler.changes.all FDv2Change.decodes = true
  deriving Decidable

variable (inputs : List (Input Text))

theorem run_step : run (step format) synchronizer inputs = some (inputs.foldl (take format) synchronizer) := by
  induction inputs generalizing synchronizer with
  | nil => rfl
  | cons input inputs ih => exact ih (synchronizer.take format input)

section
variable {synchronizer}

theorem given_notify (ordered : synchronizer.InOrder) (result : FDv2SourceResult) :
    (synchronizer.notify result).given = synchronizer.given ++ [synchronizer.withFallback result] := by
  unfold notify given
  cases pending : synchronizer.pendingPromise with
  | true =>
    rw [if_pos rfl, ordered pending]
    simp
  | false =>
    exact (List.append_assoc _ _ _).symm

theorem inOrder_notify (ordered : synchronizer.InOrder) (result : FDv2SourceResult) :
    (synchronizer.notify result).InOrder := by
  unfold notify
  cases pending : synchronizer.pendingPromise with
  | true =>
    exact fun _ => ordered pending
  | false =>
    exact fun waiting => absurd waiting Bool.false_ne_true

theorem inOrder_next (ordered : synchronizer.InOrder) : synchronizer.next.InOrder := by
  unfold next
  cases queue : synchronizer.resultQueue with
  | nil => exact fun _ => rfl
  | cons result resultQueue =>
    intro waiting
    exact absurd ((ordered waiting).symm.trans queue) (List.cons_ne_nil _ _).symm

/-- A property that a notified result keeps, and that says nothing about the handler and the restarts. -/
structure Kept (P : StreamingSynchronizer → Prop) : Prop where
  notify : ∀ {synchronizer : StreamingSynchronizer} (result : FDv2SourceResult),
    P synchronizer → P (synchronizer.notify result)
  unseen : ∀ {synchronizer : StreamingSynchronizer} (protocolHandler : ProtocolHandler) (restarts : List String),
    P synchronizer → P { synchronizer with protocolHandler, restarts }

section
variable {P : StreamingSynchronizer → Prop} (kept : Kept P)
include kept

variable (holds : P synchronizer)
include holds

theorem Kept.resetHandler : P synchronizer.resetHandler :=
  kept.unseen synchronizer.protocolHandler.reset synchronizer.restarts holds

theorem Kept.asyncRestart (reason : String) : P (synchronizer.asyncRestart reason) := by
  unfold StreamingSynchronizer.asyncRestart
  by_cases client : synchronizer.sseClient = true
  · rw [if_pos client]
    exact kept.unseen synchronizer.protocolHandler (synchronizer.restarts ++ [reason]) holds
  · rw [if_neg client]
    exact holds

theorem Kept.visit (result : Protocol.Result) : P (synchronizer.visit result) := by
  cases result with
  | monostate => exact holds
  | changeSet changeSet =>
    rw [StreamingSynchronizer.visit]
    cases translateChangeSet changeSet with
    | none | some => exact kept.notify _ holds
  | goodbye goodbye => exact kept.asyncRestart (kept.resetHandler (kept.notify _ holds)) _
  | error error =>
    rw [StreamingSynchronizer.visit]
    by_cases server : error.kind = .kServerError
    · rw [if_pos server]
      exact kept.notify _ holds
    · rw [if_neg server]
      exact kept.asyncRestart (kept.notify _ holds) _

theorem Kept.onEvent (event : StreamEvent Text) : P (synchronizer.onEvent format event) := by
  rw [StreamingSynchronizer.onEvent]
  cases ProtocolHandler.isKnownEvent event.type with
  | false => exact holds
  | true =>
    cases format.parse event.data with
    | none => exact kept.asyncRestart (kept.notify _ (kept.resetHandler holds)) _
    | some data => exact kept.visit (kept.unseen _ synchronizer.restarts holds) _

theorem Kept.onError (error : Sse.Error) : P (synchronizer.onError error) := by
  cases error <;> exact kept.notify _ (kept.resetHandler holds)

end

theorem kept_inOrder : Kept InOrder where
  notify result ordered := inOrder_notify ordered result
  unseen _ _ ordered := ordered

theorem inOrder_take (ordered : synchronizer.InOrder) (input : Input Text) :
    (synchronizer.take format input).InOrder := by
  cases input with
  | response fdv1Fallback => exact ordered
  | event event => exact kept_inOrder.onEvent format ordered event
  | error error => exact kept_inOrder.onError ordered error
  | next => exact inOrder_next ordered

theorem inOrder_after : (after format inputs).InOrder := by
  induction inputs using List.reverseRecOn with
  | nil => exact fun _ => rfl
  | append_singleton inputs input ih =>
    rw [after, List.foldl_append]
    exact inOrder_take format ih input

end

theorem handlePayloadTransferred_changeSet {handler : ProtocolHandler} {data : Json} {changeSet : FDv2ChangeSet}
    (result : (handler.handlePayloadTransferred data).2 = .changeSet changeSet) :
    changeSet.type ≠ .kNone ∧ changeSet.changes = handler.changes := by
  unfold ProtocolHandler.handlePayloadTransferred at result
  by_cases inactive : handler.state = .kInactive
  · rw [if_pos inactive] at result
    cases result
  · rw [if_neg inactive] at result
    cases decoded : valueToPayloadTransferred data with
    | error fault =>
      rw [decoded] at result
      cases result
    | ok payload =>
      rw [decoded] at result
      cases payload with
      | none => cases result
      | some transferred =>
        cases result
        refine ⟨?_, rfl⟩
        by_cases changes : handler.state = .kPartial <;> simp [changes]

variable {synchronizer} {payload : FDv2ChangeSet} {input : Input Text}

theorem take_of_completed (complete : completed format synchronizer input = some payload) :
    ∃ handler, synchronizer.take format input =
        { synchronizer with protocolHandler := handler }.visit (.changeSet payload) ∧
      payload.type ≠ .kNone ∧ payload.changes = synchronizer.protocolHandler.changes := by
  cases input with
  | response | error | next => cases complete
  | event event =>
    obtain ⟨type, text⟩ := event
    rw [completed] at complete
    by_cases transferred : type = "payload-transferred"
    · subst transferred
      cases parsed : format.parse text with
      | none =>
        rw [if_pos rfl, parsed] at complete
        cases complete
      | some data =>
        rw [if_pos rfl, parsed] at complete
        have handles : synchronizer.protocolHandler.handleEvent "payload-transferred" data =
          synchronizer.protocolHandler.handlePayloadTransferred data := rfl
        rw [Option.map_some, handles] at complete
        cases result : (synchronizer.protocolHandler.handlePayloadTransferred data).2 with
        | monostate | error | goodbye =>
          rw [result] at complete
          cases complete
        | changeSet changeSet =>
          rw [result] at complete
          cases complete
          refine ⟨(synchronizer.protocolHandler.handlePayloadTransferred data).1, ?_,
            handlePayloadTransferred_changeSet result⟩
          rw [← result, take, onEvent, parsed]
          rfl
    · rw [if_neg transferred] at complete
      cases complete

theorem delivers_of_completed (ordered : synchronizer.InOrder) (decodable : Decodable format synchronizer input)
    (complete : completed format synchronizer input = some payload) :
    ∃ typed, translateChangeSet payload = some typed ∧ Delivers format synchronizer input typed := by
  obtain ⟨handler, visited, transfers, collected⟩ := take_of_completed format complete
  have accepted := decodable (by rw [complete]; rfl)
  rw [← collected, ← isSome_translateChangeSet transfers] at accepted
  obtain ⟨typed, translated⟩ := Option.isSome_iff_exists.1 accepted
  refine ⟨typed, translated, synchronizer.latestFdv1Fallback, ?_⟩
  rw [visited, visit, translated]
  exact given_notify (by exact ordered) _

/-- No payload is skipped under a selector that moved on, as long as every payload that is completed can be decoded. -/
theorem no_payload_skipped (inputs : List (Input Text)) (decodable : Along (step format) (Decodable format) {} inputs) :
    NothingSkipped format inputs := by
  intro before payload between delivery later split _ _ _ _ earlier complete
  rw [split, List.append_assoc] at decodable
  obtain ⟨_, here⟩ := decodable.split (run_step format {} before)
  exact delivers_of_completed format (inOrder_after format before) (here _ rfl).1 complete

def serverIntent (intentCode : String) : Input Json :=
  .event ⟨"server-intent", .object [("payloads", .array [.object
    [("id", .string "payload"), ("target", .int 1), ("intentCode", .string intentCode)]])]⟩

variable (version : Int)

def putSegment (segment : Json) : Input Json :=
  .event ⟨"put-object", .object
    [("version", .int version), ("kind", .string "segment"), ("key", .string "beta"), ("object", segment)]⟩

def payloadTransferred : Input Json :=
  .event ⟨"payload-transferred", .object [("state", .string "basis"), ("version", .int version)]⟩

def versioned : Json := .object [("key", .string "beta"), ("version", .int version)]

def unversioned : Json := .object [("key", .string "beta")]

/-- The first payload has a segment that cannot be decoded, and the second one nothing. -/
def skippingInputs : List (Input Json) :=
  [.response none, serverIntent "xfer-full", putSegment 1 unversioned, payloadTransferred 1, payloadTransferred 2]

def decodableInputs : List (Input Json) :=
  [.response none, serverIntent "xfer-full", putSegment 1 (versioned 1), payloadTransferred 1,
    putSegment 2 (versioned 2), .next, payloadTransferred 2]

theorem nothing_skipped_of_versioned :
    Along (step .plain) (Decodable .plain) {} decodableInputs ∧ NothingSkipped .plain decodableInputs :=
  ⟨by decide, no_payload_skipped .plain decodableInputs (by decide)⟩

def applyGiven (synchronizer : StreamingSynchronizer) (system : FDv2DataSystem) : FDv2DataSystem :=
  synchronizer.given.foldl (fun system result =>
    match result.value with
    | .changeSet changeSet => system.applyChangeSet changeSet
    | _ => system) system

/-- The second payload moves the selector although the first one was not given out, and nothing is asked for again. -/
theorem first_payload_skipped :
    ¬ NothingSkipped .plain skippingInputs ∧
      (after .plain skippingInputs).restarts = [] ∧
      ((after .plain skippingInputs).applyGiven (.construct ⟨0, [], false, false⟩)).selector = ⟨some ⟨2, "basis"⟩⟩ := by
  refine ⟨?_, by decide, by decide⟩
  intro nothingSkipped
  obtain ⟨typed, translated, _⟩ := nothingSkipped
    [.response none, serverIntent "xfer-full", putSegment 1 unversioned] (payloadTransferred 1) []
    (payloadTransferred 2) [] rfl (fun _ none => absurd none List.not_mem_nil)
    ⟨.kPartial, [], ⟨some ⟨2, "basis"⟩⟩⟩ ⟨none, by decide⟩ rfl _ rfl
  cases translated

end StreamingSynchronizer

end FlagSdk.Fdv2
