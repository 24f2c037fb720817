import FlagSdk.Data.Status
import FlagSdk.Json.EvaluationCodec
import FlagSdk.Json.FlagCodec
import FlagSdk.Json.SegmentCodec
import FlagSdk.Lib.Runs
import FlagSdk.Persistence.TextFormat

/-! The polling data sources of the server and of the client. Both ask for the payload over and over,
remember the tag of the last response that carried one, and differ in what they do with the body
of a successful response. -/

namespace FlagSdk.Polling
open Lib Lib.Runs Data Json Persistence

def valueToDataSet (json : Json) : Decoded SDKDataSet :=
  requireObject json fun object => do
    let flags ←
      parseFieldDefault (valueToMap (valueToItemDescriptor valueToFlag .ofFlag)) object "flags" .empty
    let segments ←
      parseFieldDefault (valueToMap (valueToItemDescriptor valueToSegment .ofSegment)) object "segments" .empty
    return some ⟨flags, segments⟩

inductive Payload (Data : Type) where
  | unparsable
  | invalid
  | data (data : Data)
  | thrown
  deriving DecidableEq

def Payload.toOption {Data : Type} : Payload Data → Option Data
  | .data content => some content
  | _ => none

/-- A null payload counts as an empty one. -/
def decodePayload {Text Data : Type} (format : TextFormat Text) (valueTo : Json → Decoded Data) (empty : Data)
    (body : Text) : Payload Data :=
  match format.parse body with
  | none => .unparsable
  | some json =>
    match valueTo json with
    | .ok data => .data (data.getD empty)
    | .error (.error _) => .invalid
    | .error .thrown => .thrown

/-- The result of a request. Only the tag is read of the headers, and an error has none. -/
inductive HttpResult (Text : Type) where
  | error (message : Option String)
  | response (status : Nat) (body : Option Text) (etag : Option String)
  deriving DecidableEq

def HttpResult.etag {Text : Type} : HttpResult Text → Option String
  | .error _ => none
  | .response _ _ etag => etag

def isRecoverableStatus (status : Nat) : Bool :=
  status < 400 || status > 499 || status == 400 || status == 408 || status == 429

def isInvalidSdkKeyStatus (status : Nat) : Bool := status == 401 || status == 403

def errorForStatusCode (code : Nat) (context : String) (retryMessage : Option String) : String :=
  "HTTP error " ++ toString code ++ (if isInvalidSdkKeyStatus code then "(invalid SDK key) " else " ") ++
    "for: " ++ context ++ " - " ++ retryMessage.getD "giving up permanently"

/-- What comes of a successful response: the status, the payload for the destination, and whether the
timer for the next poll is started. -/
structure OkOutcome (State Data : Type) where
  status : DataSourceStatusManager State
  delivered : Option Data
  rearm : Bool

/-- How one of the SDKs polls. The last fields say what its treatment of a body amounts to. -/
structure Sdk (Text State Data : Type) [DataSourceStates State] [DecidableEq State] where
  off : State
  couldNotParseEndpoint : String
  decode : Text → Payload Data
  handleOk : DataSourceStatusManager State → Option Text → OkOutcome State Data
  goesOnAfter : Option Text → Bool
  off_ne_interrupted : off ≠ DataSourceStates.interrupted
  rearm_handleOk : ∀ status body, (handleOk status body).rearm = goesOnAfter body
  delivered_handleOk : ∀ status body, (handleOk status body).delivered = body.bind fun text => (decode text).toOption

section
variable {Text : Type} (format : TextFormat Text)

def serverDecode : Text → Payload SDKDataSet := decodePayload format valueToDataSet .empty

/-- Every branch of a response with a body returns before the timer is started. -/
def serverHandleOk (status : DataSourceStatusManager ServerSide.DataSourceState) (body : Option Text) :
    OkOutcome ServerSide.DataSourceState SDKDataSet :=
  match body with
  | none =>
    ⟨status.setStateWithKind .interrupted .unknown "polling response contained no body.", none, true⟩
  | some text =>
    match serverDecode format text with
    | .unparsable => ⟨status.setError .invalidData "Could not parse polling payload", none, false⟩
    | .data dataSet => ⟨status.setState .valid, some dataSet, false⟩
    | .invalid => ⟨status.setError .invalidData "Polling payload contained invalid data", none, false⟩
    | .thrown => ⟨status, none, false⟩

def server : Sdk Text ServerSide.DataSourceState SDKDataSet where
  off := .off
  couldNotParseEndpoint := "Could not parse polling endpoint URL"
  decode := serverDecode format
  handleOk := serverHandleOk format
  goesOnAfter body := body.isNone
  off_ne_interrupted := by decide
  rearm_handleOk status body := by
    cases body with
    | none => rfl
    | some text =>
      simp only [serverHandleOk]
      cases serverDecode format text <;> rfl
  delivered_handleOk status body := by
    cases body with
    | none => rfl
    | some text =>
      simp only [serverHandleOk, Option.bind_some]
      cases serverDecode format text <;> rfl

end

section
variable {Text : Type} (format : TextFormat Text)

def clientDecode : Text → Payload (OrdMap String (ItemDescriptor EvaluationResult)) :=
  decodePayload format valueToFlags .empty

/-- The body is taken without a look whether there is one. -/
def clientHandleOk (status : DataSourceStatusManager ClientSide.DataSourceState) (body : Option Text) :
    OkOutcome ClientSide.DataSourceState (OrdMap String (ItemDescriptor EvaluationResult)) :=
  match body with
  | none => ⟨status, none, false⟩
  | some text =>
    match clientDecode format text with
    | .unparsable => ⟨status.setError .invalidData "Could not parse PUT message", none, true⟩
    | .data flags => ⟨status.setState .valid, some flags, true⟩
    | .invalid => ⟨status.setError .invalidData "PUT message contained invalid data", none, true⟩
    | .thrown => ⟨status, none, false⟩

def client : Sdk Text ClientSide.DataSourceState (OrdMap String (ItemDescriptor EvaluationResult)) where
  off := .shutdown
  couldNotParseEndpoint := "Could not parse polling endpoint URL."
  decode := clientDecode format
  handleOk := clientHandleOk format
  goesOnAfter body := body.any fun text => clientDecode format text ≠ .thrown
  off_ne_interrupted := by decide
  rearm_handleOk status body := by
    cases body with
    | none => rfl
    | some text =>
      simp only [clientHandleOk, Option.any_some]
      cases clientDecode format text <;> rfl
  delivered_handleOk status body := by
    cases body with
    | none => rfl
    | some text =>
      simp only [clientHandleOk, Option.bind_some]
      cases clientDecode format text <;> rfl

end

/-- A data source while it polls. The destination holds the payload that was handed to it last, beside
the tag of the response that brought it; the tag there is history that the code does not keep. -/
structure PollingDataSource (State Data : Type) where
  etag : Option String
  ifNoneMatch : Option String
  requestsInFlight : Nat
  timerArmed : Bool
  status : DataSourceStatusManager State
  destination : Option (Option String × Data)
  deriving DecidableEq

namespace PollingDataSource

section
variable {State Data : Type} (source : PollingDataSource State Data)

def doPoll : PollingDataSource State Data :=
  { source with requestsInFlight := source.requestsInFlight + 1 }

def received : PollingDataSource State Data :=
  { source with requestsInFlight := source.requestsInFlight - 1 }

def startPollingTimer : PollingDataSource State Data :=
  { source with timerArmed := true }

/-- The next requests carry the tag. -/
def remember : Option String → PollingDataSource State Data
  | none => source
  | some tag => { source with etag := some tag, ifNoneMatch := some tag }

/-- A response with the tag that is remembered counts as unchanged. -/
def Skips (etag : Option String) : Prop :=
  etag.isSome = true ∧ source.etag = etag
  deriving Decidable

end

variable {Text State Data : Type} [DataSourceStates State] [DecidableEq State] (sdk : Sdk Text State Data)
    (source : PollingDataSource State Data)

def handleResult : HttpResult Text → PollingDataSource State Data
  | .error message =>
    startPollingTimer { source with
      status := source.status.setStateWithKind DataSourceStates.interrupted .networkError
        (message.getD "unknown error") }
  | .response status body etag =>
    if status = 200 then
      let outcome := sdk.handleOk source.status body
      let source := { source with
        status := outcome.status
        destination := (outcome.delivered.map (Prod.mk etag)).or source.destination }
      if outcome.rearm then source.startPollingTimer else source
    else if status = 304 then source.startPollingTimer
    else if isRecoverableStatus status then
      startPollingTimer { source with
        status := source.status.setStateWithCode DataSourceStates.interrupted status
          (errorForStatusCode status "polling request" (some "will retry")) }
    else
      { source with
        status := source.status.setStateWithCode sdk.off status
          (errorForStatusCode status "polling request" none) }

def handlePollResult (result : HttpResult Text) : PollingDataSource State Data :=
  if source.Skips result.etag then source.startPollingTimer
  else handleResult sdk (source.remember result.etag) result

/-- The source once it was started. Nothing is polled when the endpoint is not a URL. -/
def start (validRequest : Bool) : PollingDataSource State Data :=
  let status := DataSourceStatusManager.initial.setState DataSourceStates.initializing
  if validRequest = false then
    ⟨none, none, 0, false, status.setStateWithKind sdk.off .networkError sdk.couldNotParseEndpoint, none⟩
  else doPoll ⟨none, none, 0, false, status, none⟩

def shutdownAsync : PollingDataSource State Data :=
  { source with
    status := source.status.setState DataSourceStates.initializing
    timerArmed := false }

inductive Event (Text : Type) where
  | pollCompletes (result : HttpResult Text)
  | timerFires
  | shutdown
  deriving DecidableEq

def step : Event Text → Option (PollingDataSource State Data)
  | .pollCompletes result =>
    if source.requestsInFlight = 0 then none
    else some (handlePollResult sdk source.received result)
  | .timerFires => if source.timerArmed then some (doPoll { source with timerArmed := false }) else none
  | .shutdown => some source.shutdownAsync

end PollingDataSource

end FlagSdk.Polling
