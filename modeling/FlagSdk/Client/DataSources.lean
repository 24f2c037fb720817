import FlagSdk.Client.FlagManager
import FlagSdk.Polling.Source
import FlagSdk.Sse.Error

/-! The data sources of a client, by the calls that they make: to the flags of the client, and to the
manager of its status. -/

namespace FlagSdk.Client
open Lib Data Json Persistence Polling ClientSide

inductive SourceCall where
  | init (data : Flags)
  | upsert (key : String) (descriptor : ItemDescriptor EvaluationResult)
  | report (report : Report DataSourceState)
  deriving DecidableEq

inductive MessageStatus where
  | messageHandled
  | invalidMessage
  | unhandledVerb
  deriving DecidableEq, Repr

structure PatchData where
  key : String
  flag : EvaluationResult

structure DeleteData where
  key : String
  version : UInt64

def valueToPatchData : Json → Except Fault PatchData
  | .object fields =>
    match valueAsOptString (Object.find fields "key"), valueToResult (.object fields) with
    | some key, .ok (some flag) => .ok ⟨key, flag⟩
    | _, .error .thrown => .error .thrown
    | _, _ => .error schemaFailure
  | _ => .error schemaFailure

def valueToDeleteData : Json → Except Fault DeleteData
  | .object fields => do
    let version ← valueAsOptUInt64 (Object.find fields "version")
    match valueAsOptString (Object.find fields "key"), version with
    | some key, some version => .ok ⟨key, version⟩
    | _, _ => .error schemaFailure
  | _ => .error schemaFailure

section
variable {Text : Type} (format : TextFormat Text)

def readPayload {Data : Type} (valueTo : Json → Except Fault Data) (text : Text) : Payload Data :=
  match format.parse text with
  | none => .unparsable
  | some json =>
    match valueTo json with
    | .ok data => .data data
    | .error (.error _) => .invalid
    | .error .thrown => .thrown

def handlePayload {Data : Type} (parsing invalid : String) (calls : Data → List SourceCall) :
    Payload Data → Except Fault (List SourceCall × MessageStatus)
  | .unparsable => .ok ([.report (.error .invalidData parsing)], .invalidMessage)
  | .invalid => .ok ([.report (.error .invalidData invalid)], .invalidMessage)
  | .data data => .ok (calls data, .messageHandled)
  | .thrown => .error .thrown

def handleMessage (type : String) (data : Text) : Except Fault (List SourceCall × MessageStatus) :=
  if type = "put" then
    handlePayload "Could not parse PUT message" "PUT message contained invalid data"
      (fun flags => [.init flags, .report (.state .valid)]) (clientDecode format data)
  else if type = "patch" then
    handlePayload "Could not parse PATCH message" "PATCH message contained invalid data"
      (fun patch => [.upsert patch.key (.ofResult patch.flag)]) (readPayload format valueToPatchData data)
  else if type = "delete" then
    handlePayload "Could not parse DELETE message" "DELETE message contained invalid data\""
      (fun deletion => [.upsert deletion.key (.tombstone deletion.version)])
      (readPayload format valueToDeleteData data)
  else .ok ([], .unhandledVerb)

end

/-- A read timeout and a bad redirect count as errors of the network. -/
def handleErrorStateChange (error : Sse.Error) : Report DataSourceState :=
  let state := if Sse.isRecoverable error then .interrupted else .shutdown
  match error with
  | .unrecoverableClientError status => .stateWithCode state status (Sse.errorToString error)
  | _ => .stateWithKind state .networkError (Sse.errorToString error)

structure PollingState where
  etag : Option String
  requestsInFlight : Nat
  timerArmed : Bool
  deriving DecidableEq, Repr

namespace PollingState

variable {Text : Type} (format : TextFormat Text) (source : PollingState)

def startPollingTimer : PollingState := { source with timerArmed := true }

/-- The body of a successful response is taken for a put message. -/
def handleOk (body : Option Text) : PollingState × List SourceCall :=
  match body with
  | none => (source, [])
  | some text =>
    match handleMessage format "put" text with
    | .ok (calls, _) => (source.startPollingTimer, calls)
    | .error _ => (source, [])

def handleResult : HttpResult Text → PollingState × List SourceCall
  | .error message =>
    (source.startPollingTimer,
      [.report (.stateWithKind .interrupted .networkError (message.getD "unknown error"))])
  | .response status body _ =>
    if status = 200 then source.handleOk format body
    else if status = 304 then (source.startPollingTimer, [])
    else if isRecoverableStatus status then
      (source.startPollingTimer, [.report (.stateWithCode .interrupted status
        (errorForStatusCode status "polling request" (some "will retry")))])
    else
      (source, [.report (.stateWithCode .shutdown status (errorForStatusCode status "polling request" none))])

def handlePollResult (result : HttpResult Text) : PollingState × List SourceCall :=
  if result.etag.isSome = true ∧ source.etag = result.etag then (source.startPollingTimer, [])
  else handleResult format { source with etag := result.etag.or source.etag } result

/-- The source of the same name that keeps its own status and destination. -/
def view (status : DataSourceStatusManager DataSourceState) (destination : Option (Option String × Flags)) :
    PollingDataSource DataSourceState Flags :=
  ⟨source.etag, source.etag, source.requestsInFlight, source.timerArmed, status, destination⟩

end PollingState

def statusAfter (status : DataSourceStatusManager DataSourceState) :
    List SourceCall → DataSourceStatusManager DataSourceState
  | [] => status
  | .report report :: calls => statusAfter (status.receive report) calls
  | _ :: calls => statusAfter status calls

def handedOver : List SourceCall → Option Flags
  | [] => none
  | .init data :: calls => (handedOver calls).or (some data)
  | _ :: calls => handedOver calls

namespace PollingState

variable (source : PollingState) {Text : Type} (format : TextFormat Text)

theorem handleResult_view (result : HttpResult Text)
    (status : DataSourceStatusManager DataSourceState) (destination : Option (Option String × Flags)) :
    PollingDataSource.handleResult (client format) (source.view status destination) result =
      (handleResult format source result).1.view (statusAfter status (handleResult format source result).2)
        (((handedOver (handleResult format source result).2).map (Prod.mk result.etag)).or destination) := by
  cases result with
  | error message => rfl
  | response code body etag =>
    simp only [PollingDataSource.handleResult, handleResult]
    by_cases ok : code = 200
    · rw [if_pos ok, if_pos ok]
      cases body with
      | none => rfl
      | some text =>
        cases decoded : clientDecode format text <;>
          simp only [client, clientHandleOk, handleOk, handleMessage, if_pos, handlePayload, decoded] <;> rfl
    · split_ifs <;> rfl

theorem handlePollResult_view (result : HttpResult Text)
    (status : DataSourceStatusManager DataSourceState) (destination : Option (Option String × Flags)) :
    PollingDataSource.handlePollResult (client format) (source.view status destination) result =
      (handlePollResult format source result).1.view (statusAfter status (handlePollResult format source result).2)
        (((handedOver (handlePollResult format source result).2).map (Prod.mk result.etag)).or destination) := by
  unfold PollingDataSource.handlePollResult handlePollResult
  by_cases skips : result.etag.isSome = true ∧ source.etag = result.etag
  · rw [if_pos skips, if_pos (show (source.view status destination).Skips result.etag from skips)]
    rfl
  · rw [if_neg skips, if_neg (show ¬(source.view status destination).Skips result.etag from skips),
      ← handleResult_view]
    congr 1
    cases result.etag <;> rfl

end PollingState

/-- The data source of a client that is offline, of one that streams, of which the client of the event
stream may be missing, and of one that polls. -/
inductive DataSource where
  | null
  | streaming (client : Bool)
  | polling (state : PollingState)
  deriving DecidableEq, Repr

inductive Mode where
  | offline
  | streaming
  | polling
  deriving DecidableEq, Repr

namespace DataSource

/-- A source that was started, and its reports. Without a usable endpoint it gives up at once. -/
def start (usable : Bool) : Mode → DataSource × List (Report DataSourceState)
  | .offline => (.null, [.state .setOffline])
  | .streaming =>
    (.streaming usable, .state .initializing :: if usable then [] else
      [.stateWithKind .shutdown .networkError "Could not parse streaming endpoint URL."])
  | .polling =>
    (.polling ⟨none, usable.toNat, false⟩, .state .initializing :: if usable then [] else
      [.stateWithKind .shutdown .networkError "Could not parse polling endpoint URL."])

/-- A source that was asked to shut down, and its reports. What it has under way may still complete. -/
def shutdownAsync : DataSource → DataSource × List (Report DataSourceState)
  | .null => (.null, [])
  | .streaming client => (.streaming client, if client then [.state .initializing] else [])
  | .polling state => (.polling { state with timerArmed := false }, [.state .initializing])

end DataSource

end FlagSdk.Client
