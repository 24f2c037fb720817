import FlagSdk.Data.Model
import FlagSdk.Json.Json

/-! The protocol handler. It takes the events of a transfer one after another, collects the changes that they carry,
and gives out a change set when the transfer is complete. -/

namespace FlagSdk.Fdv2.Protocol
open Data Json

inductive IntentCode where
  | kNone
  | kTransferFull
  | kTransferChanges
  | kUnknown
  deriving DecidableEq, Repr

structure ServerIntentPayload where
  id : String
  target : Int64
  intentCode : IntentCode
  reason : Option String
  deriving DecidableEq

structure ServerIntent where
  payloads : List ServerIntentPayload
  deriving DecidableEq

structure PutObject where
  version : Int64
  kind : String
  key : String
  object : Json

structure DeleteObject where
  version : Int64
  kind : String
  key : String
  deriving DecidableEq

structure PayloadTransferred where
  state : String
  version : Int64
  deriving DecidableEq

structure Goodbye where
  reason : Option String := none
  protocolFallbackTtl : Option Int64 := none
  deriving DecidableEq

structure FDv2Error where
  id : Option String
  reason : String
  deriving DecidableEq

section

variable (json : Json)

def valueToIntentCode : Decoded IntentCode :=
  requireString json fun str =>
    .ok (some
      (if str = "none" then .kNone
      else if str = "xfer-full" then .kTransferFull
      else if str = "xfer-changes" then .kTransferChanges
      else .kUnknown))

def valueToServerIntentPayload : Decoded ServerIntentPayload :=
  requireObject json fun fields => do
    let id ← parseRequiredField valueToString fields "id"
    let target ← parseRequiredField valueToInt64 fields "target"
    let intentCode ← parseRequiredField valueToIntentCode fields "intentCode"
    let reason ← parseConditionalField valueToString fields "reason"
    return some ⟨id, target, intentCode, reason⟩

def valueToServerIntent : Decoded ServerIntent :=
  requireObject json fun fields => do
    let payloads ← parseRequiredField (valueToVector valueToServerIntentPayload) fields "payloads"
    return some ⟨payloads⟩

def valueToPutObject : Decoded PutObject :=
  requireObject json fun fields => do
    let version ← parseRequiredField valueToInt64 fields "version"
    let kind ← parseRequiredField valueToString fields "kind"
    let key ← parseRequiredField valueToString fields "key"
    match fields.find "object" with
    | none => throw schemaFailure
    | some document => return some ⟨version, kind, key, document⟩

def valueToDeleteObject : Decoded DeleteObject :=
  requireObject json fun fields => do
    let version ← parseRequiredField valueToInt64 fields "version"
    let kind ← parseRequiredField valueToString fields "kind"
    let key ← parseRequiredField valueToString fields "key"
    return some ⟨version, kind, key⟩

def valueToPayloadTransferred : Decoded PayloadTransferred :=
  requireObject json fun fields => do
    let state ← parseRequiredField valueToString fields "state"
    let version ← parseRequiredField valueToInt64 fields "version"
    return some ⟨state, version⟩

def valueToGoodbye : Decoded Goodbye :=
  requireObject json fun fields => do
    let reason ← parseConditionalField valueToString fields "reason"
    let protocolFallbackTtl ← parseConditionalField valueToInt64 fields "protocolFallbackTTL"
    return some ⟨reason, protocolFallbackTtl⟩

def valueToFDv2Error : Decoded FDv2Error :=
  requireObject json fun fields => do
    let reason ← parseRequiredField valueToString fields "reason"
    let id ← parseConditionalField valueToString fields "id"
    return some ⟨id, reason⟩

end

inductive ChangeType where
  | kPut
  | kDelete
  deriving DecidableEq, Repr

structure FDv2Change where
  changeType : ChangeType
  kind : String
  key : String
  version : UInt64
  object : Json := .null

def PutObject.change (put : PutObject) : FDv2Change :=
  ⟨.kPut, put.kind, put.key, put.version.toUInt64, put.object⟩

def DeleteObject.change (del : DeleteObject) : FDv2Change :=
  { changeType := .kDelete, kind := del.kind, key := del.key, version := del.version.toUInt64 }

structure FDv2ChangeSet where
  type : ChangeSetType
  changes : List FDv2Change
  selector : Selector

inductive Error.Kind where
  | kJsonError
  | kProtocolError
  | kServerError
  deriving DecidableEq, Repr

/-- The fault of the decoder is kept, unless it decoded a null. -/
structure Error where
  kind : Error.Kind
  message : String
  jsonError : Option Fault
  serverError : Option FDv2Error
  deriving DecidableEq

namespace Error

def jsonParseError (fault : Option Fault) (message : String) : Error := ⟨.kJsonError, message, fault, none⟩

def protocolError (message : String) : Error := ⟨.kProtocolError, message, none, none⟩

def ofServer (error : FDv2Error) : Error := ⟨.kServerError, error.reason, none, some error⟩

end Error

inductive Result where
  | monostate
  | changeSet (changeSet : FDv2ChangeSet)
  | error (error : Error)
  | goodbye (goodbye : Goodbye)

inductive State where
  | kInactive
  | kFull
  | kPartial
  deriving DecidableEq, Repr

structure ProtocolHandler where
  state : State := .kInactive
  changes : List FDv2Change := []

namespace ProtocolHandler

def isKnownEvent (eventType : String) : Bool :=
  eventType = "server-intent" || eventType = "put-object" || eventType = "delete-object" ||
    eventType = "payload-transferred" || eventType = "error" || eventType = "goodbye"

def reset (_handler : ProtocolHandler) : ProtocolHandler := ⟨.kInactive, []⟩

variable (handler : ProtocolHandler) (data : Json)

/-- An intent has one payload by the protocol, and the first one counts. -/
def handleServerIntent : ProtocolHandler × Result :=
  match valueToServerIntent data with
  | .error fault => (handler.reset, .error (.jsonParseError (some fault) "could not deserialize server-intent"))
  | .ok none => (handler.reset, .error (.jsonParseError none "server-intent data was null"))
  | .ok (some intent) =>
    match intent.payloads with
    | [] => (handler.reset, .monostate)
    | payload :: _ =>
      match payload.intentCode with
      | .kTransferFull => (⟨.kFull, []⟩, .monostate)
      | .kTransferChanges => (⟨.kPartial, []⟩, .monostate)
      | .kNone => (⟨.kPartial, []⟩, .changeSet ⟨.kNone, [], ⟨none⟩⟩)
      | .kUnknown =>
        (handler.reset, .error (.protocolError "server-intent had an unrecognized intent code"))

def handleChange {α : Type} (handler : ProtocolHandler) (eventType : String) (change : α → FDv2Change) :
    Decoded α → ProtocolHandler × Result
  | .error fault => (handler.reset, .error (.jsonParseError (some fault) ("could not deserialize " ++ eventType)))
  | .ok none => (handler.reset, .error (.jsonParseError none (eventType ++ " data was null")))
  | .ok (some item) => ({ handler with changes := handler.changes ++ [change item] }, .monostate)

def handlePutObject : ProtocolHandler × Result :=
  handler.handleChange "put-object" PutObject.change (valueToPutObject data)

def handleDeleteObject : ProtocolHandler × Result :=
  handler.handleChange "delete-object" DeleteObject.change (valueToDeleteObject data)

def handlePayloadTransferred : ProtocolHandler × Result :=
  if handler.state = .kInactive then
    (handler.reset, .error (.protocolError "payload-transferred received without an active server-intent"))
  else
    match valueToPayloadTransferred data with
    | .error fault =>
      (handler.reset, .error (.jsonParseError (some fault) "could not deserialize payload-transferred"))
    | .ok none => (handler.reset, .error (.jsonParseError none "payload-transferred data was null"))
    | .ok (some transferred) =>
      (⟨.kPartial, []⟩,
        .changeSet ⟨if handler.state = .kPartial then .kPartial else .kFull, handler.changes,
          ⟨some ⟨transferred.version, transferred.state⟩⟩⟩)

/-- What was collected is dropped, and the transfer goes on. -/
def handleError : ProtocolHandler × Result :=
  let handler := { handler with changes := [] }
  match valueToFDv2Error data with
  | .error fault => (handler, .error (.jsonParseError (some fault) "could not deserialize error event"))
  | .ok none => (handler, .error (.jsonParseError none "error event data was null"))
  | .ok (some error) => (handler, .error (.ofServer error))

/-- A goodbye that cannot be read is one all the same. -/
def handleGoodbye : ProtocolHandler × Result :=
  match valueToGoodbye data with
  | .ok (some goodbye) => (handler.reset, .goodbye goodbye)
  | _ => (handler.reset, .goodbye {})

def handleEvent (eventType : String) (data : Json) : ProtocolHandler × Result :=
  if eventType = "server-intent" then handler.handleServerIntent data
  else if eventType = "put-object" then handler.handlePutObject data
  else if eventType = "delete-object" then handler.handleDeleteObject data
  else if eventType = "payload-transferred" then handler.handlePayloadTransferred data
  else if eventType = "error" then handler.handleError data
  else if eventType = "goodbye" then handler.handleGoodbye data
  else (handler, .monostate)

theorem handleEvent_of_unknown {eventType : String} (data : Json)
    (unknown : isKnownEvent eventType = false) : handler.handleEvent eventType data = (handler, .monostate) := by
  simp only [isKnownEvent, Bool.or_eq_false_iff, decide_eq_false_iff_not] at unknown
  obtain ⟨⟨⟨⟨⟨intent, put⟩, delete⟩, transferred⟩, error⟩, goodbye⟩ := unknown
  rw [handleEvent, if_neg intent, if_neg put, if_neg delete, if_neg transferred, if_neg error, if_neg goodbye]

end ProtocolHandler

end FlagSdk.Fdv2.Protocol
