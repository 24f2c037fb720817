import FlagSdk.Fdv2.RetryDelay
import FlagSdk.Polling.Source

/-! What an FDv2 poll makes of a response. The events of the payload go through a protocol handler up to the first
that has a result. The streaming synchronizer takes the same events one by one, and its first result is that one. -/

namespace FlagSdk.Fdv2
open Data Json Persistence Polling Fdv2.Protocol

def kErrorParsingBody : String := "Could not parse FDv2 polling response"
def kErrorMissingEvents : String := "FDv2 polling response missing 'events' array"
def kErrorIncompletePayload : String := "FDv2 polling response did not contain a complete payload"
def kErrorTranslation : String := "FDv2 polling response could not be translated"

def interruptedBy (kind : DataSourceStatusErrorKind) (message : String) : FDv2SourceResult :=
  ⟨.interrupted ⟨kind, 0, message⟩, none⟩

/-- The type and the data of an entry; other entries are skipped. -/
def pollEvent : Json → Option (String × Json)
  | .object fields =>
    match Object.find fields "event", Object.find fields "data" with
    | some (.string type), some data => some (type, data)
    | _, _ => none
  | _ => none

/-- What is returned for a result of the protocol handler, if the loop stops there. -/
def pollResult : Protocol.Result → Option FDv2SourceResult
  | .monostate => none
  | .changeSet changeSet =>
    match translateChangeSet changeSet with
    | none => some (interruptedBy .invalidData kErrorTranslation)
    | some typed => some ⟨.changeSet typed, none⟩
  | .goodbye goodbye => some ⟨.goodbye goodbye.reason, goodbye.protocolFallbackTtl.map FDv1FallbackDirective.mk⟩
  | .error error =>
    if error.kind = .kServerError then
      some (interruptedBy .errorResponse (StreamingSynchronizer.serverErrorMessage error))
    else some (interruptedBy .invalidData error.message)

def parseFDv2PollEvents : List Json → ProtocolHandler → FDv2SourceResult × ProtocolHandler
  | [], handler => (interruptedBy .invalidData kErrorIncompletePayload, handler)
  | entry :: entries, handler =>
    match pollEvent entry with
    | none => parseFDv2PollEvents entries handler
    | some (type, data) =>
      let handled := handler.handleEvent type data
      match pollResult handled.2 with
      | none => parseFDv2PollEvents entries handled.1
      | some result => (result, handled.1)

variable {event : String × Json}

theorem parseFDv2PollEvents_of_read {entry : Json} (read : pollEvent entry = some event) (entries : List Json)
    (handler : ProtocolHandler) :
    parseFDv2PollEvents (entry :: entries) handler =
      match pollResult (handler.handleEvent event.1 event.2).2 with
      | none => parseFDv2PollEvents entries (handler.handleEvent event.1 event.2).1
      | some result => (result, (handler.handleEvent event.1 event.2).1) := by
  rw [parseFDv2PollEvents, read]

section
variable {Text : Type} (format : TextFormat Text)

def parseFDv2PollResponse (body : Text) (handler : ProtocolHandler) : FDv2SourceResult × ProtocolHandler :=
  match format.parse body with
  | some (.object fields) =>
    match Object.find fields "events" with
    | some (.array events) => parseFDv2PollEvents events handler
    | _ => (interruptedBy .invalidData kErrorMissingEvents, handler)
  | _ => (interruptedBy .invalidData kErrorParsingBody, handler)

/-- The response to a poll, with the two headers that are read of it. -/
inductive PollResponse (Text : Type) where
  | error (message : Option String)
  | response (status : Nat) (body : Option Text) (fallback ttl : Option String)

def handleFDv2PollResponse (handler : ProtocolHandler) : PollResponse Text → FDv2SourceResult × ProtocolHandler
  | .error message => (interruptedBy .networkError (message.getD "unknown error"), handler)
  | .response status body fallback ttl =>
    let fdv1Fallback := FDv1FallbackDirective.ofHeaders fallback ttl
    if status = 304 then (⟨.changeSet ⟨.kNone, [], ⟨none⟩⟩, fdv1Fallback⟩, handler)
    else if status = 200 then
      match body with
      | none =>
        (⟨.interrupted ⟨.invalidData, 0, "polling response contained no body"⟩, fdv1Fallback⟩, handler)
      | some body =>
        let parsed := parseFDv2PollResponse format body handler
        -- a directive of the payload goes before the one of the headers
        ({ parsed.1 with fdv1Fallback := parsed.1.fdv1Fallback.or fdv1Fallback }, parsed.2)
    else if isRecoverableStatus status then
      (⟨.interrupted ⟨.errorResponse, status, errorForStatusCode status "FDv2 polling request" (some "will retry")⟩,
        fdv1Fallback⟩, handler)
    else
      (⟨.terminalError ⟨.errorResponse, status, errorForStatusCode status "FDv2 polling request" none⟩,
        fdv1Fallback⟩, handler)

end

/-- Two results that differ at most in the message of an error. -/
def Alike (first second : FDv2SourceResult) : Prop :=
  first.fdv1Fallback = second.fdv1Fallback ∧
    match first.value, second.value with
    | .interrupted error, .interrupted other => error.kind = other.kind ∧ error.statusCode = other.statusCode
    | .changeSet changeSet, .changeSet other => changeSet = other
    | .goodbye reason, .goodbye other => reason = other
    | _, _ => False

namespace Protocol.ProtocolHandler

/-- What the handler says about events that it cannot take. -/
def complaints : List String :=
  ["could not deserialize server-intent", "server-intent data was null",
    "server-intent had an unrecognized intent code", "could not deserialize put-object", "put-object data was null",
    "could not deserialize delete-object", "delete-object data was null",
    "payload-transferred received without an active server-intent", "could not deserialize payload-transferred",
    "payload-transferred data was null", "could not deserialize error event", "error event data was null"]

def Explained : Result → Prop
  | .error error => error.kind = .kServerError ∨ error.message ∈ complaints
  | _ => True

variable (handler : ProtocolHandler)

theorem explained_handleChange {α : Type} {eventType : String} (change : α → FDv2Change) (decoded : Decoded α)
    (unreadable : "could not deserialize " ++ eventType ∈ complaints)
    (null : eventType ++ " data was null" ∈ complaints) :
    Explained (handler.handleChange eventType change decoded).2 := by
  cases decoded with
  | error fault => exact .inr unreadable
  | ok item =>
    cases item with
    | none => exact .inr null
    | some item => trivial

variable (data : Json)

theorem explained_handleServerIntent : Explained (handler.handleServerIntent data).2 := by
  unfold handleServerIntent
  cases valueToServerIntent data with
  | error fault => exact .inr (show "could not deserialize server-intent" ∈ complaints by decide)
  | ok intent =>
    cases intent with
    | none => exact .inr (by decide)
    | some intent =>
      obtain ⟨payloads⟩ := intent
      cases payloads with
      | nil => trivial
      | cons payload payloads =>
        dsimp only
        cases payload.intentCode with
        | kTransferFull | kTransferChanges | kNone => trivial
        | kUnknown => exact .inr (by decide)

theorem explained_handlePayloadTransferred : Explained (handler.handlePayloadTransferred data).2 := by
  unfold handlePayloadTransferred
  split
  · exact .inr (by decide)
  · cases valueToPayloadTransferred data with
    | error fault => exact .inr (show "could not deserialize payload-transferred" ∈ complaints by decide)
    | ok transferred =>
      cases transferred with
      | none => exact .inr (by decide)
      | some transferred => trivial

theorem explained_handleError : Explained (handler.handleError data).2 := by
  unfold handleError
  cases valueToFDv2Error data with
  | error fault => exact .inr (show "could not deserialize error event" ∈ complaints by decide)
  | ok error =>
    cases error with
    | none => exact .inr (by decide)
    | some error => exact .inl rfl

theorem explained_handleGoodbye : Explained (handler.handleGoodbye data).2 := by
  unfold handleGoodbye
  cases valueToGoodbye data with
  | error fault => trivial
  | ok goodbye => cases goodbye <;> trivial

theorem explained_handleEvent (eventType : String) (data : Json) :
    Explained (handler.handleEvent eventType data).2 := by
  unfold handleEvent
  split_ifs
  · exact explained_handleServerIntent handler data
  · exact explained_handleChange handler _ _ (by decide) (by decide)
  · exact explained_handleChange handler _ _ (by decide) (by decide)
  · exact explained_handlePayloadTransferred handler data
  · exact explained_handleError handler data
  · exact explained_handleGoodbye handler data
  · trivial

end Protocol.ProtocolHandler

variable {result : Protocol.Result} {polled : FDv2SourceResult}

theorem pollResult_ne_incomplete (explained : ProtocolHandler.Explained result)
    (stops : pollResult result = some polled) : polled ≠ interruptedBy .invalidData kErrorIncompletePayload := by
  intro incomplete
  subst incomplete
  cases result with
  | monostate | goodbye => cases stops
  | changeSet changeSet =>
    rw [pollResult] at stops
    split at stops
    · simp [interruptedBy, kErrorTranslation, kErrorIncompletePayload] at stops
    · cases stops
  | error error =>
    rw [pollResult] at stops
    split at stops
    · simp [interruptedBy] at stops
    · rename_i own
      simp only [interruptedBy, Option.some.injEq, FDv2SourceResult.mk.injEq, FDv2SourceResult.Value.interrupted.injEq,
        DataSourceStatusErrorInfo.mk.injEq, true_and, and_true] at stops
      obtain server | member := explained
      · exact own server
      · rw [stops] at member
        exact absurd member (by decide)

namespace StreamingSynchronizer
variable {Text : Type} (format : TextFormat Text)

def streamEvent (event : String × Json) : StreamEvent Text := ⟨event.1, format.serialize event.2⟩

section
variable {synchronizer : StreamingSynchronizer}

theorem given_asyncRestart (reason : String) : (synchronizer.asyncRestart reason).given = synchronizer.given := by
  unfold asyncRestart
  split <;> rfl

theorem visit_of_pollResult_none (goesOn : pollResult result = none) : synchronizer.visit result = synchronizer := by
  cases result with
  | monostate => rfl
  | goodbye goodbye => cases goesOn
  | changeSet | error =>
    rw [pollResult] at goesOn
    split at goesOn <;> cases goesOn

theorem given_visit (ordered : synchronizer.InOrder) (stops : pollResult result = some polled) :
    ∃ notified, Alike polled notified ∧
      (synchronizer.visit result).given = synchronizer.given ++ [synchronizer.withFallback notified] := by
  cases result with
  | monostate => cases stops
  | goodbye goodbye =>
    cases stops
    refine ⟨_, ⟨rfl, rfl⟩, ?_⟩
    rw [visit, given_asyncRestart]
    exact given_notify ordered _
  | changeSet changeSet =>
    rw [pollResult] at stops
    rw [visit]
    cases translated : translateChangeSet changeSet with
    | none =>
      rw [translated] at stops
      cases stops
      refine ⟨_, ?_, given_notify ordered _⟩
      exact ⟨rfl, rfl, rfl⟩
    | some typed =>
      rw [translated] at stops
      cases stops
      exact ⟨_, ⟨rfl, rfl⟩, given_notify ordered _⟩
  | error error =>
    rw [pollResult] at stops
    rw [visit]
    by_cases server : error.kind = .kServerError
    · rw [if_pos server] at stops ⊢
      cases stops
      exact ⟨_, ⟨rfl, rfl, rfl⟩, given_notify ordered _⟩
    · rw [if_neg server] at stops ⊢
      cases stops
      refine ⟨_, ⟨rfl, rfl, rfl⟩, ?_⟩
      rw [given_asyncRestart]
      exact given_notify ordered _

theorem onEvent_streamEvent (event : String × Json) :
    synchronizer.onEvent format (streamEvent format event) =
      { synchronizer with protocolHandler := (synchronizer.protocolHandler.handleEvent event.1 event.2).1 }.visit
        (synchronizer.protocolHandler.handleEvent event.1 event.2).2 := by
  rw [onEvent, streamEvent, format.parse_serialize]
  cases known : ProtocolHandler.isKnownEvent event.1 with
  | true => rfl
  | false =>
    rw [ProtocolHandler.handleEvent_of_unknown _ _ known]
    rfl

theorem onEvent_of_pollResult_none
    (goesOn : pollResult (synchronizer.protocolHandler.handleEvent event.1 event.2).2 = none) :
    synchronizer.onEvent format (streamEvent format event) =
      { synchronizer with protocolHandler := (synchronizer.protocolHandler.handleEvent event.1 event.2).1 } := by
  rw [onEvent_streamEvent, visit_of_pollResult_none goesOn]

theorem given_onEvent (ordered : synchronizer.InOrder)
    (stops : pollResult (synchronizer.protocolHandler.handleEvent event.1 event.2).2 = some polled) :
    ∃ notified, Alike polled notified ∧
      (synchronizer.onEvent format (streamEvent format event)).given =
        synchronizer.given ++ [synchronizer.withFallback notified] := by
  rw [onEvent_streamEvent]
  exact given_visit (by exact ordered) stops

theorem given_prefix (ordered : synchronizer.InOrder) (events : List (String × Json)) :
    synchronizer.given <+:
      ((events.map (streamEvent format)).foldl (onEvent format) synchronizer).given := by
  induction events generalizing synchronizer with
  | nil => exact List.prefix_refl _
  | cons event events ih =>
    refine List.IsPrefix.trans ?_ (ih (kept_inOrder.onEvent format ordered _))
    cases polls : pollResult (synchronizer.protocolHandler.handleEvent event.1 event.2).2 with
    | none =>
      rw [onEvent_of_pollResult_none format polls]
      exact List.prefix_refl _
    | some polled =>
      obtain ⟨notified, _, given⟩ := given_onEvent format ordered polls
      rw [given]
      exact List.prefix_append _ _

/-- A poll and the stream, from the same state of the handler: either both come to a first result, or neither does. -/
theorem parseFDv2PollEvents_alike (ordered : synchronizer.InOrder) (entries : List Json) :
    (∃ notified later,
        Alike (parseFDv2PollEvents entries synchronizer.protocolHandler).1 notified ∧
          (parseFDv2PollEvents entries synchronizer.protocolHandler).1 ≠
            interruptedBy .invalidData kErrorIncompletePayload ∧
          (((entries.filterMap pollEvent).map (streamEvent format)).foldl (onEvent format) synchronizer).given =
            synchronizer.given ++ synchronizer.withFallback notified :: later) ∨
      (parseFDv2PollEvents entries synchronizer.protocolHandler).1 =
          interruptedBy .invalidData kErrorIncompletePayload ∧
        (((entries.filterMap pollEvent).map (streamEvent format)).foldl (onEvent format) synchronizer).given =
          synchronizer.given := by
  induction entries generalizing synchronizer with
  | nil => exact .inr ⟨rfl, rfl⟩
  | cons entry entries ih =>
    cases read : pollEvent entry with
    | none =>
      rw [parseFDv2PollEvents, read, List.filterMap_cons_none read]
      exact ih ordered
    | some event =>
      rw [parseFDv2PollEvents_of_read read, List.filterMap_cons_some read, List.map_cons, List.foldl_cons]
      have explained := ProtocolHandler.explained_handleEvent synchronizer.protocolHandler event.1 event.2
      cases polls : pollResult (synchronizer.protocolHandler.handleEvent event.1 event.2).2 with
      | none =>
        have still : ({ synchronizer with
            protocolHandler := (synchronizer.protocolHandler.handleEvent event.1 event.2).1 } :
              StreamingSynchronizer).InOrder := ordered
        rw [onEvent_of_pollResult_none format polls]
        exact ih still
      | some polled =>
        obtain ⟨notified, alike, given⟩ := given_onEvent format ordered polls
        obtain ⟨later, rest⟩ := given_prefix format (kept_inOrder.onEvent format ordered (streamEvent format event))
          (entries.filterMap pollEvent)
        refine .inl ⟨notified, later, alike, pollResult_ne_incomplete explained polls, ?_⟩
        rw [← rest, given, List.append_assoc]
        rfl

end

variable (entries : List Json)

def streamed : List (Input Text) :=
  (entries.filterMap pollEvent).map fun event => .event (streamEvent format event)

theorem foldl_streamed (synchronizer : StreamingSynchronizer) :
    (streamed format entries).foldl (take format) synchronizer =
      ((entries.filterMap pollEvent).map (streamEvent format)).foldl (onEvent format) synchronizer := by
  rw [streamed, List.foldl_map, List.foldl_map]
  rfl

/-- A poll of a payload returns the first result that the stream gives out for its events, up to the message of an
error. It finds the payload incomplete exactly when the stream gives out nothing. -/
theorem poll_alike_stream :
    (∀ first ∈ (after format (streamed format entries)).given.head?,
        Alike (parseFDv2PollEvents entries {}).1 first) ∧
      ((parseFDv2PollEvents entries {}).1 = interruptedBy .invalidData kErrorIncompletePayload ↔
        (after format (streamed format entries)).given = []) := by
  have ordered : ({} : StreamingSynchronizer).InOrder := fun _ => rfl
  rw [after, foldl_streamed]
  obtain ⟨notified, later, alike, complete, given⟩ | ⟨incomplete, given⟩ :=
    parseFDv2PollEvents_alike format ordered entries
  · have unchanged : ({} : StreamingSynchronizer).withFallback notified = notified := by
      rw [withFallback, Option.or_none]
    rw [given, unchanged]
    refine ⟨fun first isFirst => ?_, fun incomplete => absurd incomplete complete, fun empty => by cases empty⟩
    cases isFirst
    exact alike
  · rw [given]
    exact ⟨fun first isFirst => (by cases isFirst), fun _ => rfl, fun _ => incomplete⟩

end StreamingSynchronizer

variable {Text : Type} (format : TextFormat Text)

theorem Alike.withFallback {notified : FDv2SourceResult} (alike : Alike polled notified)
    (fdv1Fallback : Option FDv1FallbackDirective) :
    Alike { polled with fdv1Fallback := polled.fdv1Fallback.or fdv1Fallback }
      { notified with fdv1Fallback := notified.fdv1Fallback.or fdv1Fallback } :=
  ⟨congrArg (·.or fdv1Fallback) alike.1, alike.2⟩

theorem handleFDv2PollResponse_alike (entries : List Json) (fallback ttl : Option String) :
    ∀ first ∈ (StreamingSynchronizer.after format
        (.response (FDv1FallbackDirective.ofHeaders fallback ttl) ::
          StreamingSynchronizer.streamed format entries)).given.head?,
      Alike (handleFDv2PollResponse format {}
        (.response 200 (some (format.serialize (.object [("events", .array entries)]))) fallback ttl)).1 first := by
  intro first isFirst
  have ordered : ({ latestFdv1Fallback := FDv1FallbackDirective.ofHeaders fallback ttl } :
      StreamingSynchronizer).InOrder := fun _ => rfl
  have parsed : parseFDv2PollResponse format (format.serialize (.object [("events", .array entries)])) {} =
      parseFDv2PollEvents entries {} := by
    rw [parseFDv2PollResponse, format.parse_serialize]
    rfl
  rw [handleFDv2PollResponse, if_neg (by decide), if_pos rfl, parsed]
  rw [StreamingSynchronizer.after, List.foldl_cons, StreamingSynchronizer.take,
    StreamingSynchronizer.foldl_streamed] at isFirst
  obtain ⟨notified, later, alike, _, given⟩ | ⟨_, given⟩ :=
    StreamingSynchronizer.parseFDv2PollEvents_alike format ordered entries
  · rw [given] at isFirst
    cases isFirst
    exact alike.withFallback _
  · rw [given] at isFirst
    cases isFirst

def goodbyeEntry : Json := .object [("event", .string "goodbye"), ("data", .object [("reason", .string "over")])]

theorem handleFDv2PollResponse_alike_goodbye :
    Alike (handleFDv2PollResponse .plain {}
        (.response 200 (some (.object [("events", .array [goodbyeEntry])])) none none)).1
      ⟨.goodbye (some "over"), none⟩ :=
  handleFDv2PollResponse_alike .plain [goodbyeEntry] none none _ rfl

end FlagSdk.Fdv2
