import FlagSdk.Sse.AcceptedResponses
import Mathlib.Data.List.DropRight

/-! Where the clients go on with a stream. Each sends an id of what it has received with the request of the next
connection. The client on a session keeps the last id that was read on a connection, unless it is empty. The client on
libcurl keeps the last id of an event. -/

namespace FlagSdk.Sse
open Lib.Runs

/-- The id that a line sets. -/
def Detail.idOf (line : String) : Option String :=
  let field := parseField line
  if field.1 = "id" ∧ '\x00' ∉ field.2.toList then some field.2 else none

/-- The last id that some lines set. -/
def Detail.lastId (lines : List String) : Option String := (lines.filterMap idOf).getLast?

/-- The lines up to the last empty one, after which no event ends. -/
def Detail.ended (lines : List String) : List String := lines.rdropWhile (· ≠ "")

/-- The last id is not empty, and no other one is the last before the last empty line; or it is empty, and there is
none before an empty line. -/
def Detail.Settled (lines : List String) : Prop :=
  lastId (ended lines) = lastId lines ∧ lastId lines ≠ some "" ∨ lastId lines = some "" ∧ lastId (ended lines) = none
  deriving Decidable

namespace Detail

theorem lastId_concat (lines : List String) (line : String) :
    lastId (lines ++ [line]) = (idOf line).or (lastId lines) := by
  rw [lastId, List.filterMap_append, List.getLast?_append, lastId]
  cases known : idOf line <;> simp [known]

theorem lastId_or_ended (lines : List String) : (lastId lines).or (lastId (ended lines)) = lastId lines := by
  cases known : lastId lines with
  | some id => rfl
  | none =>
    have nothing : lines.filterMap idOf = [] := List.getLast?_eq_none_iff.1 known
    have fewer := (List.rdropWhile_prefix (· ≠ "") lines).filterMap idOf
    rw [nothing, List.prefix_nil] at fewer
    exact List.getLast?_eq_none_iff.2 fewer

/-- What an interpreter knows of the ids after some lines. -/
structure Holds (lines : List String) (interpreter : Interpreter) : Prop where
  lastEventId : interpreter.lastEventId = lastId lines
  received : CurlClient.idAfter none interpreter.received = lastId (ended lines)
  idle : interpreter.event = none → lastId (ended lines) = lastId lines
  building : ∀ event, interpreter.event = some event → event.id = lastId lines

variable {lines : List String} {interpreter : Interpreter} {line : String}

theorem Holds.start : Holds [] {} :=
  ⟨rfl, rfl, fun _ => rfl, fun _ absent => absurd absent (Option.some_ne_none _).symm⟩

theorem Holds.empty (holds : Holds lines interpreter) : Holds (lines ++ [""]) interpreter.dispatch := by
  have whole : ended (lines ++ [""]) = lines ++ [""] := List.rdropWhile_concat_neg _ _ _ (by simp)
  have same : lastId (lines ++ [""]) = lastId lines := lastId_concat lines ""
  cases building : interpreter.event with
  | none =>
    rw [Interpreter.dispatch_of_event_eq_none building]
    refine ⟨holds.lastEventId.trans same.symm, ?_, fun _ => congrArg lastId whole, fun event given => ?_⟩
    · rw [whole, same]
      exact holds.received.trans (holds.idle building)
    · exact absurd (building.symm.trans given) (Option.some_ne_none event).symm
  | some event =>
    have id : event.trimTrailingNewline.id = lastId lines := by
      rw [← holds.building event building, Event.trimTrailingNewline]
      split <;> rfl
    unfold Interpreter.dispatch
    rw [building]
    refine ⟨holds.lastEventId.trans same.symm, ?_, fun _ => congrArg lastId whole, fun event given => ?_⟩
    · rw [whole, same, ← lastId_or_ended, ← holds.received, ← id]
      exact List.foldl_append
    · exact absurd given (Option.some_ne_none event).symm

theorem setField_ids (interpreter : Interpreter) (line : String) :
    (interpreter.setField (parseField line).1 (parseField line).2).lastEventId =
        (idOf line).or interpreter.lastEventId ∧
      (interpreter.setField (parseField line).1 (parseField line).2).received = interpreter.received ∧
      ∃ event, (interpreter.setField (parseField line).1 (parseField line).2).event = some event ∧
        event.id = (idOf line).or (interpreter.event.getD { id := interpreter.lastEventId }).id := by
  obtain ⟨name, value, known⟩ : ∃ name value, parseField line = (name, value) := ⟨_, _, rfl⟩
  simp only [idOf, known, Interpreter.setField]
  by_cases isEvent : name = "event"
  · simp [isEvent]
  by_cases isData : name = "data"
  · simp [isData, Event.appendData]
  by_cases isId : name = "id"
  · by_cases null : '\x00' ∈ value.toList
    · simp [isId, null]
    · simp [isId, null]
  · simp [isEvent, isData, isId]

/-- A line that is not empty. A comment is received at once, and has no id. -/
theorem Holds.text (holds : Holds lines interpreter) (nonempty : line ≠ "") :
    Holds (lines ++ [line]) (interpreter.parseLine line) := by
  have same : ended (lines ++ [line]) = ended lines := List.rdropWhile_concat_pos _ _ _ (by simpa using nonempty)
  have next := lastId_concat lines line
  unfold Interpreter.parseLine
  dsimp only
  split
  next comment =>
    have unset : idOf line = none := by simp [idOf, comment]
    rw [unset, Option.none_or] at next
    refine ⟨holds.lastEventId.trans next.symm, ?_, fun idle => ?_, fun event given => ?_⟩
    · rw [same, ← holds.received]
      exact List.foldl_append
    · rw [same, next]
      exact holds.idle idle
    · exact (holds.building event given).trans next.symm
  next field =>
    have begun : (interpreter.event.getD { id := interpreter.lastEventId }).id = lastId lines := by
      cases building : interpreter.event with
      | none => exact holds.lastEventId
      | some event => exact holds.building event building
    obtain ⟨lastEventId, received, event, building, id⟩ := setField_ids interpreter line
    refine ⟨?_, ?_, fun idle => ?_, fun other given => ?_⟩
    · rw [lastEventId, holds.lastEventId, next]
    · rw [received, holds.received, same]
    · exact absurd (building.symm.trans idle) (Option.some_ne_none event)
    · rw [← Option.some.inj (building.symm.trans given), id, begun, next]

theorem holds_foldl (lines : List String) : Holds lines (lines.foldl Interpreter.takeLine {}) := by
  induction lines using List.reverseRecOn with
  | nil => exact .start
  | append_singleton lines line ih =>
    rw [List.foldl_append, List.foldl_cons, List.foldl_nil, Interpreter.takeLine]
    split
    next empty => exact empty ▸ ih.empty
    next nonempty => exact ih.text nonempty

end Detail

variable (exchange : Exchange)

/-- What was received of a body, in whatever pieces. -/
def Exchange.stream : List Char := exchange.body.flatten

/-- The lines that are complete in what was received. -/
def Exchange.lines : List String := (Detail.Reader.parseStream {} exchange.stream).completeLines

theorem Exchange.flatMap_events_eq (exchanges : List Exchange) :
    exchanges.flatMap events = ((exchanges.map stream).filter (· ≠ [])).flatMap fun stream =>
      (Detail.Reader.put {} stream).interpreter.received := by
  induction exchanges with
  | nil => rfl
  | cons exchange exchanges ih =>
    rw [List.flatMap_cons, events, reader, Detail.Reader.foldl_put_flatten, ← stream, ih, List.map_cons]
    by_cases empty : exchange.stream = []
    · rw [List.filter_cons_of_neg (by simpa using empty), empty]
      rfl
    · rw [List.filter_cons_of_pos (by simpa using empty), List.flatMap_cons]

theorem FoxyClient.lastEventId_onConnect (setup : Setup) (client : FoxyClient) :
    ((client.asyncBackoff.doRun setup).onConnect .success).request.lastEventId =
      client.keepLastEventId.lastEventId := by
  have kept : (client.asyncBackoff.doRun setup).lastEventId = client.keepLastEventId.lastEventId := by
    rw [asyncBackoff_eq, doRun]
    split <;> rfl
  exact kept

theorem CurlClient.lastEventId_doRun {client : CurlClient} (up : client.shuttingDown = false) (setup : CurlSetup)
    (handle : Handle) : (client.doRun setup handle).request.lastEventId = client.lastEventId.filter (· ≠ "") := by
  obtain ⟨request, url, sent, ran⟩ := client.doRun_eq setup up handle
  rw [ran, sent]

theorem Exchange.interpreter_reader :
    exchange.reader.interpreter = exchange.lines.foldl Detail.Interpreter.takeLine {} := by
  rw [reader, Detail.Reader.foldl_put_flatten, Detail.Reader.put, Detail.Reader.parseEvents_eq, lines, stream,
    Detail.Reader.parseStream_eq_foldl, Detail.Reader.interpreter_foldl_feed]

/-- Whatever id both clients have sent before a connection, they send the same one after it. -/
def Exchange.KeepsAlike : Prop :=
  ∀ id : Option String, exchange.lastEventId.or (id.filter (· ≠ "")) =
    (CurlClient.idAfter id exchange.events).filter (· ≠ "")

theorem CurlClient.idAfter_eq (id : Option String) (events : List Event) :
    idAfter id events = (idAfter none events).or id := by
  induction events using List.reverseRecOn with
  | nil => rfl
  | append_singleton events event ih =>
    have last (id : Option String) : idAfter id (events ++ [event]) = event.id.or (idAfter id events) :=
      List.foldl_append
    rw [last, last, ih, Option.or_assoc]

theorem Exchange.settled_iff : Detail.Settled exchange.lines ↔ exchange.KeepsAlike := by
  have holds := Detail.holds_foldl exchange.lines
  rw [← interpreter_reader] at holds
  have after (id : Option String) : CurlClient.idAfter id exchange.events =
      (Detail.lastId (Detail.ended exchange.lines)).or id := by
    rw [CurlClient.idAfter_eq, events, holds.received]
  unfold Detail.Settled KeepsAlike
  simp only [lastEventId, holds.lastEventId, after]
  generalize Detail.lastId exchange.lines = read
  generalize Detail.lastId (Detail.ended exchange.lines) = dispatched
  have kept {value : String} (nonempty : value ≠ "") : (some value).filter (· ≠ "") = some value :=
    Option.filter_some_pos (by simpa using nonempty)
  constructor
  · rintro (⟨rfl, nonempty⟩ | ⟨rfl, rfl⟩) id
    · cases dispatched with
      | none => rfl
      | some value =>
        have filled : value ≠ "" := fun empty => nonempty (congrArg some empty)
        rw [Option.some_or, kept filled, Option.some_or]
    · rfl
  · intro alike
    -- An id that was sent before shows whether one was dispatched after it.
    have first := alike none
    have second := alike (some "0")
    rw [Option.filter_none, Option.or_none, Option.or_none] at first
    cases dispatched with
    | none =>
      cases read with
      | none => exact .inl ⟨rfl, (Option.some_ne_none _).symm⟩
      | some value =>
        by_cases empty : value = ""
        · exact .inr ⟨congrArg some empty, rfl⟩
        · rw [kept empty] at first
          exact absurd first (Option.some_ne_none value)
    | some value =>
      have filled : value ≠ "" := by
        rintro rfl
        exact absurd (Option.or_eq_none_iff.1 second).2 (Option.some_ne_none _)
      rw [kept filled] at first
      have same := (Option.filter_eq_some_iff.1 first).1
      refine .inl ⟨same.symm, fun empty => filled ?_⟩
      exact Option.some.inj (same.symm.trans empty)

theorem Exchange.lastEventId_eq {exchanges : List Exchange} (alike : ∀ exchange ∈ exchanges, exchange.KeepsAlike) :
    exchanges.foldl (fun id exchange => exchange.lastEventId.or id) none =
      (CurlClient.idAfter none (exchanges.flatMap events)).filter (· ≠ "") := by
  induction exchanges using List.reverseRecOn with
  | nil => rfl
  | append_singleton exchanges exchange ih =>
    rw [List.foldl_append, List.foldl_cons, List.foldl_nil, ih fun other member => alike other (by simp [member]),
      alike exchange (by simp), List.flatMap_append, List.flatMap_singleton]
    exact congrArg _ List.foldl_append.symm

/-- The clients send the same id next when both have received the same streams, apart from empty ones, and each stream
is settled. A stream is settled exactly if it keeps them alike whatever they have sent before. -/
theorem resumption_alike_of_settled (setup : Setup) (host port : String) (curl : CurlSetup) (request : Request)
    (handle : Handle) (inputs : List FoxyClient.Input) (last : FoxyClient × Exchanges)
    (reached : run (FoxyClient.attend setup) ({ host, port, request }, {}) inputs = some last)
    (good : Along (FoxyClient.attend setup) (fun state input => state.1.Discarded input ∧ state.1.Same state.2 input)
      ({ host, port, request }, {}) inputs)
    (curlInputs : List CurlClient.Input) (curlLast : CurlClient × Exchanges)
    (curlReached : run (CurlClient.attend curl) (.create curl request, {}) curlInputs = some curlLast)
    (apart : Along (CurlClient.attend curl) (fun state input => state.1.Apart input) (.create curl request, {})
      curlInputs)
    (up : curlLast.1.shuttingDown = false)
    (same : (last.2.accepted.map Exchange.stream).filter (· ≠ []) =
      (curlLast.2.all.map Exchange.stream).filter (· ≠ [])) :
    (∀ exchange : Exchange, Detail.Settled exchange.lines ↔ exchange.KeepsAlike) ∧
      ((∀ exchange ∈ last.2.accepted, Detail.Settled exchange.lines) →
        ((last.1.asyncBackoff.doRun setup).onConnect .success).request.lastEventId =
          (curlLast.1.doRun curl handle).request.lastEventId) := by
  refine ⟨Exchange.settled_iff, fun settled => ?_⟩
  have start : CurlClient.Attends (CurlClient.create curl request).core {} := ⟨.inl rfl, rfl, rfl⟩
  have attends := run_invariant CurlClient.Attends.step start apart curlReached
  have handed : curlLast.1.handed = curlLast.2.all.flatMap Exchange.events := attends.handed
  have kept : curlLast.1.lastEventId = CurlClient.idAfter none curlLast.1.handed := attends.lastEventId
  have read := (run_invariant FoxyClient.Attends.step (.start host port request) good reached).events.2
  rw [Exchange.flatMap_events_eq, ← same, ← Exchange.flatMap_events_eq] at handed
  rw [FoxyClient.lastEventId_onConnect, read, CurlClient.lastEventId_doRun up, kept, handed]
  exact Exchange.lastEventId_eq fun exchange member => exchange.settled_iff.1 (settled exchange member)

/-- Both clients go on after the event that was received. -/
theorem resumption_alike :
    ∃ last curlLast, run (FoxyClient.attend FoxyClient.plainSetup) (FoxyClient.plainClient, {})
        (foxyAccepted ++ [.bodyRead 0 .success oneEvent false]) = some last ∧
      run (CurlClient.attend plainCurl) (.create plainCurl ⟨"stream", "/all", none⟩, {})
        (curlAnswered ⟨200, some "text/event-stream", none⟩) = some curlLast ∧
      ((last.1.asyncBackoff.doRun FoxyClient.plainSetup).onConnect .success).request.lastEventId =
        (curlLast.1.doRun plainCurl .added).request.lastEventId :=
  ⟨_, _, rfl, rfl, (resumption_alike_of_settled FoxyClient.plainSetup "stream" "443" plainCurl
    ⟨"stream", "/all", none⟩ .added (foxyAccepted ++ [.bodyRead 0 .success oneEvent false]) _ rfl (by decide +kernel)
    (curlAnswered ⟨200, some "text/event-stream", none⟩) _ rfl (by decide +kernel) (by decide +kernel)
    (by decide +kernel)).2 (by decide +kernel)⟩

/-- An id is read, but the connection ends before its event. -/
theorem resumption_differs :
    ∃ last curlLast, run (FoxyClient.attend FoxyClient.plainSetup) (FoxyClient.plainClient, {})
        (foxyAccepted ++ [.bodyRead 0 .success "id: 7\n".toList false]) = some last ∧
      run (CurlClient.attend plainCurl) (.create plainCurl ⟨"stream", "/all", none⟩, {})
        [.asyncConnect, .runPosted .added, .responded 0 ⟨200, some "text/event-stream", none⟩,
          .written 0 "id: 7\n".toList] = some curlLast ∧
      ((last.1.asyncBackoff.doRun FoxyClient.plainSetup).onConnect .success).request.lastEventId = some "7" ∧
      (curlLast.1.doRun plainCurl .added).request.lastEventId = none :=
  ⟨_, _, rfl, rfl, by decide +kernel, by decide +kernel⟩

end FlagSdk.Sse
