import Mathlib.Data.List.Flatten
import FlagSdk.Sse.CurlSteps
import FlagSdk.Sse.Liveness

/-! From which responses the events of a client come. The responses of a run are kept beside the client, each with what
was read of its body. The client on a session reads only the body of an accepted response. The client on libcurl parses
whatever is written, so that the body of any last response can have events for it. -/

namespace FlagSdk.Sse

namespace Detail

variable (interpreter : Interpreter)

theorem Interpreter.received_takeLine (line : String) :
    interpreter.received <+: (interpreter.takeLine line).received := by
  unfold takeLine
  split
  · unfold dispatch
    split
    · exact List.prefix_append _ _
    · exact List.prefix_rfl
  · unfold parseLine
    dsimp only
    split
    · exact List.prefix_append _ _
    · unfold setField
      split_ifs <;> exact List.prefix_rfl

theorem Interpreter.received_foldl_takeLine (lines : List String) :
    interpreter.received <+: (lines.foldl takeLine interpreter).received := by
  induction lines generalizing interpreter with
  | nil => exact List.prefix_rfl
  | cons line lines ih => exact (interpreter.received_takeLine line).trans (ih _)

theorem Reader.received_prefix_put (reader : Reader) (bytes : List Char) :
    reader.interpreter.received <+: (reader.put bytes).interpreter.received := by
  rw [put, parseEvents_eq, parseStream_eq_foldl]
  rw [interpreter_foldl_feed]
  exact Interpreter.received_foldl_takeLine _ _

end Detail

structure Exchange where
  response : Response
  body : List (List Char) := []
  deriving DecidableEq, Repr

namespace Exchange

variable (exchange : Exchange)

def accepted : Bool := exchange.response.accepted

/-- The state of a new reader after the body. -/
def reader : Detail.Reader := exchange.body.foldl Detail.Reader.put {}

def events : List Event := exchange.reader.interpreter.received

def lastEventId : Option String := exchange.reader.interpreter.lastEventId.filter (· ≠ "")

def add (bytes : List Char) : Exchange := { exchange with body := exchange.body ++ [bytes] }

theorem reader_add (bytes : List Char) : (exchange.add bytes).reader = exchange.reader.put bytes := by
  rw [reader, add, List.foldl_append]
  rfl

theorem flatMap_events_eq_iff (exchanges : List Exchange) :
    exchanges.flatMap events = (exchanges.filter accepted).flatMap events ↔
      ∀ exchange ∈ exchanges, exchange.accepted = false → exchange.events = [] := by
  induction exchanges with
  | nil => simp
  | cons exchange exchanges ih =>
    rw [List.forall_mem_cons, ← ih]
    cases accepted : exchange.accepted with
    | true => simp [accepted]
    | false =>
      rw [List.filter_cons_of_neg (by simp [accepted]), List.flatMap_cons, imp_iff_right (by rfl)]
      constructor
      · intro same
        have fewer : ((exchanges.filter Exchange.accepted).flatMap events).length ≤ (exchanges.flatMap events).length :=
          (List.filter_sublist.flatMap events).length_le
        rw [← same, List.length_append] at fewer
        have none : exchange.events = [] := List.eq_nil_of_length_eq_zero (by omega)
        exact ⟨none, by rwa [none, List.nil_append] at same⟩
      · rintro ⟨none, same⟩
        rw [none, List.nil_append, same]

end Exchange

structure Exchanges where
  earlier : List Exchange := []
  current : Option Exchange := none
  deriving DecidableEq, Repr

namespace Exchanges

variable (exchanges : Exchanges)

def all : List Exchange := exchanges.earlier ++ exchanges.current.toList

def accepted : List Exchange := exchanges.all.filter Exchange.accepted

def events : List Event := exchanges.accepted.flatMap Exchange.events

def lastEventId : Option String :=
  exchanges.accepted.foldl (fun id exchange => exchange.lastEventId.or id) none

def close : Exchanges := { earlier := exchanges.all }

def respond (response : Response) : Exchanges :=
  { exchanges.close with current := some { response } }

def write (bytes : List Char) : Exchanges :=
  { exchanges with current := exchanges.current.map (·.add bytes) }

def reader : Detail.Reader := (exchanges.current.map Exchange.reader).getD {}

end Exchanges

variable {input : Input}

namespace FoxyClient
open Lib.Runs

variable (client : FoxyClient)

/-- The response of a session is the one that its parser has read first. -/
def hear (exchanges : Exchanges) (input : Input) : Exchanges :=
  match client.responded input with
  | some response => if exchanges.current.isSome then exchanges else exchanges.respond response
  | none =>
    match input with
    | .bodyRead session _ bytes _ => if session = client.session then exchanges.write bytes else exchanges
    | _ => exchanges

def attend (setup : Setup) (state : FoxyClient × Exchanges) (input : Input) : Option (FoxyClient × Exchanges) :=
  (state.1.step setup input).map fun next =>
    (next, if state.1.session < next.session then (state.1.hear state.2 input).close else state.1.hear state.2 input)

def Same (exchanges : Exchanges) (input : Input) : Prop :=
  ∀ response ∈ client.responded input, ∀ exchange ∈ exchanges.current, response = exchange.response
  deriving Decidable

/-- Only the body of an accepted response is read. What was received before is kept by the client. -/
structure Attends (client : FoxyClient) (exchanges : Exchanges) : Prop where
  below : ∀ entry ∈ client.operations, entry.2 ≤ client.session
  reading : (.readSome, client.session) ∈ client.operations → exchanges.current.any Exchange.accepted = true
  unread : ∀ exchange ∈ exchanges.current, exchange.accepted = false → exchange.body = []
  reader : client.reader = exchanges.reader
  received : client.received = ({ exchanges with current := none } : Exchanges).events
  lastEventId : client.lastEventId = ({ exchanges with current := none } : Exchanges).lastEventId

theorem lastEventId_keepLastEventId :
    client.keepLastEventId.lastEventId =
      (client.reader.interpreter.lastEventId.filter (· ≠ "")).or client.lastEventId := by
  unfold keepLastEventId
  split
  · next id known =>
    split
    · next nonempty => simp [known, Option.filter_some, nonempty]
    · next empty => simp [known, Option.filter_some, empty]
  · next unknown => simp [unknown]

variable {client : FoxyClient} {exchanges : Exchanges}

section
variable (attends : Attends client exchanges)
include attends

theorem Attends.events :
    client.received ++ client.reader.interpreter.received = exchanges.events ∧
      client.keepLastEventId.lastEventId = exchanges.lastEventId := by
  rw [lastEventId_keepLastEventId, attends.reader, attends.received, attends.lastEventId]
  have unread := attends.unread
  obtain ⟨earlier, current⟩ := exchanges
  cases current with
  | none => simp [Exchanges.events, Exchanges.lastEventId, Exchanges.accepted, Exchanges.all, Exchanges.reader]
  | some exchange =>
    cases accepted : exchange.accepted with
    | true =>
      simp [Exchanges.events, Exchanges.lastEventId, Exchanges.accepted, Exchanges.all, Exchanges.reader, accepted,
        Exchange.events, Exchange.lastEventId]
    | false =>
      have nothing := unread exchange rfl accepted
      simp [Exchanges.events, Exchanges.lastEventId, Exchanges.accepted, Exchanges.all, Exchanges.reader, accepted,
        Exchange.reader, nothing]

theorem Attends.begin {operation : Operation} {request : Request} {started : Bool}
    {backoff : Backoff} (reading : operation = .readSome → exchanges.current.any Exchange.accepted = true) :
    Attends ({ client with request := request, started := started, backoff := backoff }.begin operation) exchanges := by
  refine ⟨List.forall_mem_cons.2 ⟨le_rfl, attends.below⟩, fun member => ?_, attends.unread, attends.reader,
    attends.received, attends.lastEventId⟩
  obtain here | earlier := List.mem_cons.1 member
  · exact reading (Prod.ext_iff.1 here).1.symm
  · exact attends.reading earlier

theorem Attends.asyncBackoff : Attends client.asyncBackoff exchanges.close := by
  obtain ⟨events, lastEventId⟩ := attends.events
  rw [asyncBackoff_eq]
  refine ⟨fun entry member => Nat.le_succ_of_le (attends.below entry member), fun member => ?_, by simp [Exchanges.close],
    rfl, ?_, ?_⟩
  · exact absurd (attends.below _ member) (Nat.not_succ_le_self _)
  · exact events.trans (by simp [Exchanges.events, Exchanges.accepted, Exchanges.all, Exchanges.close])
  · exact lastEventId.trans (by simp [Exchanges.lastEventId, Exchanges.accepted, Exchanges.all, Exchanges.close])

theorem Attends.of_fewer {other : FoxyClient}
    (fewer : other.operations.Sublist client.operations) (session : other.session = client.session)
    (reader : other.reader = client.reader) (received : other.received = client.received)
    (lastEventId : other.lastEventId = client.lastEventId) : Attends other exchanges where
  below entry member := session ▸ attends.below entry (fewer.subset member)
  reading member := attends.reading (session ▸ fewer.subset member)
  unread := attends.unread
  reader := reader.trans attends.reader
  received := received.trans attends.received
  lastEventId := lastEventId.trans attends.lastEventId

theorem Attends.respond (response : Response) (none : exchanges.current = none) :
    Attends client (exchanges.respond response) := by
  have same : exchanges.all = exchanges.earlier := by rw [Exchanges.all, none, Option.toList_none, List.append_nil]
  refine ⟨attends.below, fun member => ?_, ?_, ?_, ?_, ?_⟩
  · have reading := attends.reading member
    rw [none] at reading
    cases reading
  · rintro _ ⟨⟩ -
    rfl
  · rw [attends.reader, Exchanges.reader, none]
    rfl
  · rw [attends.received, Exchanges.respond, Exchanges.close, same]
  · rw [attends.lastEventId, Exchanges.respond, Exchanges.close, same]

theorem Attends.write (bytes : List Char) (reading : exchanges.current.any Exchange.accepted = true) :
    Attends { client with reader := client.reader.put bytes } (exchanges.write bytes) := by
  obtain ⟨exchange, known, accepted⟩ := (Option.any_eq_true _ _).1 reading
  refine ⟨attends.below, fun _ => ?_, ?_, ?_, attends.received, attends.lastEventId⟩
  · rw [Exchanges.write, known]
    exact accepted
  · rw [Exchanges.write, known]
    rintro _ ⟨⟩ unaccepted
    exact absurd (accepted.symm.trans unaccepted) (by decide)
  · rw [attends.reader, Exchanges.write, Exchanges.reader, Exchanges.reader, known]
    exact (exchange.reader_add bytes).symm

theorem Attends.taken (begun : ∀ operation session ec, input.completion = some (operation, session, ec) →
      (operation, session) ∈ client.operations) :
    Attends (client.taken input) (client.hear exchanges input) := by
  have fewer := client.operations_taken_sublist input
  have session := client.session_taken input
  have received := client.received_taken input
  have lastEventId := client.lastEventId_taken input
  cases input with
  | headerRead number ec headerDone response =>
    have attends := attends.of_fewer fewer session rfl received lastEventId
    unfold hear
    split
    · split
      · exact attends
      · next none => exact attends.respond _ (by simpa using none)
    · exact attends
  | bodyRead number ec bytes isDone =>
    unfold hear
    dsimp only [responded]
    split
    · next current =>
      have member := begun _ _ _ rfl
      rw [current] at member
      refine (attends.write bytes (attends.reading member)).of_fewer fewer session ?_ received lastEventId
      rw [FoxyClient.taken, receive_eq]
      exact if_pos current
    · next other =>
      refine attends.of_fewer fewer session ?_ received lastEventId
      rw [FoxyClient.taken, receive_eq]
      exact if_neg other
  | _ => exact attends.of_fewer fewer session rfl received lastEventId

end

theorem accepted_hear (reading : exchanges.current.any Exchange.accepted = true) :
    (client.hear exchanges input).current.any Exchange.accepted = true := by
  obtain ⟨exchange, known, accepted⟩ := (Option.any_eq_true _ _).1 reading
  unfold hear
  split
  · rw [if_pos (by rw [known]; rfl)]
    exact reading
  · split
    · split
      · rw [Exchanges.write, known]
        exact accepted
      · exact reading
    · exact reading

theorem accepted_hear_of_responded {response : Response} (answered : client.responded input = some response)
    (same : client.Same exchanges input) (accepted : response.accepted = true) :
    (client.hear exchanges input).current.any Exchange.accepted = true := by
  unfold hear
  rw [answered]
  dsimp only
  split
  · next known =>
    obtain ⟨exchange, known⟩ := Option.isSome_iff_exists.1 known
    rw [known, Option.any_some, Exchange.accepted, ← same response answered exchange known, accepted]
  · exact accepted

theorem Attends.start (host port : String) (request : Request) : Attends { host, port, request } {} :=
  ⟨fun _ none => absurd none List.not_mem_nil, fun none => absurd none List.not_mem_nil, by simp, rfl, rfl, rfl⟩

theorem Attends.step {setup : Setup} {state next : FoxyClient × Exchanges} (attends : Attends state.1 state.2)
    (good : state.1.Discarded input ∧ state.1.Same state.2 input) (attended : attend setup state input = some next) :
    Attends next.1 next.2 := by
  obtain ⟨client, exchanges⟩ := state
  obtain ⟨discarded, same⟩ := good
  obtain ⟨next, stepped, rfl⟩ := Option.map_eq_some_iff.1 attended
  have begun (operation : Operation) (session : Nat) (ec : ErrorCode)
      (completion : input.completion = some (operation, session, ec)) : (operation, session) ∈ client.operations :=
    (step_completes completion stepped).1
  have taken := attends.taken begun
  have stays {other : FoxyClient} (session : other.session = client.session)
      (attends : Attends other (client.hear exchanges input)) :
      Attends other (if client.session < other.session then (client.hear exchanges input).close
        else client.hear exchanges input) := by
    rw [session, if_neg (Nat.lt_irrefl _)]
    exact attends
  have leaves {other : FoxyClient} (session : other.session = client.session)
      (attends : Attends other (client.hear exchanges input)) :
      Attends other.asyncBackoff (if client.session < other.asyncBackoff.session
        then (client.hear exchanges input).close else client.hear exchanges input) := by
    have later : client.session < other.asyncBackoff.session := by
      rw [asyncBackoff_eq, session]
      exact Nat.lt_succ_self _
    rw [if_pos later]
    exact attends.asyncBackoff
  have session := client.session_taken input
  cases completion : input.completion with
  | none =>
    cases step_directs completion stepped with
    | keep => exact stays session taken
    | connect request up => exact stays session (taken.begin (by simp))
    | backOff => exact leaves session taken
    | shutDown => exact stays session (taken.of_fewer (List.Sublist.refl _) rfl rfl rfl rfl)
  | some completed =>
    obtain ⟨operation, number, ec⟩ := completed
    cases (step_completes completion stepped).2 with
    | cancelled | silenced => exact stays session taken
    | giveUp => exact stays session (taken.of_fewer (List.Sublist.refl _) rfl rfl rfl rfl)
    | goOn request begins succeeded later reads =>
      refine stays session (taken.begin fun reading => accepted_hear (attends.reading ?_))
      have current := discarded operation number (succeeded ▸ completion)
      have member := begun operation number ec completion
      rwa [current, reads.1 reading] at member
    | establish answer succeeded reads answered accepted =>
      exact stays session (taken.begin fun _ => accepted_hear_of_responded answered same accepted)
    | backOff => exact leaves session (taken.of_fewer (List.Sublist.refl _) rfl rfl rfl rfl)

end FoxyClient

namespace CurlClient
open Lib.Runs

/-- Nothing of a body is read once the client is shut down. -/
def hear (client : CurlClient) (exchanges : Exchanges) : Input → Exchanges
  | .responded _ response => exchanges.respond response
  | .written _ bytes => if client.shuttingDown then exchanges else exchanges.write bytes
  | _ => exchanges

def attend (setup : CurlSetup) (state : CurlClient × Exchanges) (input : Input) : Option (CurlClient × Exchanges) :=
  (state.1.step setup input).map fun next => (next, state.1.hear state.2 input)

def Apart (client : CurlClient) (input : Input) : Prop := client.begins input = true → client.transfers = []
  deriving Decidable

/-- What the parser has of a transfer. Before its body is written, that is nothing. -/
structure Transferred (reader : Detail.Reader) (exchanges : Exchanges) (transfer : Transfer) : Prop where
  answered : transfer.response.isSome = true → ∃ exchange ∈ exchanges.current, reader = exchange.reader
  unwritten : transfer.writing = false → reader = {}

/-- The events are those of all bodies, whatever their responses are. -/
structure Attends (core : Core) (exchanges : Exchanges) : Prop where
  transfers : core.transfers = [] ∨
    ∃ transfer, core.transfers = [transfer] ∧ core.called = true ∧ Transferred core.reader exchanges transfer
  handed : core.handed = exchanges.all.flatMap Exchange.events
  lastEventId : core.lastEventId = idAfter none core.handed

variable {client : CurlClient} {exchanges : Exchanges} {transfer : Transfer} {number : Nat}

theorem Attends.found (attends : Attends client.core exchanges) (found : client.find number = some transfer) :
    client.transfers = [transfer] ∧ client.callbacks = true ∧ Transferred client.reader exchanges transfer := by
  obtain none | ⟨only, transfers, called, transferred⟩ := attends.transfers
  · rw [find, show client.transfers = [] from none] at found
    cases found
  · have member := List.mem_of_find?_eq_some found
    rw [show client.transfers = [only] from transfers, List.mem_singleton] at member
    exact ⟨member ▸ transfers, called, member ▸ transferred⟩

theorem transfers_update {updated : Transfer} (only : client.transfers = [transfer])
    (same : updated.number = transfer.number) : (client.update updated).transfers = [updated] := by
  rw [update, only]
  simp [same]

variable (attends : Attends client.core exchanges)
include attends

theorem Attends.respond
    (found : client.find number = some transfer) (unwritten : transfer.writing = false) (response : Response) :
    Attends { client.core with transfers := (client.update { transfer with response := some response }).transfers }
      (exchanges.respond response) := by
  obtain ⟨only, called, transferred⟩ := attends.found found
  have nothing := transferred.unwritten unwritten
  refine ⟨.inr ⟨_, transfers_update only (by rfl), called, fun _ => ⟨_, rfl, nothing⟩, fun _ => nothing⟩, ?_,
    attends.lastEventId⟩
  refine attends.handed.trans ?_
  simp [Exchanges.respond, Exchanges.close, Exchanges.all, Exchange.events, Exchange.reader]

theorem Attends.write
    (found : client.find number = some transfer) (answered : transfer.response.isSome = true) (bytes : List Char) :
    Attends
      { client.core with
        transfers := (client.update { transfer with writing := true }).transfers
        reader := client.reader.put bytes
        lastEventId := idAfter client.lastEventId (client.parsed bytes)
        handed := client.handed ++ if client.callbacks then client.parsed bytes else [] }
      (exchanges.write bytes) := by
  obtain ⟨only, called, transferred⟩ := attends.found found
  obtain ⟨exchange, known, reader⟩ := transferred.answered answered
  have read : client.reader.put bytes = (exchange.add bytes).reader := by rw [exchange.reader_add, ← reader]
  rw [if_pos called]
  refine ⟨.inr ⟨_, transfers_update only (by rfl), called, fun _ => ⟨exchange.add bytes, ?_, read⟩, Bool.noConfusion⟩,
    ?_, ?_⟩
  · rw [Exchanges.write, Option.mem_def.1 known]
    rfl
  · have more : exchange.events ++ client.parsed bytes = (exchange.add bytes).events := by
      rw [Exchange.events, Exchange.events, ← read, ← reader]
      exact List.prefix_iff_eq_append.1 (client.reader.received_prefix_put bytes)
    have handed : client.handed = exchanges.all.flatMap Exchange.events := attends.handed
    rw [handed, Exchanges.all, Exchanges.all, Exchanges.write, Option.mem_def.1 known]
    simp [← more]
  · have same : client.lastEventId = idAfter none client.handed := attends.lastEventId
    exact (congrArg (idAfter · _) same).trans List.foldl_append.symm

theorem Attends.moves {core : Core} (apart : client.Apart input)
    (moves : Moves client input core) : Attends core (client.hear exchanges input) := by
  have heard (quiet : silent input = true) : client.hear exchanges input = exchanges := by
    cases input with
    | responded | written => cases quiet
    | _ => rfl
  cases moves with
  | keep quiet | backOff quiet | succeed quiet | shutDown quiet =>
    rw [heard quiet]
    exact ⟨attends.transfers, attends.handed, attends.lastEventId⟩
  | run quiet begins handle =>
    rw [heard quiet, apart begins, List.nil_append]
    refine ⟨?_, attends.handed, attends.lastEventId⟩
    split
    · exact .inr ⟨_, rfl, rfl, Bool.noConfusion, fun _ => rfl⟩
    · exact .inl rfl
  | respond number response transfer found unwritten => exact attends.respond found unwritten response
  | refuse number bytes transfer found answered down =>
    have unread : client.hear exchanges (.written number bytes) = exchanges := if_pos down
    obtain ⟨only, called, transferred⟩ := attends.found found
    rw [unread]
    refine ⟨.inr ⟨_, transfers_update only (by rfl), called, fun _ => ?_, Bool.noConfusion⟩, attends.handed,
      attends.lastEventId⟩
    exact transferred.answered answered
  | write number bytes transfer found answered up =>
    have read : client.hear exchanges (.written number bytes) = exchanges.write bytes := if_neg (by simp [up])
    rw [read]
    exact attends.write found answered bytes
  | remove quiet transfer =>
    rw [heard quiet]
    refine ⟨?_, attends.handed, attends.lastEventId⟩
    obtain none | ⟨only, transfers, transferred⟩ := attends.transfers
    · exact .inl (by rw [show client.transfers = [] from none, List.filter_nil])
    · dsimp only
      rw [show client.transfers = [only] from transfers]
      by_cases other : only.number ≠ transfer.number
      · exact .inr ⟨only, List.filter_cons_of_pos (by simpa using other), transferred⟩
      · exact .inl (List.filter_cons_of_neg (by simpa using other))

omit attends in
theorem Attends.step {setup : CurlSetup} {state next : CurlClient × Exchanges} (attends : Attends state.1.core state.2)
    (apart : state.1.Apart input) (attended : attend setup state input = some next) :
    Attends next.1.core next.2 := by
  obtain ⟨after, stepped, rfl⟩ := Option.map_eq_some_iff.1 attended
  exact attends.moves apart (step_moves stepped)

end CurlClient

open Lib.Runs

/-- In every run, the client on a session has received the events in the bodies of the accepted responses and no other,
and its last event id comes from there. For the client on libcurl this is so exactly if no other response has events in
its body. -/
theorem events_accepted_iff (setup : Setup) (host port : String) (curl : CurlSetup) (request : Request) :
    (∀ inputs last, run (FoxyClient.attend setup) ({ host, port, request }, {}) inputs = some last →
      Along (FoxyClient.attend setup) (fun state input => state.1.Discarded input ∧ state.1.Same state.2 input)
        ({ host, port, request }, {}) inputs →
      last.1.received ++ last.1.reader.interpreter.received = last.2.events ∧
        last.1.keepLastEventId.lastEventId = last.2.lastEventId) ∧
      ∀ inputs last, run (CurlClient.attend curl) (.create curl request, {}) inputs = some last →
        Along (CurlClient.attend curl) (fun state input => state.1.Apart input) (.create curl request, {}) inputs →
        (last.1.handed = last.2.events ∧ last.1.lastEventId = CurlClient.idAfter none last.2.events ↔
          ∀ exchange ∈ last.2.all, exchange.accepted = false → exchange.events = []) := by
  refine ⟨fun inputs last reached good => ?_, fun inputs last reached apart => ?_⟩
  · exact (run_invariant FoxyClient.Attends.step (.start host port request) good reached).events
  · have start : CurlClient.Attends (CurlClient.create curl request).core {} := ⟨.inl rfl, rfl, rfl⟩
    have attends := run_invariant CurlClient.Attends.step start apart reached
    have handed : last.1.handed = last.2.all.flatMap Exchange.events := attends.handed
    have lastEventId : last.1.lastEventId = CurlClient.idAfter none last.1.handed := attends.lastEventId
    rw [← Exchange.flatMap_events_eq_iff, lastEventId, handed]
    exact ⟨fun same => same.1, fun same => ⟨same, congrArg _ same⟩⟩

def foxyAccepted : List FoxyClient.Input :=
  [.asyncConnect, .runPosted, .connected 0 .success, .written 0 .success,
    .headerRead 0 .success true ⟨200, some "text/event-stream", none⟩]

def plainCurl : CurlSetup where
  host := "stream"
  port := "443"
  useHttps := true

def oneEvent : List Char := "id: 7\ndata: x\n\n".toList

def curlAnswered (response : Response) : List CurlClient.Input :=
  [.asyncConnect, .runPosted .added, .responded 0 response, .written 0 oneEvent]

/-- Both clients get the event of an accepted response. -/
theorem events_accepted :
    (∃ last, run (FoxyClient.attend FoxyClient.plainSetup) (FoxyClient.plainClient, {})
        (foxyAccepted ++ [.bodyRead 0 .success oneEvent false]) = some last ∧
      last.2.events = [⟨"message", "x", some "7"⟩] ∧
      last.1.received ++ last.1.reader.interpreter.received = last.2.events) ∧
      ∃ last, run (CurlClient.attend plainCurl) (.create plainCurl ⟨"stream", "/all", none⟩, {})
          (curlAnswered ⟨200, some "text/event-stream", none⟩) = some last ∧
        last.2.events = [⟨"message", "x", some "7"⟩] ∧ last.1.handed = last.2.events := by
  obtain ⟨foxy, curl⟩ :=
    events_accepted_iff FoxyClient.plainSetup "stream" "443" plainCurl ⟨"stream", "/all", none⟩
  refine ⟨⟨_, rfl, by decide +kernel, ?_⟩, ⟨_, rfl, by decide +kernel, ?_⟩⟩
  · exact (foxy (foxyAccepted ++ [.bodyRead 0 .success oneEvent false]) _ rfl (by decide +kernel)).1
  · exact ((curl (curlAnswered ⟨200, some "text/event-stream", none⟩) _ rfl (by decide +kernel)).2
      (by decide +kernel)).1

/-- The client on libcurl hands out the event of a response with an error, and keeps its id. -/
theorem events_of_error :
    ∃ last, run (CurlClient.attend plainCurl) (.create plainCurl ⟨"stream", "/all", none⟩, {})
        (curlAnswered ⟨500, none, none⟩ ++ [.runPosted .added]) = some last ∧
      last.2.accepted = [] ∧ last.1.received = [⟨"message", "x", some "7"⟩] ∧ last.1.lastEventId = some "7" := by
  refine ⟨_, rfl, ?_⟩
  decide +kernel

end FlagSdk.Sse
