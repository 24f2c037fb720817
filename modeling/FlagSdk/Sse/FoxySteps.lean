import FlagSdk.Lib.Runs
import FlagSdk.Sse.FoxyClient

/-! What a step of the client can do. An input takes something off the client, and then its handler begins an operation,
reports an error, backs off, shuts down, or does nothing. -/

namespace FlagSdk.Sse

def Response.accepted (response : Response) : Bool :=
  response.successful && response.result ≠ 204 && response.correctContentType

namespace FoxyClient
open Lib.Runs

/-- The client when an input has come in and its handler has not yet run. -/
def taken (client : FoxyClient) : Input → FoxyClient
  | .asyncConnect => client.post .doRun
  | .asyncRestart => client.post .doRestart
  | .asyncShutdown => client.post .doShutdown
  | .runPosted => { client with posted := client.posted.tail }
  | .waited wait _ =>
    { client with
      waits := client.waits.erase wait
      armed := if client.armed = some wait then none else client.armed }
  | .connected session _ => { client with operations := client.operations.erase (.connect, session) }
  | .written session _ => { client with operations := client.operations.erase (.write, session) }
  | .headerRead session _ _ _ => { client with operations := client.operations.erase (.readHeader, session) }
  | .bodyRead session _ bytes _ =>
    { client with operations := client.operations.erase (.readSome, session) }.receive session bytes
  | .elapse duration => { client with now := client.now + duration }

section
variable (client : FoxyClient) (input : Input)

theorem receive_eq (session : Nat) (bytes : List Char) :
    client.receive session bytes =
      { client with reader := if session = client.session then client.reader.put bytes else client.reader } := by
  unfold receive
  split <;> rfl

@[simp] theorem session_taken : (client.taken input).session = client.session := by
  cases input <;> simp [taken, post, receive_eq]

@[simp] theorem shuttingDown_taken : (client.taken input).shuttingDown = client.shuttingDown := by
  cases input <;> simp [taken, post, receive_eq]

@[simp] theorem errors_taken : (client.taken input).errors = client.errors := by
  cases input <;> simp [taken, post, receive_eq]

@[simp] theorem started_taken : (client.taken input).started = client.started := by
  cases input <;> simp [taken, post, receive_eq]

@[simp] theorem backoff_taken : (client.taken input).backoff = client.backoff := by
  cases input <;> simp [taken, post, receive_eq]

@[simp] theorem nextWait_taken : (client.taken input).nextWait = client.nextWait := by
  cases input <;> simp [taken, post, receive_eq]

@[simp] theorem received_taken : (client.taken input).received = client.received := by
  cases input <;> simp [taken, post, receive_eq]

@[simp] theorem lastEventId_taken : (client.taken input).lastEventId = client.lastEventId := by
  cases input <;> simp [taken, post, receive_eq]

theorem operations_taken_sublist : (client.taken input).operations.Sublist client.operations := by
  cases input with
  | connected | written | headerRead => exact List.erase_sublist
  | bodyRead =>
    rw [taken, receive_eq]
    exact List.erase_sublist
  | _ => exact List.Sublist.refl _

theorem asyncBackoff_eq : client.asyncBackoff = { client with
      backoff := client.backoff.fail client.now
      lastEventId := client.keepLastEventId.lastEventId
      session := client.session + 1
      received := client.received ++ client.reader.interpreter.received
      reader := {}
      waits := client.nextWait :: client.waits
      armed := some client.nextWait
      nextWait := client.nextWait + 1 } := by
  unfold asyncBackoff keepLastEventId
  simp only [createSession, createParser, asyncWait]
  split
  · split <;> rfl
  · rfl

end

variable {client next : FoxyClient} {session wait : Nat} {input : Input} {operation : Operation}
    {handler : FoxyClient → FoxyClient}

theorem finish_eq_some_iff :
    client.finish operation session = some next ↔
      (operation, session) ∈ client.operations ∧
        { client with operations := client.operations.erase (operation, session) } = next := by
  rw [finish]
  split
  · rename_i member
    rw [Option.some.injEq, and_iff_right member]
  · rename_i missing
    simp [missing]

theorem map_finish (stepped : (client.finish operation session).map handler = some next) :
    (operation, session) ∈ client.operations ∧
      next = handler { client with operations := client.operations.erase (operation, session) } := by
  obtain ⟨finished, finish, rfl⟩ := Option.map_eq_some_iff.1 stepped
  obtain ⟨member, rfl⟩ := finish_eq_some_iff.1 finish
  exact ⟨member, rfl⟩

theorem finishWait_eq_some {ec : ErrorCode} (finished : client.finishWait wait ec = some next) :
    wait ∈ client.waits ∧ ¬(client.armed = some wait ∧ ec = .operationAborted) ∧
      next = client.taken (.waited wait ec) := by
  unfold finishWait at finished
  split at finished
  · next possible =>
    cases finished
    exact ⟨possible.1, possible.2, rfl⟩
  · cases finished

section
variable {setup : Setup} {ec : ErrorCode}

theorem step_waited (stepped : client.step setup (.waited wait ec) = some next) :
    wait ∈ client.waits ∧ ¬(client.armed = some wait ∧ ec = .operationAborted) ∧
      next = (client.taken (.waited wait ec)).onBackoff setup ec := by
  obtain ⟨finished, finish, rfl⟩ := Option.map_eq_some_iff.1 stepped
  obtain ⟨member, possible, rfl⟩ := finishWait_eq_some finish
  exact ⟨member, possible, rfl⟩

theorem step_connected (stepped : client.step setup (.connected session ec) = some next) :
    (.connect, session) ∈ client.operations ∧ next = (client.taken (.connected session ec)).onConnect ec :=
  map_finish stepped

theorem step_written (stepped : client.step setup (.written session ec) = some next) :
    (.write, session) ∈ client.operations ∧ next = (client.taken (.written session ec)).onWrite ec := map_finish stepped

theorem step_headerRead {headerDone : Bool} {response : Response}
    (stepped : client.step setup (.headerRead session ec headerDone response) = some next) :
    (.readHeader, session) ∈ client.operations ∧
      next = (client.taken (.headerRead session ec headerDone response)).onHeaders setup ec
        (headerDone && session = client.session) response := map_finish stepped

theorem step_bodyRead {bytes : List Char} {isDone : Bool}
    (stepped : client.step setup (.bodyRead session ec bytes isDone) = some next) :
    (.readSome, session) ∈ client.operations ∧
      next = (client.taken (.bodyRead session ec bytes isDone)).onReadBody setup ec
        (isDone && session = client.session) := map_finish stepped

end

/-- The operation that an input completes, its session and how it went. -/
def Input.completion : Input → Option (Operation × Nat × ErrorCode)
  | .connected session ec => some (.connect, session, ec)
  | .written session ec => some (.write, session, ec)
  | .headerRead session ec _ _ => some (.readHeader, session, ec)
  | .bodyRead session ec _ _ => some (.readSome, session, ec)
  | _ => none

/-- An operation of a session that was replaced does not succeed. -/
def Discarded (client : FoxyClient) (input : Input) : Prop :=
  ∀ operation session, input.completion = some (operation, session, .success) → session = client.session

instance (client : FoxyClient) (input : Input) : Decidable (client.Discarded input) :=
  decidable_of_iff (∀ completed ∈ input.completion, completed.2.2 = .success → completed.2.1 = client.session)
    ⟨fun all operation session known => all (operation, session, .success) known rfl, fun discarded => by
      rintro ⟨operation, session, ec⟩ known rfl
      exact discarded operation session known⟩

/-- The response of the current session, when the last of its header is read. -/
def responded (client : FoxyClient) : Input → Option Response
  | .headerRead session .success true response => if session = client.session then some response else none
  | _ => none

inductive Completes (client : FoxyClient) (operation : Operation) (ec : ErrorCode) (response : Option Response) :
    FoxyClient → Prop
  | cancelled (before : operation ≠ .readSome) (aborted : ec = .operationAborted) (unanswered : response = none) :
    Completes client operation ec response client
  | silenced (down : client.shuttingDown = true) (unanswered : response = none) :
    Completes client operation ec response client
  | giveUp (error : Error) (final : isRecoverable error = false) (before : operation ≠ .readSome)
      (refused : ∀ answer ∈ response, answer.accepted = false) :
    Completes client operation ec response (client.report error)
  | goOn (request : Request) (begun : Operation) (succeeded : ec = .success) (later : begun ≠ .connect)
      (reads : begun = .readSome ↔ operation = .readSome) (unanswered : response = none) :
    Completes client operation ec response ({ client with request := request }.begin begun)
  | establish (answer : Response) (succeeded : ec = .success) (reads : operation = .readHeader)
      (answered : response = some answer) (accepted : answer.accepted = true) :
    Completes client operation ec response ({ client with backoff := client.backoff.succeed client.now }.begin .readSome)
  | backOff (host port : String) (request : Request) (errors : List Error)
      (refused : ∀ answer ∈ response, answer.accepted = false) :
    Completes client operation ec response
      { client with host := host, port := port, request := request, errors := errors }.asyncBackoff

section
variable {setup : Setup} {ec : ErrorCode} {response : Option Response}

theorem completes_asyncBackoff (refused : ∀ answer ∈ response, answer.accepted = false) :
    Completes client operation ec response client.asyncBackoff :=
  .backOff client.host client.port client.request client.errors refused

theorem completes_proceed (before : operation ≠ .readSome) (unanswered : ec ≠ .success → response = none)
    (completes : ec = .success → Completes client operation ec response (handler client)) :
    Completes client operation ec response (client.proceed ec handler) := by
  unfold proceed
  split
  · next aborted => exact .cancelled before aborted (unanswered (by simp [aborted]))
  · split
    · next failed =>
      rw [unanswered failed]
      exact completes_asyncBackoff (by simp)
    · next succeeded => exact completes (by simpa using succeeded)

theorem completes_onResponse (response : Response) :
    Completes client .readHeader .success (some response) (client.onResponse setup response) := by
  have refused (unaccepted : response.accepted = false) : ∀ answer ∈ some response, answer.accepted = false := by
    rintro answer ⟨⟩
    exact unaccepted
  unfold onResponse
  split
  · next successful =>
    split
    · next empty => exact .giveUp _ rfl (by decide) (refused (by simp [Response.accepted, empty]))
    · next full =>
      split
      · next other => exact completes_asyncBackoff (refused (by simp_all [Response.accepted]))
      · next stream => exact .establish response rfl rfl rfl (by simp_all [Response.accepted])
  · next failed =>
    have refused := refused (by simp [Response.accepted, failed])
    split
    · unfold onRedirection
      split
      · split
        · split
          · exact .giveUp _ rfl (by decide) refused
          · exact .backOff _ _ _ _ refused
        · exact .giveUp _ rfl (by decide) refused
      · exact .giveUp _ rfl (by decide) refused
    · split
      · split
        · exact completes_asyncBackoff refused
        · exact .giveUp _ rfl (by decide) refused
      · exact completes_asyncBackoff refused

theorem completes_onReadBody (isDone : Bool) :
    Completes client .readSome ec none (client.onReadBody setup ec isDone) := by
  unfold onReadBody
  split
  · split
    · next down => exact .silenced down rfl
    · split
      · exact .backOff client.host client.port client.request _ (by simp)
      · exact completes_asyncBackoff (by simp)
  · next succeeded =>
    split
    · exact completes_asyncBackoff (by simp)
    · exact .goOn client.request .readSome (by simpa using succeeded) (by decide) Iff.rfl rfl

theorem step_completes (completion : input.completion = some (operation, session, ec))
    (stepped : client.step setup input = some next) :
    (operation, session) ∈ client.operations ∧
      Completes (client.taken input) operation ec (client.responded input) next := by
  cases input with
  | connected session ec =>
    cases completion
    obtain ⟨member, rfl⟩ := step_connected stepped
    refine ⟨member, completes_proceed (by decide) (fun _ => rfl) fun succeeded => ?_⟩
    exact .goOn _ .write succeeded (by decide) (by decide) rfl
  | written session ec =>
    cases completion
    obtain ⟨member, rfl⟩ := step_written stepped
    refine ⟨member, completes_proceed (by decide) (fun _ => rfl) fun succeeded => ?_⟩
    exact .goOn _ .readHeader succeeded (by decide) (by decide) rfl
  | headerRead session ec headerDone response =>
    cases completion
    obtain ⟨member, rfl⟩ := step_headerRead stepped
    refine ⟨member, completes_proceed (by decide) ?_ ?_⟩
    · intro failed
      cases ec with
      | success => exact absurd rfl failed
      | operationAborted | other => rfl
    · rintro rfl
      cases headerDone with
      | false => exact .goOn _ .readHeader rfl (by decide) (by decide) rfl
      | true =>
        by_cases current : session = client.session
        · simp only [responded, current, decide_true, Bool.and_self, Bool.not_true, Bool.false_eq_true, if_false, if_true]
          exact completes_onResponse response
        · simp only [responded, current, decide_false, Bool.and_false, Bool.not_false, if_true, if_false]
          exact .goOn _ .readHeader rfl (by decide) (by decide) rfl
  | bodyRead session ec bytes isDone =>
    cases completion
    obtain ⟨member, rfl⟩ := step_bodyRead stepped
    exact ⟨member, completes_onReadBody _⟩
  | _ => cases completion

theorem operations_taken (completion : input.completion = some (operation, session, ec)) :
    (client.taken input).operations = client.operations.erase (operation, session) ∧
      (client.taken input).now = client.now ∧ (client.taken input).armed = client.armed := by
  cases input with
  | connected | written | headerRead =>
    cases completion
    exact ⟨rfl, rfl, rfl⟩
  | bodyRead =>
    cases completion
    rw [taken, receive_eq]
    exact ⟨rfl, rfl, rfl⟩
  | _ => cases completion

end

def restarts (client : FoxyClient) : Input → Bool
  | .runPosted => client.posted.head? = some .doRestart
  | _ => false

inductive Directs (client : FoxyClient) (input : Input) : FoxyClient → Prop
  | keep (still : (client.taken input).armed = client.armed ∨ client.shuttingDown = true) :
    Directs client input (client.taken input)
  | connect (request : Request) (up : client.shuttingDown = false) :
    Directs client input ({ client.taken input with request := request, started := true }.begin .connect)
  | backOff (now : (client.taken input).now = client.now) (restarts : client.restarts input = true) :
    Directs client input (client.taken input).asyncBackoff
  | shutDown : Directs client input (client.taken input).doShutdown

section
variable {setup : Setup}

theorem directs_doRun : Directs client input ((client.taken input).doRun setup) := by
  unfold doRun
  split
  · next down => exact .keep (.inr (by simpa using down))
  · next up => exact .connect _ (by simpa using up)

variable (direct : input.completion = none)
include direct

theorem step_directs (stepped : client.step setup input = some next) : Directs client input next := by
  cases input with
  | asyncConnect | asyncRestart | asyncShutdown | elapse =>
    cases stepped
    exact .keep (.inl rfl)
  | runPosted =>
    unfold step at stepped
    cases queue : client.posted with
    | nil =>
      simp only [queue] at stepped
      cases stepped
    | cons task rest =>
      simp only [queue] at stepped
      have first : { client with posted := rest } = client.taken .runPosted := by rw [taken, queue, List.tail_cons]
      rw [first] at stepped
      cases stepped
      cases task with
      | doRun => exact directs_doRun
      | doRestart => exact .backOff rfl (by simp [restarts, queue])
      | doShutdown => exact .shutDown
  | waited wait ec =>
    obtain ⟨-, possible, rfl⟩ := step_waited stepped
    unfold onBackoff
    split
    · next aborted => exact .keep (.inl (if_neg fun armed => possible ⟨armed, aborted⟩))
    · exact directs_doRun
  | _ => cases direct

theorem operations_taken_of_direct : (client.taken input).operations = client.operations := by
  cases input with
  | connected | written | headerRead | bodyRead => cases direct
  | _ => rfl

end

inductive Acts (client : FoxyClient) : FoxyClient → Prop
  | stay (errors : List Error) : Acts client { client with errors := errors }
  | connect (request : Request) (up : client.shuttingDown = false) :
    Acts client ({ client with request := request, started := true }.begin .connect)
  | goOn (request : Request) (backoff : Backoff) (operation : Operation) :
    Acts client ({ client with request := request, backoff := backoff }.begin operation)
  | backOff (host port : String) (request : Request) (errors : List Error) :
    Acts client { client with host := host, port := port, request := request, errors := errors }.asyncBackoff
  | shutDown : Acts client client.doShutdown

theorem step_acts {setup : Setup}
    (stepped : client.step setup input = some next) : Acts (client.taken input) next := by
  cases completion : input.completion with
  | none =>
    cases step_directs completion stepped with
    | keep => exact .stay _
    | connect request up => exact .connect request (by rw [shuttingDown_taken, up])
    | backOff => exact .backOff _ _ _ _
    | shutDown => exact .shutDown
  | some completed =>
    cases (step_completes completion stepped).2 with
    | cancelled | silenced => exact .stay _
    | giveUp error => exact .stay _
    | goOn request begun => exact .goOn request _ begun
    | establish => exact .goOn _ _ .readSome
    | backOff host port request errors => exact .backOff host port request errors

end FoxyClient

end FlagSdk.Sse
