import FlagSdk.Lib.Runs
import FlagSdk.Sse.CurlClient

/-! What the functions of the client on libcurl change. Most of them only post further functions. -/

namespace FlagSdk.Sse.CurlClient

section
variable (setup : CurlSetup) (client : CurlClient)

theorem callback_eq (task : CurlTask) :
    client.callback task =
      { client with
        posted := client.posted ++ if client.shuttingDown = false ∧ client.callbacks = true then [task] else [] } := by
  unfold callback
  split
  · next down => rw [if_neg (by simp [down]), List.append_nil]
  · next up =>
    split
    · next called =>
      rw [if_pos ⟨by simpa using up, called⟩]
      rfl
    · next uncalled => rw [if_neg (by simp [uncalled]), List.append_nil]

theorem foldl_callback (tasks : List CurlTask) :
    tasks.foldl callback client =
      { client with
        posted := client.posted ++ if client.shuttingDown = false ∧ client.callbacks = true then tasks else [] } := by
  induction tasks generalizing client with
  | nil => simp
  | cons task tasks ih =>
    rw [List.foldl_cons, ih, callback_eq]
    split <;> simp

theorem applyHook_eq : ∃ request url, client.applyHook setup = { client with request := request, url := url } := by
  unfold applyHook
  split
  · exact ⟨_, _, rfl⟩
  · exact ⟨client.request, client.url, rfl⟩

theorem doRun_eq (up : client.shuttingDown = false) (handle : Handle) :
    ∃ request url, request.lastEventId = client.lastEventId.filter (· ≠ "") ∧ client.doRun setup handle =
      { client with
        request := request
        url := url
        callbacks := true
        reader := {}
        posted := client.posted ++ if handle = .notPrepared then [.asyncBackoff] else []
        transfers := client.transfers ++ if handle = .added then [{ number := client.nextTransfer }] else []
        nextTransfer := if handle = .added then client.nextTransfer + 1 else client.nextTransfer } := by
  obtain ⟨request, url, hooked⟩ := client.applyHook_eq setup
  refine ⟨{ request with lastEventId := client.lastEventId.filter (· ≠ "") }, url, rfl, ?_⟩
  unfold doRun
  simp only [up, Bool.false_eq_true, if_false, hooked, performRequestWithMulti]
  cases handle with
  | added | notAdded => simp
  | notPrepared => simp [doBackoff, callback_eq]

def parsed (bytes : List Char) : List Event :=
  (client.reader.put bytes).interpreter.received.drop client.reader.interpreter.received.length

/-- The id after some events, of which not all have one. -/
def idAfter (id : Option String) (events : List Event) : Option String :=
  events.foldl (fun id event => event.id.or id) id

theorem onEvent_eq (up : client.shuttingDown = false) (event : Event) :
    client.onEvent event =
      { client with
        lastEventId := event.id.or client.lastEventId
        posted := client.posted ++ if client.callbacks then [.receive event] else [] } := by
  unfold onEvent
  split
  · next id known => simp [receive, callback_eq, known, up]
  · next unknown => simp [receive, callback_eq, unknown, up]

theorem foldl_onEvent (up : client.shuttingDown = false) (events : List Event) :
    events.foldl onEvent client =
      { client with
        lastEventId := idAfter client.lastEventId events
        posted := client.posted ++ if client.callbacks then events.map .receive else [] } := by
  induction events generalizing client with
  | nil => simp [idAfter]
  | cons event events ih =>
    rw [List.foldl_cons, client.onEvent_eq up, ih _ (by exact up)]
    cases client.callbacks <;> simp [idAfter]

theorem writeCallback_eq (bytes : List Char) :
    client.writeCallback bytes =
      if client.shuttingDown then client
      else
        { client with
          reader := client.reader.put bytes
          lastEventId := idAfter client.lastEventId (client.parsed bytes)
          posted := client.posted ++ if client.callbacks then (client.parsed bytes).map .receive else [] } := by
  unfold writeCallback
  split
  · rfl
  · next up => exact foldl_onEvent _ (by simpa using up) _

end

def eventOf : CurlTask → Option Event
  | .receive event => some event
  | _ => none

variable (client : CurlClient)

def handed : List Event := client.received ++ client.posted.filterMap eventOf

structure Core where
  down : Bool
  called : Bool
  reader : Detail.Reader
  lastEventId : Option String
  backoff : Backoff
  nextWait : Nat
  transfers : List Transfer
  handed : List Event

def core : Core where
  down := client.shuttingDown
  called := client.callbacks
  reader := client.reader
  lastEventId := client.lastEventId
  backoff := client.backoff
  nextWait := client.nextWait
  transfers := client.transfers
  handed := client.handed

/-- The input lets the client run, whether or not a transfer comes of it. -/
def begins : Input → Bool
  | .runPosted _ => client.posted.head? = some .doRun && !client.shuttingDown
  | .waited _ ec _ => ec = .success && !client.shuttingDown
  | _ => false

def backsOff : Input → Bool
  | .runPosted _ => client.posted.head? = some .asyncBackoff
  | _ => false

/-- The input is not about a response. -/
def silent : Input → Bool
  | .responded _ _ | .written _ _ => false
  | _ => true

inductive Moves (client : CurlClient) : Input → Core → Prop
  | keep {input : Input} (quiet : silent input = true) : Moves client input client.core
  | run {input : Input} (quiet : silent input = true) (begins : client.begins input = true) (handle : Handle) :
    Moves client input
      { client.core with
        called := true
        reader := {}
        transfers := client.transfers ++ if handle = .added then [{ number := client.nextTransfer }] else [] }
  | backOff {input : Input} (quiet : silent input = true) (backsOff : client.backsOff input = true) :
    Moves client input
      { client.core with backoff := client.backoff.fail client.now, nextWait := client.nextWait + 1 }
  | succeed {input : Input} (quiet : silent input = true) :
    Moves client input { client.core with backoff := client.backoff.succeed client.now }
  | shutDown {input : Input} (quiet : silent input = true) : Moves client input { client.core with down := true }
  | respond (number : Nat) (response : Response) (transfer : Transfer) (found : client.find number = some transfer)
      (unwritten : transfer.writing = false) :
    Moves client (.responded number response)
      { client.core with transfers := (client.update { transfer with response := some response }).transfers }
  | refuse (number : Nat) (bytes : List Char) (transfer : Transfer) (found : client.find number = some transfer)
      (answered : transfer.response.isSome = true) (down : client.shuttingDown = true) :
    Moves client (.written number bytes)
      { client.core with transfers := (client.update { transfer with writing := true }).transfers }
  | write (number : Nat) (bytes : List Char) (transfer : Transfer) (found : client.find number = some transfer)
      (answered : transfer.response.isSome = true) (up : client.shuttingDown = false) :
    Moves client (.written number bytes)
      { client.core with
        transfers := (client.update { transfer with writing := true }).transfers
        reader := client.reader.put bytes
        lastEventId := idAfter client.lastEventId (client.parsed bytes)
        handed := client.handed ++ if client.callbacks then client.parsed bytes else [] }
  | remove {input : Input} (quiet : silent input = true) (transfer : Transfer) :
    Moves client input
      { client.core with transfers := client.transfers.filter fun other => other.number ≠ transfer.number }

variable {task : CurlTask} {before : CurlClient} {setup : CurlSetup} {client next : CurlClient} {input : Input}

theorem core_posted {posted : List CurlTask} (same : posted.filterMap eventOf = client.posted.filterMap eventOf) :
    ({ client with posted := posted } : CurlClient).core = client.core := by
  simp [core, handed, same]

theorem foldl_callback_quiet {tasks : List CurlTask} (quiet : tasks.filterMap eventOf = []) :
    ∃ more, tasks.foldl callback client = { client with posted := client.posted ++ more } ∧
      more.filterMap eventOf = [] := by
  refine ⟨_, client.foldl_callback tasks, ?_⟩
  split
  · exact quiet
  · rfl

/-- The completion of a transfer posts an error, a success or a backoff. -/
theorem onComplete_eq (response : Option Response) (result : TransferResult) :
    ∃ more, client.onComplete setup response result = { client with posted := client.posted ++ more } ∧
      more.filterMap eventOf = [] := by
  have posts (tasks : List CurlTask) (quiet : tasks.filterMap eventOf = []) := @foldl_callback_quiet client tasks quiet
  unfold onComplete
  dsimp only
  split
  · split
    · exact posts [] rfl
    · exact posts [.report _, .asyncBackoff] rfl
  · split
    · exact posts [] rfl
    · split
      · exact posts [.report _] rfl
      · split
        · split
          · exact posts [.report _, .asyncBackoff] rfl
          · exact posts [.asyncBackoff] rfl
        · split
          · split
            · exact posts [.report _] rfl
            · exact posts [.succeed, .asyncBackoff] rfl
          · split
            · split
              · exact posts [.asyncBackoff] rfl
              · exact posts [.report _] rfl
            · exact posts [.asyncBackoff] rfl

theorem moves_post (quiet : silent input = true) (other : eventOf task = none) :
    Moves client input (client.post task).core := by
  have same : (client.post task).core = client.core := core_posted (by simp [other])
  exact same ▸ .keep quiet

theorem moves_remove {transfer : Transfer} {result : TransferResult} (quiet : silent input = true) :
    Moves client input (client.remove transfer result).core := by
  have moved : (client.remove transfer result).core =
      { client.core with transfers := client.transfers.filter fun other => other.number ≠ transfer.number } := by
    simp [core, remove, post, handed, eventOf]
  exact moved ▸ .remove quiet transfer

theorem core_written (transfer : Transfer) (bytes : List Char) :
    ({ client.update transfer with
      reader := client.reader.put bytes
      lastEventId := idAfter client.lastEventId (client.parsed bytes)
      posted := client.posted ++ if client.callbacks then (client.parsed bytes).map .receive else [] } :
        CurlClient).core =
      { client.core with
        transfers := (client.update transfer).transfers
        reader := client.reader.put bytes
        lastEventId := idAfter client.lastEventId (client.parsed bytes)
        handed := client.handed ++ if client.callbacks then client.parsed bytes else [] } := by
  have events : (if client.callbacks then (client.parsed bytes).map .receive else []).filterMap eventOf =
      if client.callbacks then client.parsed bytes else [] := by
    split
    · rw [List.filterMap_map]
      exact List.filterMap_some
    · rfl
  rw [core, handed, List.filterMap_append, events, ← List.append_assoc]
  rfl

theorem moves_doRun (quiet : silent input = true) (handle : Handle)
    (same : before.core = client.core) (number : before.nextTransfer = client.nextTransfer)
    (begins : before.shuttingDown = false → client.begins input = true) :
    Moves client input (before.doRun setup handle).core := by
  cases down : before.shuttingDown with
  | true =>
    rw [doRun, if_pos down, same]
    exact .keep quiet
  | false =>
    obtain ⟨request, url, -, run⟩ := before.doRun_eq setup down handle
    have moved : (before.doRun setup handle).core =
        { client.core with
          called := true
          reader := {}
          transfers := client.transfers ++ if handle = .added then [{ number := client.nextTransfer }] else [] } := by
      rw [run, ← same, ← number, show client.transfers = before.transfers from congrArg Core.transfers same.symm]
      cases handle <;> simp [core, handed, eventOf]
    exact moved ▸ .run quiet (begins down) handle

theorem moves_perform {rest : List CurlTask} (handle : Handle)
    (queue : client.posted = task :: rest) (rested : before = { client with posted := rest }) :
    Moves client (.runPosted handle) (before.perform setup handle task).core := by
  have popped (other : eventOf task = none) : before.core = client.core :=
    rested ▸ core_posted (by rw [queue, List.filterMap_cons_none other])
  cases task with
  | doRun =>
    refine moves_doRun rfl handle (popped rfl) (rested ▸ rfl) fun up => ?_
    rw [begins, queue, ← show before.shuttingDown = client.shuttingDown from rested ▸ rfl, up]
    rfl
  | abortTransfer | report => exact popped rfl ▸ .keep rfl
  | asyncBackoff =>
    have backsOff : client.backsOff (.runPosted handle) = true := by simp [CurlClient.backsOff, queue]
    have moved : (before.perform setup handle .asyncBackoff).core =
        { client.core with backoff := client.backoff.fail client.now, nextWait := client.nextWait + 1 } := by
      rw [← popped rfl, rested]
      rfl
    exact moved ▸ .backOff rfl backsOff
  | succeed =>
    have moved : (before.perform setup handle .succeed).core =
        { client.core with backoff := client.backoff.succeed client.now } := by
      rw [← popped rfl, rested]
      rfl
    exact moved ▸ .succeed rfl
  | receive event =>
    have same : (before.perform setup handle (.receive event)).core = client.core := by
      simp [rested, core, perform, handed, queue, eventOf]
    exact same ▸ .keep rfl
  | doShutdown =>
    have moved : (before.perform setup handle .doShutdown).core = { client.core with down := true } := by
      rw [← popped rfl, rested]
      rfl
    exact moved ▸ .shutDown rfl
  | complete response result =>
    obtain ⟨more, completed, nothing⟩ := @onComplete_eq setup before response result
    have same : (before.onComplete setup response result).core = client.core := by
      rw [completed, rested]
      refine @core_posted client (rest ++ more) ?_
      rw [queue, List.filterMap_cons_none rfl, List.filterMap_append, nothing, List.append_nil]
    exact same ▸ .keep rfl

theorem step_moves (stepped : client.step setup input = some next) : Moves client input next.core := by
  cases input with
  | asyncConnect | asyncRestart | asyncShutdown =>
    cases stepped
    exact moves_post rfl rfl
  | elapse =>
    cases stepped
    exact .keep rfl
  | runPosted handle =>
    unfold step at stepped
    cases queue : client.posted with
    | nil =>
      simp only [queue] at stepped
      cases stepped
    | cons task rest =>
      simp only [queue] at stepped
      cases stepped
      exact moves_perform handle queue rfl
  | waited wait ec handle =>
    obtain ⟨finished, finish, rfl⟩ := Option.map_eq_some_iff.1 stepped
    unfold finishWait at finish
    split at finish
    · cases finish
      unfold onBackoff
      by_cases stays : ec ≠ .success ∨ client.shuttingDown = true
      · rw [if_pos stays]
        exact .keep rfl
      · rw [if_neg stays]
        exact moves_doRun rfl handle rfl rfl fun _ => by simpa [begins, not_or] using stays
    · cases finish
  | responded number response =>
    simp only [step] at stepped
    split at stepped
    · next transfer found =>
      split at stepped
      · cases stepped
      · next unwritten =>
        cases stepped
        exact .respond number response transfer found (by simpa using unwritten)
    · cases stepped
  | written number bytes =>
    simp only [step] at stepped
    split at stepped
    · next transfer found =>
      split at stepped
      · next answered =>
        cases stepped
        rw [writeCallback_eq]
        split
        · next down => exact .refuse number bytes transfer found answered down
        · next up =>
          have moved := @core_written client { transfer with writing := true } bytes
          exact moved ▸ .write number bytes transfer found answered (Bool.eq_false_of_not_eq_true up)
      · cases stepped
    · cases stepped
  | ended number code =>
    obtain ⟨transfer, -, rfl⟩ := Option.map_eq_some_iff.1 stepped
    exact moves_remove rfl
  | timedOut number =>
    simp only [step] at stepped
    split at stepped
    · obtain ⟨transfer, -, rfl⟩ := Option.map_eq_some_iff.1 stepped
      exact moves_remove rfl
    · cases stepped

end FlagSdk.Sse.CurlClient
