import FlagSdk.Client.DataSources

/-! The client as a machine. A call to start or to identify runs in stages on a thread of the application, while the
data source of the call before delivers messages, errors and results of polls on a thread of its own. What it delivers
is done in steps, and the other thread can come in between. The old source is replaced when it says that it was shut
down. -/

namespace FlagSdk.Client
open Lib Lib.Runs Data Json Persistence Polling ClientSide

def isInitializedSuccessfully (state : DataSourceState) : Bool :=
  state = .valid || state = .setOffline || state = .interrupted

structure Config (Text : Type) extends Persisting Text where
  mode : Mode

/-- A call of `startAsync` or of `identifyAsync`. The status that its data source was the first to report
after initializing is history that the code does not keep. -/
structure Attempt where
  listening : Bool
  promise : Option Bool
  reported : Option DataSourceState
  deriving DecidableEq, Repr

namespace Attempt

/-- The listener of a call resolves its promise with the first status after initializing, and goes. -/
def hear (state : DataSourceState) (attempt : Attempt) : Attempt :=
  if attempt.listening = true ∧ state ≠ .initializing then
    { attempt with listening := false, promise := some (isInitializedSuccessfully state) }
  else attempt

def note (state : DataSourceState) (attempt : Attempt) : Attempt :=
  { attempt with reported := attempt.reported.or (if state = .initializing then none else some state) }

end Attempt

structure Started where
  call : Nat
  context : Context
  source : DataSource
  deriving DecidableEq

inductive Stage where
  | updated
  | loaded
  | listening
  deriving DecidableEq, Repr

structure Delivery where
  canonicalKey : String
  key : String
  descriptor : ItemDescriptor EvaluationResult
  deriving DecidableEq

/-- What a source does to the client, cut where no lock is held: an update is checked for its version, then it is
written, and after that the flags are persisted. -/
inductive Action where
  | init (data : Flags)
  | upsert (key : String) (descriptor : ItemDescriptor EvaluationResult)
  | write (existing : Option (ItemDescriptor EvaluationResult)) (key : String)
      (descriptor : ItemDescriptor EvaluationResult)
  | storeCache
  | report (report : Report DataSourceState)
  deriving DecidableEq

def SourceCall.actions : SourceCall → List Action
  | .init data => [.init data, .storeCache]
  | .upsert key descriptor => [.upsert key descriptor, .storeCache]
  | .report made => [.report made]

structure Task where
  call : Nat
  context : Context
  action : Action
  deriving DecidableEq

/-- The starts that wait for the shutdown of the source are given by the numbers of their calls, and the tasks are what
the callback of a source that is under way has still to do. The context whose flags were loaded last and what was
delivered so far are history that the code does not keep. -/
structure ClientImpl (Text : Type) where
  context : Context
  identified : Context
  flagManager : FlagManager Text
  status : DataSourceStatusManager DataSourceState
  attempts : List Attempt
  stage : Option Stage
  dataSource : Option Started
  pendingStarts : List Nat
  tasks : List Task
  delivered : List Delivery

namespace ClientImpl

variable {Text : Type} (config : Config Text) (client : ClientImpl Text)

def report (call : Nat) (report : Report DataSourceState) : ClientImpl Text :=
  let status := client.status.receive report
  let attempts := client.attempts.modify call (Attempt.note status.state)
  { client with
    status := status
    attempts := if client.status.signals report then attempts.map (Attempt.hear status.state) else attempts }

def reports (call : Nat) (reports : List (Report DataSourceState)) : ClientImpl Text :=
  reports.foldl (fun client report => client.report call report) client

theorem reports_eq (call : Nat) (made : List (Report DataSourceState)) :
    ∃ status attempts, client.reports call made = { client with status := status, attempts := attempts } := by
  induction made generalizing client with
  | nil => exact ⟨client.status, client.attempts, rfl⟩
  | cons first made ih =>
    obtain ⟨status, attempts, rest⟩ := ih (client.report call first)
    exact ⟨status, attempts, rest⟩

/-- An exception while the flags are persisted ends the callback. -/
def perform (task : Task) (rest : List Task) (now : TimePoint) : ClientImpl Text :=
  let manager := client.flagManager
  match task.action with
  | .init data =>
    { client with
      flagManager := { manager with updater := (manager.updater.init data).1 }
      delivered := client.delivered ++ data.entries.map fun entry => ⟨task.context.canonicalKey, entry.1, entry.2⟩
      tasks := rest }
  | .upsert key descriptor =>
    if manager.updater.outdated key descriptor then { client with tasks := rest }
    else
      let existing := manager.updater.flagStore.find key
      { client with tasks := { task with action := .write existing key descriptor } :: rest }
  | .write existing key descriptor =>
    { client with
      flagManager := { manager with updater := (manager.updater.write existing key descriptor).1 }
      delivered := client.delivered ++ [⟨task.context.canonicalKey, key, descriptor⟩]
      tasks := rest }
  | .storeCache =>
    let (manager, fault) := manager.store config.toPersisting task.context now
    { client with flagManager := manager, tasks := if fault.isNone then rest else [] }
  | .report report => { client with tasks := rest }.report task.call report

/-- The client with the flags of the context that are persisted. -/
def new (context : Context) (persistence : Option (OrdMap String Text)) : Except Fault (ClientImpl Text) :=
  (FlagManager.loadCache config.toPersisting ⟨⟨.empty, .empty⟩, persistence⟩ context).map fun flagManager =>
    ⟨context, context, flagManager, .initial, [], none, none, [], [], []⟩

def call : ClientImpl Text :=
  { client with attempts := client.attempts ++ [⟨false, none, none⟩], stage := some .loaded }

def identifyAsync (context : Context) : ClientImpl Text := { client with context := context, stage := some .updated }

/-- An exception while the flags are loaded ends the call, of which nothing but the context remains. -/
def loadCache : ClientImpl Text :=
  match client.flagManager.loadCache config.toPersisting client.context with
  | .ok flagManager => { client with identified := client.context, flagManager := flagManager }.call
  | .error _ => { client with identified := client.context, stage := none }

def listen : ClientImpl Text :=
  { client with
    attempts := client.attempts.modify (client.attempts.length - 1) fun attempt => { attempt with listening := true }
    stage := some .listening }

def startOp (call : Nat) (usable : Bool) : ClientImpl Text :=
  let (source, reports) := DataSource.start usable config.mode
  { client with dataSource := some ⟨call, client.context, source⟩ }.reports call reports

def restartDataSource (usable : Bool) : ClientImpl Text :=
  let client := { client with stage := none }
  match client.dataSource with
  | none => client.startOp config (client.attempts.length - 1) usable
  | some started =>
    let (source, reports) := started.source.shutdownAsync
    { client with
      dataSource := some { started with source := source }
      pendingStarts := client.pendingStarts ++ [client.attempts.length - 1] }.reports started.call reports

inductive Event (Text : Type) where
  | startAsync
  | identifyAsync (context : Context)
  | loadCache
  | listen
  | restart (usable : Bool)
  | startOp (usable : Bool)
  | message (type : String) (data : Text)
  | error (error : Sse.Error)
  | pollCompletes (result : HttpResult Text)
  | timerFires
  | proceed (now : TimePoint)

def respond (source : DataSource) : Event Text → Option (DataSource × List SourceCall)
  | .message type data =>
    match source with
    | .streaming true =>
      match handleMessage config.format type data with
      | .ok (calls, _) => some (source, calls)
      | .error _ => some (source, [])
    | _ => none
  | .error error =>
    match source with
    | .streaming true => some (source, [.report (handleErrorStateChange error)])
    | _ => none
  | .pollCompletes result =>
    match source with
    | .polling state =>
      if state.requestsInFlight = 0 then none
      else
        let (state, calls) :=
          PollingState.handlePollResult config.format
            { state with requestsInFlight := state.requestsInFlight - 1 } result
        some (.polling state, calls)
    | _ => none
  | .timerFires =>
    match source with
    | .polling state =>
      if state.timerArmed then
        some (.polling { state with requestsInFlight := state.requestsInFlight + 1, timerArmed := false }, [])
      else none
    | _ => none
  | _ => none

def respondsWith (started : Started) (source : DataSource) (calls : List SourceCall) : ClientImpl Text :=
  { client with
    dataSource := some { started with source := source }
    tasks := (calls.flatMap SourceCall.actions).map (Task.mk started.call started.context) }

def deliver (event : Event Text) : Option (ClientImpl Text) :=
  match client.dataSource with
  | none => none
  | some started =>
    (respond config started.source event).map fun (source, calls) => client.respondsWith started source calls

/-- The callbacks of a source, and the start of the next one, come one after another. -/
def step : Event Text → Option (ClientImpl Text)
  | .startAsync => if client.stage = none then some client.call else none
  | .identifyAsync context => if client.stage = none then some (client.identifyAsync context) else none
  | .loadCache => if client.stage = some .updated then some (client.loadCache config) else none
  | .listen => if client.stage = some .loaded then some client.listen else none
  | .restart usable => if client.stage = some .listening then some (client.restartDataSource config usable) else none
  | .startOp usable =>
    match client.tasks, client.pendingStarts with
    | [], call :: waiting => some ({ client with pendingStarts := waiting }.startOp config call usable)
    | _, _ => none
  | .proceed now =>
    match client.tasks with
    | [] => none
    | task :: rest => some (client.perform config task rest now)
  | event => if client.tasks = [] then client.deliver config event else none

inductive Steps (client : ClientImpl Text) : Event Text → ClientImpl Text → Prop
  | startAsync (idle : client.stage = none) : Steps client .startAsync client.call
  | identifyAsync (context : Context) (idle : client.stage = none) :
    Steps client (.identifyAsync context) (client.identifyAsync context)
  | loadCache (updated : client.stage = some .updated) : Steps client .loadCache (client.loadCache config)
  | listen (loaded : client.stage = some .loaded) : Steps client .listen client.listen
  | firstStart (usable : Bool) (listening : client.stage = some .listening) (none : client.dataSource = none) :
    Steps client (.restart usable) ({ client with stage := .none }.startOp config (client.attempts.length - 1) usable)
  | shutdown (usable : Bool) (started : Started) (listening : client.stage = some .listening)
      (running : client.dataSource = some started) :
    Steps client (.restart usable) ({ client with
      stage := .none
      dataSource := some { started with source := started.source.shutdownAsync.1 }
      pendingStarts := client.pendingStarts ++ [client.attempts.length - 1] }.reports started.call
        started.source.shutdownAsync.2)
  | startOp (usable : Bool) (call : Nat) (waiting : List Nat) (done : client.tasks = [])
      (pending : client.pendingStarts = call :: waiting) :
    Steps client (.startOp usable) ({ client with pendingStarts := waiting }.startOp config call usable)
  | delivers (event : Event Text) (started : Started) (source : DataSource) (calls : List SourceCall)
      (running : client.dataSource = some started)
      (responds : respond config started.source event = some (source, calls)) :
    Steps client event (client.respondsWith started source calls)
  | proceeds (now : TimePoint) (task : Task) (rest : List Task) (due : client.tasks = task :: rest) :
    Steps client (.proceed now) (client.perform config task rest now)

variable {client} {next : ClientImpl Text} {event : Event Text}

theorem steps_deliver (taken : (if client.tasks = [] then client.deliver config event else none) = some next) :
    Steps config client event next := by
  obtain ⟨-, delivered⟩ := Option.ite_none_right_eq_some.1 taken
  unfold deliver at delivered
  split at delivered
  case h_1 => cases delivered
  case h_2 started running =>
    obtain ⟨⟨source, calls⟩, responds, same⟩ := Option.map_eq_some_iff.1 delivered
    cases same
    exact .delivers event started source calls running responds

theorem steps_step (taken : client.step config event = some next) : Steps config client event next := by
  cases event with
  | startAsync =>
    obtain ⟨idle, same⟩ := Option.ite_none_right_eq_some.1 taken
    cases same
    exact .startAsync idle
  | identifyAsync context =>
    obtain ⟨idle, same⟩ := Option.ite_none_right_eq_some.1 taken
    cases same
    exact .identifyAsync context idle
  | loadCache =>
    obtain ⟨updated, same⟩ := Option.ite_none_right_eq_some.1 taken
    cases same
    exact .loadCache updated
  | listen =>
    obtain ⟨loaded, same⟩ := Option.ite_none_right_eq_some.1 taken
    cases same
    exact .listen loaded
  | restart usable =>
    obtain ⟨listening, same⟩ := Option.ite_none_right_eq_some.1 taken
    cases same
    cases running : client.dataSource with
    | none =>
      simp only [restartDataSource, running]
      exact .firstStart usable listening running
    | some started =>
      simp only [restartDataSource, running]
      exact .shutdown usable started listening running
  | startOp usable =>
    simp only [step] at taken
    split at taken
    case h_1 call waiting done pending =>
      cases taken
      exact .startOp usable call waiting done pending
    case h_2 => cases taken
  | proceed now =>
    simp only [step] at taken
    split at taken
    case h_1 => cases taken
    case h_2 task rest due =>
      cases taken
      exact .proceeds now task rest due
  | message | error | pollCompletes | timerFires => exact steps_deliver config taken

end ClientImpl

end FlagSdk.Client
