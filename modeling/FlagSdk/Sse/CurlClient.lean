import FlagSdk.Sse.FoxyClient

/-! The client that follows one event stream by transfers of libcurl. All that it does runs on one executor: the functions
that were posted there, in their order, the waits of its timer, and the callbacks of libcurl. An input says which of these
is next, and how what lies outside of the client turns out. -/

namespace FlagSdk.Sse

inductive CurlCode where
  | ok
  | abortedByCallback
  | other (error : String)
  deriving DecidableEq, Repr

inductive TransferResult where
  | fromCurlCode (code : CurlCode)
  | fromReadTimeout
  deriving DecidableEq, Repr

/-- A transfer that is going on, with the last response to it. Redirects are followed within the transfer, and only the
body of the last response is written. -/
structure Transfer where
  number : Nat
  response : Option Response := none
  writing : Bool := false
  deriving DecidableEq, Repr

/-- What became of a handle. It may not be created or set up, and the manager may not add it. -/
inductive Handle where
  | added
  | notPrepared
  | notAdded
  deriving DecidableEq, Repr

inductive CurlTask where
  | doRun
  | abortTransfer
  | asyncBackoff
  | succeed
  | receive (event : Event)
  | report (error : Error)
  | doShutdown
  | complete (response : Option Response) (result : TransferResult)
  deriving DecidableEq, Repr

structure CurlSetup where
  host : String
  port : String
  useHttps : Bool
  readTimeout : Option Nat := none
  connectionHook : Option (Request → Request) := none

/-- The client together with its request context, of which there is only one. -/
structure CurlClient where
  request : Request
  url : String
  /-- The callbacks of the context are set. -/
  callbacks : Bool := false
  shuttingDown : Bool := false
  reader : Detail.Reader := {}
  lastEventId : Option String := none
  backoff : Backoff := {}
  transfers : List Transfer := []
  nextTransfer : Nat := 0
  /-- The waits of the timer that have not completed. A new expiry leaves only the last of them armed. -/
  waits : List Nat := []
  armed : Option Nat := none
  nextWait : Nat := 0
  posted : List CurlTask := []
  now : Nat := 0
  received : List Event := []
  errors : List Error := []
  completions : Nat := 0
  deriving DecidableEq, Repr

namespace CurlSetup

def buildUrl (setup : CurlSetup) (request : Request) : String :=
  (if setup.useHttps then "https" else "http") ++ "://" ++ setup.host ++
    (if setup.port ≠ "https" ∧ setup.port ≠ "http" then ":" ++ setup.port else "") ++ request.target

end CurlSetup

namespace CurlClient

variable (setup : CurlSetup)

def create (request : Request) : CurlClient := { request, url := setup.buildUrl request }

variable (client : CurlClient)

def post (task : CurlTask) : CurlClient := { client with posted := client.posted ++ [task] }

/-- A call of one of the callbacks of the context, each of which posts a function. -/
def callback (task : CurlTask) : CurlClient :=
  if client.shuttingDown then client else if client.callbacks then client.post task else client

def doBackoff : CurlClient := client.callback .asyncBackoff

def error (error : Error) : CurlClient := client.callback (.report error)

def receive (event : Event) : CurlClient := client.callback (.receive event)

def resetBackoff : CurlClient := client.callback .succeed

def performRequestWithMulti (handle : Handle) : CurlClient :=
  if client.shuttingDown then client
  else
    let client := { client with reader := {} }
    match handle with
    | .notPrepared => client.doBackoff
    | .notAdded => client
    | .added =>
      { client with
        transfers := client.transfers ++ [{ number := client.nextTransfer }]
        nextTransfer := client.nextTransfer + 1 }

/-- The hook sees the request of the last connection. -/
def applyHook : CurlClient :=
  match setup.connectionHook with
  | some hook => { client with request := hook client.request, url := setup.buildUrl (hook client.request) }
  | none => client

def doRun (handle : Handle) : CurlClient :=
  if client.shuttingDown then client
  else
    let client := client.applyHook setup
    { client with
      request := { client.request with lastEventId := client.lastEventId.filter (· ≠ "") }
      callbacks := true }.performRequestWithMulti handle

def asyncBackoff : CurlClient :=
  { client with
    backoff := client.backoff.fail client.now
    waits := client.nextWait :: client.waits
    armed := some client.nextWait
    nextWait := client.nextWait + 1 }

def onBackoff (ec : ErrorCode) (handle : Handle) : CurlClient :=
  if ec ≠ .success ∨ client.shuttingDown then client else client.doRun setup handle

/-- An event that was parsed, whatever the response is whose body it is in. -/
def onEvent (event : Event) : CurlClient :=
  match event.id with
  | some id => { client with lastEventId := some id }.receive event
  | none => client.receive event

def writeCallback (bytes : List Char) : CurlClient :=
  if client.shuttingDown then client
  else
    let reader := client.reader.put bytes
    let events := reader.interpreter.received.drop client.reader.interpreter.received.length
    events.foldl onEvent { client with reader := reader }

/-- The handler of a transfer that is over. A response code is 0 if there was no response. -/
def onComplete (response : Option Response) (result : TransferResult) : CurlClient :=
  let response := response.getD { result := 0 }
  match result with
  | .fromReadTimeout =>
    if client.shuttingDown then client else (client.error (.readTimeout setup.readTimeout)).doBackoff
  | .fromCurlCode code =>
    if client.shuttingDown then client
    else if response.redirection then client.error .notRedirectable
    else if code ≠ .ok then
      if code = .abortedByCallback ∧ setup.readTimeout.isSome then
        (client.error (.readTimeout setup.readTimeout)).doBackoff
      else client.doBackoff
    else if response.successful then
      if response.result = 204 then client.error (.unrecoverableClientError 204)
      else client.resetBackoff.doBackoff
    else if response.clientError then
      if response.recoverableClientError then client.doBackoff
      else client.error (.unrecoverableClientError response.result)
    else client.doBackoff

def doShutdown : CurlClient :=
  { client with shuttingDown := true, armed := none, completions := client.completions + 1 }

/-- To abort a transfer closes its socket. That it then ends with an error is an input of its own. -/
def perform (handle : Handle) : CurlTask → CurlClient
  | .doRun => client.doRun setup handle
  | .abortTransfer => client
  | .asyncBackoff => client.asyncBackoff
  | .succeed => { client with backoff := client.backoff.succeed client.now }
  | .receive event => { client with received := client.received ++ [event] }
  | .report error => { client with errors := client.errors ++ [error] }
  | .doShutdown => client.doShutdown
  | .complete response result => client.onComplete setup response result

/-- The handle is for the inputs that may begin a transfer. -/
inductive Input where
  | asyncConnect
  | asyncRestart
  | asyncShutdown
  | runPosted (handle : Handle)
  | waited (wait : Nat) (ec : ErrorCode) (handle : Handle)
  | responded (number : Nat) (response : Response)
  | written (number : Nat) (bytes : List Char)
  | ended (number : Nat) (code : CurlCode)
  | timedOut (number : Nat)
  | elapse (duration : Nat)
  deriving DecidableEq, Repr

def find (number : Nat) : Option Transfer :=
  client.transfers.find? fun transfer => transfer.number = number

def update (updated : Transfer) : CurlClient :=
  { client with
    transfers := client.transfers.map fun transfer =>
      if transfer.number = updated.number then updated else transfer }

/-- The manager removes a transfer that is over and posts its completion. -/
def remove (transfer : Transfer) (result : TransferResult) : CurlClient :=
  { client with transfers := client.transfers.filter fun other => other.number ≠ transfer.number }.post
    (.complete transfer.response result)

def finishWait (wait : Nat) (ec : ErrorCode) : Option CurlClient :=
  if wait ∈ client.waits ∧ ¬ (client.armed = some wait ∧ ec = .operationAborted) then
    some { client with
      waits := client.waits.erase wait
      armed := if client.armed = some wait then none else client.armed }
  else none

/-- No response follows one whose body is being written. -/
def step : Input → Option CurlClient
  | .asyncConnect => some (client.post .doRun)
  | .asyncRestart => some (client.post .abortTransfer)
  | .asyncShutdown => some (client.post .doShutdown)
  | .runPosted handle =>
    match client.posted with
    | [] => none
    | task :: rest => some ({ client with posted := rest }.perform setup handle task)
  | .waited wait ec handle => (client.finishWait wait ec).map (·.onBackoff setup ec handle)
  | .responded number response =>
    match client.find number with
    | some transfer =>
      if transfer.writing then none else some (client.update { transfer with response := some response })
    | none => none
  | .written number bytes =>
    match client.find number with
    | some transfer =>
      if transfer.response.isSome then some ((client.update { transfer with writing := true }).writeCallback bytes)
      else none
    | none => none
  | .ended number code => (client.find number).map fun transfer => client.remove transfer (.fromCurlCode code)
  | .timedOut number =>
    if setup.readTimeout.isSome then
      (client.find number).map fun transfer => client.remove transfer .fromReadTimeout
    else none
  | .elapse duration => some { client with now := client.now + duration }

end CurlClient

end FlagSdk.Sse
