import FlagSdk.Sse.Error
import FlagSdk.Sse.Parser

/-! The client that follows one event stream. Its handlers run one at a time. What it has begun outside, the
operations of its sessions, the waits of its timer and the functions it has posted, is kept with it, and an input
says which of these completes and how. -/

namespace FlagSdk.Sse

/-- How many failures the next delay is for, and since when the connection has been up. Times are in nanoseconds. -/
structure Backoff where
  attempt : Nat := 1
  activeSince : Option Nat := none
  deriving DecidableEq, Repr

namespace Backoff

/-- In milliseconds. -/
def resetInterval : Nat := 60000

/-- What is left of a millisecond does not count. -/
def fail (backoff : Backoff) (now : Nat) : Backoff :=
  match backoff.activeSince with
  | some since =>
    if (now - since) / 1000000 > resetInterval then { attempt := 1, activeSince := none }
    else { attempt := backoff.attempt + 1, activeSince := none }
  | none => { attempt := backoff.attempt + 1, activeSince := none }

def succeed (backoff : Backoff) (now : Nat) : Backoff := { backoff with activeSince := some now }

end Backoff

inductive ErrorCode where
  | success
  | operationAborted
  | other (what : String)
  deriving DecidableEq, Repr

structure Request where
  host : String
  target : String
  lastEventId : Option String := none
  deriving DecidableEq, Repr

/-- What the client reads of a response. A status that the HTTP library does not know is 0. -/
structure Response where
  result : Nat
  contentType : Option String := none
  location : Option String := none
  deriving DecidableEq, Repr

structure Url where
  scheme : String
  host : String
  port : Option String
  encodedTarget : String
  deriving DecidableEq, Repr

structure Setup where
  readTimeout : Option Nat := none
  connectionHook : Option (Request → Request) := none
  parseUri : String → Option Url
  resolve : String → Url → Option Url

namespace Setup

def redirectUrl (setup : Setup) (origBase origLocation : String) : Option Url :=
  match setup.parseUri origLocation with
  | none => none
  | some location => if location.scheme ≠ "" then some location else setup.resolve origBase location

end Setup

namespace Response

variable (response : Response)

def successful : Bool := response.result / 100 = 2

def redirection : Bool := response.result / 100 = 3

def clientError : Bool := response.result / 100 = 4

def recoverableClientError : Bool :=
  response.result = 400 || response.result = 408 || response.result = 429

/-- More content types than one can be present. -/
def correctContentType : Bool :=
  match response.contentType with
  | some value => value.toList.tails.any fun rest => "text/event-stream".toList.isPrefixOf rest
  | none => false

end Response

inductive Operation where
  | connect
  | write
  | readHeader
  | readSome
  deriving DecidableEq, Repr

inductive Task where
  | doRun
  | doRestart
  | doShutdown
  deriving DecidableEq, Repr

structure FoxyClient where
  host : String
  port : String
  request : Request
  reader : Detail.Reader := {}
  lastEventId : Option String := none
  backoff : Backoff := {}
  shuttingDown : Bool := false
  /-- The number of the session, which is replaced with every backoff. -/
  session : Nat := 0
  operations : List (Operation × Nat) := []
  /-- The waits of the timer that have not completed. A new expiry leaves only the last of them armed. -/
  waits : List Nat := []
  armed : Option Nat := none
  nextWait : Nat := 0
  posted : List Task := []
  now : Nat := 0
  started : Bool := false
  received : List Event := []
  errors : List Error := []
  completions : Nat := 0
  deriving DecidableEq, Repr

namespace FoxyClient

variable (client : FoxyClient)

def begin (operation : Operation) : FoxyClient :=
  { client with operations := (operation, client.session) :: client.operations }

def report (error : Error) : FoxyClient := { client with errors := client.errors ++ [error] }

/-- The body is lost with the parser, but not what its receiver has. -/
def createParser : FoxyClient :=
  { client with received := client.received ++ client.reader.interpreter.received, reader := {} }

def createSession : FoxyClient := { client with session := client.session + 1 }

/-- A new expiry cancels the waits before it. -/
def asyncWait : FoxyClient :=
  { client with
    waits := client.nextWait :: client.waits
    armed := some client.nextWait
    nextWait := client.nextWait + 1 }

def keepLastEventId : FoxyClient :=
  match client.reader.interpreter.lastEventId with
  | some id => if id ≠ "" then { client with lastEventId := some id } else client
  | none => client

def asyncBackoff : FoxyClient :=
  let client := { client with backoff := client.backoff.fail client.now }
  client.keepLastEventId.createSession.createParser.asyncWait

variable (setup : Setup) (client : FoxyClient)

def doRun : FoxyClient :=
  if client.shuttingDown then client
  else
    let request := match setup.connectionHook with
      | some hook => hook client.request
      | none => client.request
    { client with request := request, started := true }.begin .connect

def onBackoff (ec : ErrorCode) : FoxyClient :=
  if ec = .operationAborted then client else client.doRun setup

/-- The operations that are cancelled here complete later. -/
def doShutdown : FoxyClient :=
  { client with shuttingDown := true, armed := none, completions := client.completions + 1 }

def perform : Task → FoxyClient
  | .doRun => client.doRun setup
  | .doRestart => client.asyncBackoff
  | .doShutdown => client.doShutdown

variable (ec : ErrorCode)

/-- Before the body is read, an operation that was aborted is taken for a cancelled one. -/
def proceed (next : FoxyClient → FoxyClient) : FoxyClient :=
  if ec = .operationAborted then client
  else if ec ≠ .success then client.asyncBackoff
  else next client

def onConnect : FoxyClient :=
  client.proceed ec fun client =>
    { client with request := { client.request with lastEventId := client.lastEventId } }.begin .write

def onWrite : FoxyClient :=
  client.proceed ec fun client => client.begin .readHeader

/-- A response with a redirection, which is followed after a backoff. -/
def onRedirection (response : Response) : FoxyClient :=
  match response.location with
  | some location =>
    if response.result = 301 ∨ response.result = 307 then
      match setup.redirectUrl "base" location with
      | none => client.report (.invalidRedirectLocation location)
      | some url =>
        { client with
          host := url.host
          port := url.port.getD url.scheme
          request := { client.request with host := url.host, target := url.encodedTarget } }.asyncBackoff
    else client.report .notRedirectable
  | none => client.report .notRedirectable

def onResponse (response : Response) : FoxyClient :=
  if response.successful then
    if response.result = 204 then client.report (.unrecoverableClientError 204)
    else if !response.correctContentType then client.asyncBackoff
    else { client with backoff := client.backoff.succeed client.now }.begin .readSome
  else if response.redirection then client.onRedirection setup response
  else if response.clientError then
    if response.recoverableClientError then client.asyncBackoff
    else client.report (.unrecoverableClientError response.result)
  else client.asyncBackoff

def onHeaders (headerDone : Bool) (response : Response) : FoxyClient :=
  client.proceed ec fun client =>
    if !headerDone then client.begin .readHeader else client.onResponse setup response

def onReadBody (isDone : Bool) : FoxyClient :=
  if ec ≠ .success then
    if client.shuttingDown then client
    else if ec = .operationAborted then (client.report (.readTimeout setup.readTimeout)).asyncBackoff
    else client.asyncBackoff
  else if isDone then client.asyncBackoff
  else client.begin .readSome

inductive Input where
  | asyncConnect
  | asyncRestart
  | asyncShutdown
  | runPosted
  | waited (wait : Nat) (ec : ErrorCode)
  | connected (session : Nat) (ec : ErrorCode)
  | written (session : Nat) (ec : ErrorCode)
  | headerRead (session : Nat) (ec : ErrorCode) (headerDone : Bool) (response : Response)
  | bodyRead (session : Nat) (ec : ErrorCode) (bytes : List Char) (isDone : Bool)
  | elapse (duration : Nat)
  deriving DecidableEq, Repr

def post (task : Task) : FoxyClient := { client with posted := client.posted ++ [task] }

/-- An operation completes once. -/
def finish (operation : Operation) (session : Nat) : Option FoxyClient :=
  if (operation, session) ∈ client.operations then
    some { client with operations := client.operations.erase (operation, session) }
  else none

/-- A wait completes once, and the one that is armed is not aborted. -/
def finishWait (wait : Nat) (ec : ErrorCode) : Option FoxyClient :=
  if wait ∈ client.waits ∧ ¬ (client.armed = some wait ∧ ec = .operationAborted) then
    some { client with
      waits := client.waits.erase wait
      armed := if client.armed = some wait then none else client.armed }
  else none

/-- An operation of a session that was replaced delivers nothing to the parser, which was replaced with it. -/
def receive (session : Nat) (bytes : List Char) : FoxyClient :=
  if session = client.session then { client with reader := client.reader.put bytes } else client

/-- What a replaced session has read is not in the parser, so the header and the body are not done there. -/
def step : Input → Option FoxyClient
  | .asyncConnect => some (client.post .doRun)
  | .asyncRestart => some (client.post .doRestart)
  | .asyncShutdown => some (client.post .doShutdown)
  | .runPosted =>
    match client.posted with
    | [] => none
    | task :: rest => some ({ client with posted := rest }.perform setup task)
  | .waited wait ec => (client.finishWait wait ec).map (·.onBackoff setup ec)
  | .connected session ec => (client.finish .connect session).map (·.onConnect ec)
  | .written session ec => (client.finish .write session).map (·.onWrite ec)
  | .headerRead session ec headerDone response =>
    (client.finish .readHeader session).map fun client =>
      client.onHeaders setup ec (headerDone && session = client.session) response
  | .bodyRead session ec bytes isDone =>
    (client.finish .readSome session).map fun client =>
      (client.receive session bytes).onReadBody setup ec (isDone && session = client.session)
  | .elapse duration => some { client with now := client.now + duration }

end FoxyClient

end FlagSdk.Sse
