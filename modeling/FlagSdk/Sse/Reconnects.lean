import FlagSdk.Sse.AcceptedResponses
import FlagSdk.Sse.Backoff

/-! With which attempt number a client connects again. What is seen of a connection is kept beside the client, from
where it begins to connect to where it begins again. -/

namespace FlagSdk.Sse
open Lib.Runs

theorem Backoff.fail_of_recent {backoff : Backoff} {now : Nat}
    (recent : ∀ since ∈ backoff.activeSince, countsAsOld (now - since) = false) :
    backoff.fail now = { attempt := backoff.attempt + 1 } := by
  cases active : backoff.activeSince with
  | none => exact fail_of_inactive active now
  | some since =>
    have recently : ¬resetInterval < (now - since) / 1000000 := of_decide_eq_false (recent since active)
    simp [fail, active, recently]

/-- A connection, with the attempt number that it was begun with. Times are in nanoseconds. -/
structure Connection where
  attempt : Nat := 1
  upSince : Option Nat := none
  /-- It was up for longer than the interval that resets the backoff when it ended. -/
  isLong : Bool := false
  /-- The client has backed off since it began to connect. -/
  waiting : Bool := false
  deriving DecidableEq, Repr

namespace Connection

variable (connection : Connection)

/-- The number for the next connection. -/
def due : Nat := if connection.isLong then 1 else connection.attempt + 1

/-- Where the client begins to connect, another connection is followed. -/
def renew (begins : Bool) (attempt : Nat) : Connection := if begins then { attempt } else connection

/-- What a step shows of a connection: its response is accepted, it ends, or the client backs off. -/
def see (now : Nat) (accepted ended backedOff : Bool) : Connection where
  attempt := connection.attempt
  upSince := if accepted then some now else if ended then none else connection.upSince
  isLong := connection.isLong || ended && connection.upSince.any fun since => Backoff.isOld (now - since)
  waiting := connection.waiting || backedOff

theorem see_nothing (now : Nat) : connection.see now false false false = connection := by
  simp [see]

variable {connection} (brief : connection.isLong = false)
include brief

/-- The backoff counts as it should, unless the connection was up for longer than the interval by a part of a
millisecond. -/
theorem fail_eq_due {now : Nat}
    (whole : ∀ since ∈ connection.upSince, Backoff.isOld (now - since) = Backoff.countsAsOld (now - since)) :
    Backoff.fail { attempt := connection.attempt, activeSince := connection.upSince } now =
      { attempt := (connection.see now false true true).due } := by
  rw [due, see, brief]
  cases up : connection.upSince with
  | none => simp [Backoff.fail]
  | some since =>
    rw [Option.any_some, whole since up, Backoff.countsAsOld]
    by_cases old : Backoff.resetInterval < (now - since) / 1000000 <;> simp [Backoff.fail, old]

theorem isLong_see {now : Nat} {accepted ended backedOff : Bool}
    (recent : ended = true → ∀ since ∈ connection.upSince, Backoff.isOld (now - since) = false) :
    (connection.see now accepted ended backedOff).isLong = false := by
  rw [see, brief, Bool.false_or]
  cases ended with
  | false => rfl
  | true => exact (Option.any_eq_false _ _).2 (recent rfl)

end Connection

namespace FoxyClient

/-- The input lets the client connect. -/
def begins (client : FoxyClient) : Input → Bool
  | .runPosted => client.posted.head? = some .doRun && !client.shuttingDown
  | .waited _ ec => ec ≠ .operationAborted && !client.shuttingDown
  | _ => false

def accepts (client : FoxyClient) (input : Input) : Bool := (client.responded input).any Response.accepted

/-- The client is restarted, or an operation completes, other than a read of a body that goes on. -/
def closes (client : FoxyClient) : Input → Bool
  | .bodyRead _ ec _ isDone => ec ≠ .success || isDone
  | input => input.completion.isSome || client.restarts input

/-- The client and what is known of its connection, which is over when the client backs off. -/
def watch (setup : Setup) (state : FoxyClient × Connection) (input : Input) : Option (FoxyClient × Connection) :=
  (state.1.step setup input).map fun next =>
    let backedOff := state.1.nextWait < next.nextWait
    (next, (state.2.renew (state.1.begins input) state.1.backoff.attempt).see state.1.now (state.1.accepts input)
      backedOff backedOff)

/-- The client does not connect while it is connected. While it waits, it is not restarted, and nothing completes.
When the connection closes, it was not up for longer than the interval by a part of a millisecond. -/
@[mk_iff regular_iff]
structure Regular (client : FoxyClient) (connection : Connection) (input : Input) : Prop where
  apart : client.begins input = true → connection.upSince = none
  waits : connection.waiting = true → client.closes input = false
  whole : client.closes input = true → ∀ since ∈ connection.upSince,
    Backoff.isOld (client.now - since) = Backoff.countsAsOld (client.now - since)

instance (client : FoxyClient) (connection : Connection) (input : Input) :
    Decidable (client.Regular connection input) :=
  decidable_of_iff _ (regular_iff client connection input).symm

/-- What a step does to the backoff. -/
inductive Counts (client next : FoxyClient) (input : Input) : Prop
  | stays (unaccepted : client.accepts input = false) (backoff : next.backoff = client.backoff)
    (unarmed : next.nextWait = client.nextWait)
  | succeeds (accepted : client.accepts input = true) (closes : client.closes input = true)
    (backoff : next.backoff = client.backoff.succeed client.now) (unarmed : next.nextWait = client.nextWait)
  | fails (unaccepted : client.accepts input = false) (closes : client.closes input = true)
    (backoff : next.backoff = client.backoff.fail client.now) (armed : next.nextWait = client.nextWait + 1)

variable {setup : Setup} {client next : FoxyClient} {input : Input} {operation : Operation} {session : Nat}
    {ec : ErrorCode}

theorem closes_of_completion (completion : input.completion = some (operation, session, ec))
    (stepped : client.step setup input = some next) (replaced : next.session ≠ client.session) :
    client.closes input = true := by
  cases input with
  | bodyRead session ec bytes isDone =>
    obtain ⟨-, rfl⟩ := step_bodyRead stepped
    by_contra going
    obtain ⟨succeeded, unfinished⟩ : ec = .success ∧ isDone = false := by simpa [closes] using going
    refine replaced ?_
    rw [succeeded, unfinished, onReadBody, if_neg (by simp), if_neg (by simp), begin, session_taken]
  | connected | written | headerRead => rfl
  | _ => cases completion

theorem step_counts (stepped : client.step setup input = some next) : Counts client next input := by
  have backoff := client.backoff_taken input
  have waits := client.nextWait_taken input
  have refused (none : ∀ answer ∈ client.responded input, answer.accepted = false) : client.accepts input = false :=
    (Option.any_eq_false _ _).2 (by simpa using none)
  cases completion : input.completion with
  | none =>
    have unanswered : client.responded input = none := by
      cases input with
      | headerRead => cases completion
      | _ => rfl
    have unaccepted := refused (by simp [unanswered])
    cases step_directs completion stepped with
    | keep | connect | shutDown => exact .stays unaccepted backoff waits
    | backOff now restarts =>
      refine .fails unaccepted ?_ ?_ ?_
      · cases input with
        | runPosted => exact restarts
        | _ => cases restarts
      · rw [asyncBackoff_eq, backoff, now]
      · rw [asyncBackoff_eq, waits]
  | some completed =>
    obtain ⟨operation, session, ec⟩ := completed
    obtain ⟨-, now, -⟩ := @operations_taken client session input operation ec completion
    cases (step_completes completion stepped).2 with
    | cancelled _ _ unanswered | silenced _ unanswered => exact .stays (refused (by simp [unanswered])) backoff waits
    | goOn _ _ _ _ _ unanswered => exact .stays (refused (by simp [unanswered])) backoff waits
    | giveUp _ _ _ none => exact .stays (refused none) backoff waits
    | establish answer _ reads answered accepted =>
      refine .succeeds ?_ ?_ ?_ waits
      · rw [accepts, answered, Option.any_some, accepted]
      · cases input with
        | headerRead => rfl
        | _ => cases answered
      · rw [begin, backoff, now]
    | backOff host port request errors none =>
      refine .fails (refused none) (closes_of_completion completion stepped ?_) ?_ ?_
      · rw [asyncBackoff_eq, session_taken]
        exact Nat.succ_ne_self _
      · rw [asyncBackoff_eq, backoff, now]
      · rw [asyncBackoff_eq, waits]

theorem not_begins_of_closes (closes : client.closes input = true) : client.begins input = false := by
  cases input with
  | runPosted =>
    have first : client.posted.head? = some .doRestart := of_decide_eq_true closes
    rw [begins, first]
    rfl
  | waited => cases closes
  | _ => rfl

/-- Until the client backs off, its backoff has what is seen of the connection. -/
structure Tracks (backoff : Backoff) (connection : Connection) : Prop where
  isOpen : connection.waiting = false →
    connection.isLong = false ∧ backoff = { attempt := connection.attempt, activeSince := connection.upSince }
  due : connection.waiting = true → backoff = { attempt := connection.due }

theorem Tracks.step {state after : FoxyClient × Connection} (tracks : Tracks state.1.backoff state.2)
    (regular : state.1.Regular state.2 input) (watched : watch setup state input = some after) :
    Tracks after.1.backoff after.2 := by
  obtain ⟨client, connection⟩ := state
  obtain ⟨next, stepped, rfl⟩ := Option.map_eq_some_iff.1 watched
  have goesOn (closes : client.closes input = true) : connection.waiting = false := by
    by_contra waiting
    cases (regular.waits (by simpa using waiting)).symm.trans closes
  dsimp only
  cases step_counts stepped with
  | stays unaccepted backoff unarmed =>
    -- Nothing is seen, but the client may begin to connect, with a backoff that has no success recorded.
    rw [unaccepted, unarmed, decide_eq_false (lt_irrefl _), Connection.see_nothing, backoff]
    cases begins : client.begins input with
    | false => exact tracks
    | true =>
      refine ⟨fun _ => ⟨rfl, congrArg (Backoff.mk client.backoff.attempt) ?_⟩, Bool.noConfusion⟩
      cases waiting : connection.waiting with
      | true => exact congrArg Backoff.activeSince (tracks.due waiting)
      | false => exact (congrArg Backoff.activeSince (tracks.isOpen waiting).2).trans (regular.apart begins)
  | succeeds accepted closes backoff unarmed =>
    -- An operation completes, so the client is not waiting, and its connection is the one that is up.
    obtain ⟨brief, same⟩ := tracks.isOpen (goesOn closes)
    rw [accepted, not_begins_of_closes closes, unarmed, decide_eq_false (lt_irrefl _), backoff, same]
    refine ⟨fun _ => ⟨?_, rfl⟩, fun waiting => ?_⟩
    · simpa [Connection.renew, Connection.see] using brief
    · simp [Connection.renew, Connection.see, goesOn closes] at waiting
  | fails unaccepted closes backoff armed =>
    obtain ⟨brief, same⟩ := tracks.isOpen (goesOn closes)
    rw [unaccepted, not_begins_of_closes closes, armed, decide_eq_true (Nat.lt_succ_self _), backoff, same]
    refine ⟨fun waiting => ?_, fun _ => Connection.fail_eq_due brief (regular.whole closes)⟩
    simp [Connection.see] at waiting

end FoxyClient

namespace CurlClient

def accepts : Input → Bool
  | .responded _ response => response.accepted
  | _ => false

/-- A transfer is over. -/
def ends : Input → Bool
  | .ended _ _ | .timedOut _ => true
  | _ => false

def runsPosted : Input → Bool
  | .runPosted _ => true
  | _ => false

def watch (setup : CurlSetup) (state : CurlClient × Connection) (input : Input) : Option (CurlClient × Connection) :=
  (state.1.step setup input).map fun next =>
    (next, (state.2.renew (state.1.begins input) state.1.backoff.attempt).see state.1.now (accepts input) (ends input)
      (state.1.nextWait < next.nextWait))

/-- While the client waits, no function that it has posted runs. A transfer ends when the connection has not been up for
longer than the interval, and the client backs off when it is not longer ago that it was told of a success. -/
@[mk_iff regular_iff]
structure Regular (client : CurlClient) (connection : Connection) (input : Input) : Prop where
  waits : connection.waiting = true → runsPosted input = false
  brief : ends input = true → ∀ since ∈ connection.upSince, Backoff.isOld (client.now - since) = false
  prompt : client.backsOff input = true → ∀ since ∈ client.backoff.activeSince,
    Backoff.countsAsOld (client.now - since) = false

instance (client : CurlClient) (connection : Connection) (input : Input) :
    Decidable (client.Regular connection input) :=
  decidable_of_iff _ (regular_iff client connection input).symm

/-- No connection is long, so each backoff counts one more. -/
structure Brief (attempt : Nat) (connection : Connection) : Prop where
  brief : connection.isLong = false
  attempt : attempt = if connection.waiting then connection.due else connection.attempt

variable {setup : CurlSetup} {client : CurlClient} {input : Input} {core : Core}

theorem Moves.attempt (moves : Moves client input core)
    (prompt : client.backsOff input = true → ∀ since ∈ client.backoff.activeSince,
      Backoff.countsAsOld (client.now - since) = false) :
    core.backoff.attempt = (if client.nextWait < core.nextWait then client.backoff.attempt + 1
      else client.backoff.attempt) ∧ (client.nextWait < core.nextWait → runsPosted input = true) := by
  cases moves with
  | backOff _ backsOff =>
    refine ⟨?_, fun _ => ?_⟩
    · rw [if_pos (Nat.lt_succ_self _), Backoff.fail_of_recent (prompt backsOff)]
    · cases input with
      | runPosted => rfl
      | _ => cases backsOff
  | _ => exact ⟨(if_neg (lt_irrefl _)).symm, fun later => absurd later (lt_irrefl _)⟩

theorem Brief.see {attempt next now : Nat} {connection : Connection} (brief : Brief attempt connection)
    {accepted ended backedOff : Bool}
    (recent : ended = true → ∀ since ∈ connection.upSince, Backoff.isOld (now - since) = false)
    (counted : next = if backedOff then attempt + 1 else attempt)
    (waits : connection.waiting = true → backedOff = false) :
    Brief next (connection.see now accepted ended backedOff) := by
  have short := @Connection.isLong_see connection brief.brief now accepted ended backedOff recent
  refine ⟨short, ?_⟩
  rw [Connection.due, short, counted, brief.attempt, Connection.due, brief.brief, Connection.see]
  cases waiting : connection.waiting with
  | false => cases backedOff <;> rfl
  | true =>
    rw [waits waiting]
    rfl

theorem Brief.step {state after : CurlClient × Connection} (brief : Brief state.1.backoff.attempt state.2)
    (regular : state.1.Regular state.2 input) (watched : watch setup state input = some after) :
    Brief after.1.backoff.attempt after.2 := by
  obtain ⟨next, stepped, rfl⟩ := Option.map_eq_some_iff.1 watched
  obtain ⟨counted, posted⟩ := (step_moves stepped).attempt regular.prompt
  have counted : next.backoff.attempt = if decide (state.1.nextWait < next.nextWait) then state.1.backoff.attempt + 1
      else state.1.backoff.attempt := counted.trans (if_congr decide_eq_true_iff.symm rfl rfl)
  dsimp only
  cases state.1.begins input with
  | true => exact Brief.see ⟨rfl, rfl⟩ (fun _ _ known => by cases known) counted Bool.noConfusion
  | false =>
    refine brief.see regular.brief counted fun waiting => decide_eq_false fun later => ?_
    cases (regular.waits waiting).symm.trans (posted later)

end CurlClient

/-- In every run of regular steps, a client that has backed off has the attempt number that is due after its last
connection. -/
theorem reconnect_attempts_of_regular (setup : Setup) (host port : String) (curl : CurlSetup) (request : Request) :
    (∀ inputs last, run (FoxyClient.watch setup) ({ host, port, request }, {}) inputs = some last →
      Along (FoxyClient.watch setup) (fun state input => state.1.Regular state.2 input) ({ host, port, request }, {})
        inputs →
      last.2.waiting = true → last.1.backoff.attempt = last.2.due) ∧
      ∀ inputs last, run (CurlClient.watch curl) (.create curl request, {}) inputs = some last →
        Along (CurlClient.watch curl) (fun state input => state.1.Regular state.2 input) (.create curl request, {})
          inputs →
        last.2.waiting = true → last.1.backoff.attempt = last.2.due := by
  refine ⟨fun inputs last reached regular waiting => ?_, fun inputs last reached regular waiting => ?_⟩
  · have start : FoxyClient.Tracks {} {} := ⟨fun _ => ⟨rfl, rfl⟩, Bool.noConfusion⟩
    rw [(run_invariant FoxyClient.Tracks.step start regular reached).due waiting]
  · have start : CurlClient.Brief 1 {} := ⟨rfl, rfl⟩
    rw [(run_invariant CurlClient.Brief.step start regular reached).attempt, waiting, if_pos rfl]

def foxyEnded (duration : Nat) : List FoxyClient.Input :=
  foxyAccepted ++ [.elapse duration, .bodyRead 0 (.other "eof") [] false]

def curlRefused : List CurlClient.Input :=
  [.asyncConnect, .runPosted .added, .ended 0 (.other "refused"), .runPosted .added, .runPosted .added]

/-- A long connection of the one client ends with an error, and the other client cannot connect. -/
theorem reconnect_attempts_due :
    (∃ last, run (FoxyClient.watch FoxyClient.plainSetup) (FoxyClient.plainClient, {}) (foxyEnded 60001000000) =
        some last ∧ last.2.due = 1 ∧ last.1.backoff.attempt = last.2.due) ∧
      ∃ last, run (CurlClient.watch plainCurl) (.create plainCurl ⟨"stream", "/all", none⟩, {}) curlRefused =
          some last ∧
        last.2.due = 2 ∧ last.1.backoff.attempt = last.2.due := by
  obtain ⟨foxy, curl⟩ :=
    reconnect_attempts_of_regular FoxyClient.plainSetup "stream" "443" plainCurl ⟨"stream", "/all", none⟩
  refine ⟨⟨_, rfl, by decide +kernel, ?_⟩, ⟨_, rfl, by decide +kernel, ?_⟩⟩
  · exact foxy (foxyEnded 60001000000) _ rfl (by decide +kernel) (by decide +kernel)
  · exact curl curlRefused _ rfl (by decide +kernel) (by decide +kernel)

/-- A long connection is restarted while its body is read. Another is up for longer by half a millisecond. A long
connection of the client on libcurl ends normally. -/
theorem reconnect_attempts_wrong :
    (∃ last, run (FoxyClient.watch FoxyClient.plainSetup) (FoxyClient.plainClient, {})
        (foxyAccepted ++ [.elapse 60001000000, .asyncRestart, .runPosted, .bodyRead 0 .operationAborted [] false]) =
        some last ∧ last.2.isLong = true ∧ last.2.waiting = true ∧ last.1.backoff.attempt = 2) ∧
      (∃ last, run (FoxyClient.watch FoxyClient.plainSetup) (FoxyClient.plainClient, {}) (foxyEnded 60000500000) =
        some last ∧ last.2.isLong = true ∧ last.2.waiting = true ∧ last.1.backoff.attempt = 2) ∧
      ∃ last, run (CurlClient.watch plainCurl) (.create plainCurl ⟨"stream", "/all", none⟩, {})
          [.asyncConnect, .runPosted .added, .responded 0 ⟨200, some "text/event-stream", none⟩, .elapse 60001000000,
            .ended 0 .ok, .runPosted .added, .runPosted .added, .runPosted .added] = some last ∧
        last.2.isLong = true ∧ last.2.waiting = true ∧ last.1.backoff.attempt = 2 := by
  refine ⟨⟨_, rfl, ?_⟩, ⟨_, rfl, ?_⟩, ⟨_, rfl, ?_⟩⟩
  all_goals decide +kernel

end FlagSdk.Sse
