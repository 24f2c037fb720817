import FlagSdk.Sse.FoxySteps

/-! Whether the connection loop can die. After every handler that acts there is an operation of the session or an
armed wait, unless the client gave up. A handler that takes an aborted operation for a cancelled one does not act,
which is right only when the operation belongs to a session that was replaced. -/

namespace FlagSdk.Sse.FoxyClient
open Lib.Runs

variable (client : FoxyClient)

/-- An operation of the current session is outstanding. -/
def Outstanding : Prop := ∃ entry ∈ client.operations, entry.2 = client.session
  deriving Decidable

def Alive : Prop := client.Outstanding ∨ client.armed.isSome
  deriving Decidable

/-- An error was reported after which the client does not go on. -/
def GaveUp : Prop := ∃ error ∈ client.errors, isRecoverable error = false
  deriving Decidable

/-- A client that was started and neither shuts down nor gave up still has something to wake it. -/
def Live : Prop :=
  client.started = true → client.shuttingDown = false → ¬ client.GaveUp → client.Alive
  deriving Decidable

/-- The input aborts an operation of the current session before its body is read, and the client is not shutting
down. -/
def Interrupts : Input → Prop
  | .connected session ec | .written session ec | .headerRead session ec _ _ =>
    session = client.session ∧ ec = .operationAborted ∧ client.shuttingDown = false
  | _ => False

instance (client : FoxyClient) : (input : Input) → Decidable (client.Interrupts input)
  | .connected session ec | .written session ec | .headerRead session ec _ _ =>
    inferInstanceAs (Decidable (session = client.session ∧ ec = .operationAborted ∧ client.shuttingDown = false))
  | .asyncConnect | .asyncRestart | .asyncShutdown | .runPosted | .waited .. | .bodyRead .. | .elapse .. =>
    inferInstanceAs (Decidable False)

variable {client} {input : Input}

theorem interrupts_iff :
    client.Interrupts input ↔ ∃ operation, operation ≠ .readSome ∧
      input.completion = some (operation, client.session, .operationAborted) ∧ client.shuttingDown = false := by
  cases input with
  | connected | written | headerRead => simp [Interrupts, Input.completion, and_assoc]
  | _ => simp [Interrupts, Input.completion]

theorem Alive.live (alive : client.Alive) : client.Live := fun _ _ _ => alive

theorem live_of_shuttingDown (down : client.shuttingDown = true) : client.Live := by
  intro _ up
  rw [down] at up
  cases up

theorem live_begin (client : FoxyClient) (operation : Operation) : (client.begin operation).Live :=
  Alive.live (.inl ⟨(operation, client.session), List.mem_cons_self, rfl⟩)

theorem live_asyncBackoff (client : FoxyClient) : client.asyncBackoff.Live := Alive.live (.inr rfl)

theorem live_report (client : FoxyClient) {error : Error} (final : isRecoverable error = false) :
    (client.report error).Live := by
  intro _ _ going
  exact absurd ⟨error, List.mem_append_right _ List.mem_cons_self, final⟩ going

theorem Live.taken (live : client.Live) (outstanding : client.Outstanding → (client.taken input).Outstanding)
    (armed : (client.taken input).armed = client.armed) : (client.taken input).Live := by
  intro started up going
  rw [GaveUp, errors_taken] at going
  refine (live (started_taken client input ▸ started) (shuttingDown_taken client input ▸ up) going).imp outstanding ?_
  exact fun some => armed ▸ some

theorem Live.step {setup : Setup} {next : FoxyClient} (live : client.Live)
    (uninterrupted : ¬ client.Interrupts input) (stepped : client.step setup input = some next) : next.Live := by
  have down (shut : client.shuttingDown = true) : (client.taken input).Live :=
    live_of_shuttingDown (by rw [shuttingDown_taken, shut])
  cases completion : input.completion with
  | none =>
    cases step_directs completion stepped with
    | keep still =>
      refine still.elim (live.taken ?_) down
      rw [Outstanding, Outstanding, operations_taken_of_direct completion, session_taken]
      exact id
    | connect => exact live_begin _ _
    | backOff => exact live_asyncBackoff _
    | shutDown => exact live_of_shuttingDown rfl
  | some completed =>
    obtain ⟨operation, session, ec⟩ := completed
    cases (step_completes completion stepped).2 with
    | cancelled before aborted =>
      obtain ⟨operations, -, armed⟩ := @operations_taken client session input operation ec completion
      by_cases current : session = client.session
      · refine down (by_contra fun up => uninterrupted ?_)
        exact interrupts_iff.2 ⟨operation, before, current ▸ aborted ▸ completion, by simpa using up⟩
      · -- An operation of a replaced session leaves what is outstanding for the current one.
        refine live.taken ?_ armed
        rintro ⟨entry, member, same⟩
        rw [Outstanding, operations, session_taken]
        have other : entry ≠ (operation, session) := by
          rintro rfl
          exact current same
        exact ⟨entry, (List.mem_erase_of_ne other).2 member, same⟩
    | silenced shut => exact live_of_shuttingDown shut
    | giveUp error final => exact live_report _ final
    | goOn | establish => exact live_begin _ _
    | backOff => exact live_asyncBackoff _

/-- In every run in which no operation of the session in use is aborted before its body is read, a client that was
started and neither shuts down nor gave up has an operation outstanding or its timer armed. -/
theorem live_of_uninterrupted (setup : Setup) (host port : String) (request : Request) (inputs : List Input)
    (last : FoxyClient) (reached : run (step setup) { host, port, request } inputs = some last)
    (uninterrupted : Along (step setup) (fun client input => ¬ client.Interrupts input) { host, port, request }
      inputs) : last.Live := by
  have start : Live { host, port, request } := fun started => Bool.noConfusion started
  exact run_invariant (fun live good taken => live.step good taken) start uninterrupted reached

def plainSetup : Setup where
  parseUri _ := none
  resolve _ _ := none

def plainClient : FoxyClient where
  host := "stream"
  port := "443"
  request := { host := "stream", target := "/all" }

/-- A client that is asked to restart while it reads, gets an error status from the next session and then hears of
the read that was cancelled. -/
def restarted : List Input :=
  [.asyncConnect, .runPosted, .connected 0 .success, .written 0 .success,
    .headerRead 0 .success true ⟨200, some "text/event-stream; charset=utf-8", none⟩,
    .bodyRead 0 .success "data: x\n\n".toList false, .asyncRestart, .runPosted, .waited 0 .success,
    .connected 1 .success, .written 1 .success, .headerRead 1 .success true ⟨503, none, none⟩,
    .bodyRead 0 .operationAborted [] false]

theorem live_restarted :
    ∃ last, run (step plainSetup) plainClient restarted = some last ∧ last.started = true ∧ last.Live :=
  ⟨_, rfl, rfl, live_of_uninterrupted plainSetup "stream" "443" ⟨"stream", "/all", none⟩ restarted _ rfl
    (by decide +kernel)⟩

/-- The connect, the write or the read of the header times out. -/
theorem dead_timedOut :
    (∃ last, run (step plainSetup) plainClient
        [.asyncConnect, .runPosted, .connected 0 .operationAborted] = some last ∧ ¬ last.Live) ∧
      (∃ last, run (step plainSetup) plainClient
        [.asyncConnect, .runPosted, .connected 0 .success, .written 0 .operationAborted] = some last ∧ ¬ last.Live) ∧
      ∃ last, run (step plainSetup) plainClient
        [.asyncConnect, .runPosted, .connected 0 .success, .written 0 .success,
          .headerRead 0 .operationAborted false ⟨0, none, none⟩] = some last ∧ ¬ last.Live := by
  refine ⟨⟨_, rfl, ?_⟩, ⟨_, rfl, ?_⟩, ⟨_, rfl, ?_⟩⟩
  · decide
  · decide
  · decide

end FlagSdk.Sse.FoxyClient
