import Mathlib.Algebra.GroupWithZero.Nat
import Mathlib.Algebra.Order.BigOperators.Group.List
import FlagSdk.Sse.Liveness

/-! What one restart leads to. It backs off and replaces the session, which cancels the operations of the old session
and the waits of the timer. Their completions come in later, in any order and between other inputs, and what they do is
put down to the restart as well. -/

namespace FlagSdk.Sse.FoxyClient
open Lib.Runs

def connecting (client : FoxyClient) : Nat := client.operations.countP fun entry => entry.1 = .connect

/-- What is put down to a restart: the session that it has replaced, the waits that it has cancelled or that were begun
on its account, and how many failures were counted, errors reported and connections begun. -/
structure Account where
  session : Nat
  waits : List Nat
  failures : Nat := 0
  reports : Nat := 0
  attempts : Nat := 0
  deriving DecidableEq, Repr

namespace Account

/-- The input completes an operation or a wait that is on the account. -/
def concerns (account : Account) : Input → Bool
  | .waited wait _ => wait ∈ account.waits
  | .connected session _ | .written session _ | .headerRead session _ _ _ | .bodyRead session _ _ _ =>
    session = account.session
  | _ => false

/-- Every backoff counts one failure and replaces the session once. -/
def charge (account : Account) (client next : FoxyClient) : Account where
  session := account.session
  waits := if next.nextWait = client.nextWait then account.waits else client.nextWait :: account.waits
  failures := account.failures + (next.session - client.session)
  reports := account.reports + (next.errors.length - client.errors.length)
  attempts := account.attempts + (next.connecting - client.connecting)

end Account

def follow (setup : Setup) (state : FoxyClient × Account) (input : Input) : Option (FoxyClient × Account) :=
  (state.1.step setup input).map fun next =>
    (next, if state.2.concerns input then state.2.charge state.1 next else state.2)

/-- The client right after the restart, and the account with the restart itself. -/
def restart (client : FoxyClient) (rest : List Task) : FoxyClient × Account :=
  let next := { client with posted := rest }.asyncBackoff
  (next, ({ session := client.session, waits := client.waits } : Account).charge client next)

/-- An operation of the session is aborted. -/
def Cancelled (session : Nat) : Input → Prop
  | .connected other ec | .written other ec | .headerRead other ec _ _ | .bodyRead other ec _ _ =>
    other = session → ec = .operationAborted
  | _ => True

/-- The operations that the restart has cancelled are aborted, and inputs that are not on its account neither back off
nor shut the client down. -/
structure Undisturbed (setup : Setup) (state : FoxyClient × Account) (input : Input) : Prop where
  cancelled : Cancelled state.2.session input
  alone : state.2.concerns input = false → ∀ next, state.1.step setup input = some next →
    next.session = state.1.session ∧ next.shuttingDown = state.1.shuttingDown

/-- Everything on the account has completed. -/
structure Completed (state : FoxyClient × Account) : Prop where
  operations : ∀ operation, (operation, state.2.session) ∉ state.1.operations
  waits : ∀ wait ∈ state.2.waits, wait ∉ state.1.waits

/-- One failure was counted, no error was reported, and one connection was begun. -/
structure Account.SingleStep (account : Account) : Prop where
  failures : account.failures = 1
  reports : account.reports = 0
  attempts : account.attempts = 1

instance (session : Nat) : (input : Input) → Decidable (Cancelled session input)
  | .connected other ec | .written other ec | .headerRead other ec _ _ | .bodyRead other ec _ _ =>
    inferInstanceAs (Decidable (other = session → ec = .operationAborted))
  | .asyncConnect | .asyncRestart | .asyncShutdown | .runPosted | .waited _ _ | .elapse _ =>
    inferInstanceAs (Decidable True)

instance (setup : Setup) (state : FoxyClient × Account) (input : Input) : Decidable (Undisturbed setup state input) :=
  decidable_of_iff (Cancelled state.2.session input ∧ (state.2.concerns input = false →
      ∀ next ∈ state.1.step setup input, next.session = state.1.session ∧ next.shuttingDown = state.1.shuttingDown))
    ⟨fun both => ⟨both.1, both.2⟩, fun undisturbed => ⟨undisturbed.cancelled, undisturbed.alone⟩⟩

instance (state : FoxyClient × Account) : Decidable (Completed state) :=
  decidable_of_iff ((∀ entry ∈ state.1.operations, entry.2 ≠ state.2.session) ∧
      ∀ wait ∈ state.2.waits, wait ∉ state.1.waits)
    ⟨fun both => ⟨fun _ member => both.1 _ member rfl, both.2⟩,
      fun completed => ⟨fun entry member same => completed.operations entry.1 (same ▸ member), completed.waits⟩⟩

/-- A wait that was cancelled completes as if it were not, because it had expired before. -/
def late (cancelled : List Nat) : Input → Nat
  | .waited wait ec => if wait ∈ cancelled ∧ ec ≠ .operationAborted then 1 else 0
  | _ => 0

section
variable {setup : Setup} {client next : FoxyClient} {account : Account} {input : Input}

theorem onReadBody_aborted (up : client.shuttingDown = false) (isDone : Bool) :
    client.onReadBody setup .operationAborted isDone =
      (client.report (.readTimeout setup.readTimeout)).asyncBackoff := by
  simp [onReadBody, up]

theorem Acts.quiet (acts : Acts client next) (same : next.session = client.session)
    (up : client.shuttingDown = false) (stays : next.shuttingDown = client.shuttingDown) :
    next.waits = client.waits ∧ next.armed = client.armed ∧
      ∀ operation session, session ≠ client.session →
        next.operations.count (operation, session) = client.operations.count (operation, session) := by
  cases acts with
  | backOff host port request errors =>
    rw [asyncBackoff_eq] at same
    exact absurd same (Nat.succ_ne_self _)
  | shutDown =>
    rw [doShutdown, up] at stays
    cases stays
  | stay => exact ⟨rfl, rfl, fun _ _ _ => rfl⟩
  | connect | goOn =>
    refine ⟨rfl, rfl, fun operation session other => ?_⟩
    exact List.count_cons_of_ne fun equal => other (Prod.ext_iff.1 equal).2.symm

theorem count_taken (apart : account.concerns input = false) (operation : Operation) :
    (client.taken input).operations.count (operation, account.session) =
      client.operations.count (operation, account.session) := by
  have other {session : Nat} (kind : Operation) (different : session ≠ account.session) :
      (client.operations.erase (kind, session)).count (operation, account.session) =
        client.operations.count (operation, account.session) :=
    List.count_erase_of_ne fun equal => different (Prod.ext_iff.1 equal).2.symm
  cases input with
  | connected session ec => exact other .connect (of_decide_eq_false apart)
  | written session ec => exact other .write (of_decide_eq_false apart)
  | headerRead session ec headerDone response => exact other .readHeader (of_decide_eq_false apart)
  | bodyRead session ec bytes isDone =>
    rw [taken, receive_eq]
    exact other .readSome (of_decide_eq_false apart)
  | _ => rfl

theorem Account.charge_of_same (session : next.session = client.session) (errors : next.errors = client.errors)
    (nextWait : next.nextWait = client.nextWait) :
    account.charge client next =
      { account with attempts := account.attempts + (next.connecting - client.connecting) } := by
  simp [charge, session, errors, nextWait]

/-- What a wait of the timer does when it completes. -/
structure Waited (client next : FoxyClient) (wait : Nat) (ec : ErrorCode) : Prop where
  session : next.session = client.session
  errors : next.errors = client.errors
  nextWait : next.nextWait = client.nextWait
  shuttingDown : next.shuttingDown = client.shuttingDown
  waits : next.waits = client.waits.erase wait
  armed : next.armed = if client.armed = some wait then none else client.armed
  operations : next.operations =
    if ec = .operationAborted then client.operations else (.connect, client.session) :: client.operations

theorem waited_of_step {wait : Nat} {ec : ErrorCode} (up : client.shuttingDown = false)
    (stepped : client.step setup (.waited wait ec) = some next) : Waited client next wait ec := by
  obtain ⟨-, -, rfl⟩ := step_waited stepped
  unfold onBackoff doRun
  by_cases aborted : ec = .operationAborted
  · rw [if_pos aborted]
    exact ⟨rfl, rfl, rfl, rfl, rfl, rfl, (if_pos aborted).symm⟩
  · rw [if_neg aborted, if_neg (by simp [up])]
    exact ⟨rfl, rfl, rfl, rfl, rfl, rfl, (if_neg aborted).symm⟩

theorem Waited.reads {wait : Nat} {ec : ErrorCode} (waited : Waited client next wait ec) (session : Nat) :
    next.operations.count (.readSome, session) = client.operations.count (.readSome, session) := by
  rw [waited.operations]
  split
  · rfl
  · exact List.count_cons_of_ne (by simp)

theorem Undisturbed.quiet (undisturbed : Undisturbed setup (client, account) input)
    (apart : account.concerns input = false) (up : client.shuttingDown = false)
    (replaced : account.session < client.session) (stepped : client.step setup input = some next) :
    next.session = client.session ∧ next.shuttingDown = false ∧ next.waits = (client.taken input).waits ∧
      next.armed = (client.taken input).armed ∧
      next.operations.count (.readSome, account.session) = client.operations.count (.readSome, account.session) := by
  obtain ⟨same, stays⟩ := undisturbed.alone apart next stepped
  obtain ⟨waits, armed, counts⟩ :=
    (step_acts stepped).quiet (by simpa using same) (by simpa using up) (by simpa using stays)
  refine ⟨same, stays.trans up, waits, armed, ?_⟩
  rw [counts .readSome account.session (by simpa using replaced.ne), count_taken apart]

theorem step_aborted (aborted : Cancelled account.session input) (concerned : account.concerns input = true)
    (stepped : client.step setup input = some next) :
    (∃ wait ec, input = .waited wait ec) ∨
      (∃ bytes isDone, input = .bodyRead account.session .operationAborted bytes isDone) ∨
      (∀ cancelled, late cancelled input = 0) ∧ ∃ operation, operation ≠ .readSome ∧
        next = { client with operations := client.operations.erase (operation, account.session) } := by
  cases input with
  | waited wait ec => exact .inl ⟨wait, ec, rfl⟩
  | connected session ec =>
    cases of_decide_eq_true concerned
    cases aborted rfl
    obtain ⟨-, rfl⟩ := step_connected stepped
    exact .inr (.inr ⟨fun _ => rfl, .connect, by decide, rfl⟩)
  | written session ec =>
    cases of_decide_eq_true concerned
    cases aborted rfl
    obtain ⟨-, rfl⟩ := step_written stepped
    exact .inr (.inr ⟨fun _ => rfl, .write, by decide, rfl⟩)
  | headerRead session ec headerDone response =>
    cases of_decide_eq_true concerned
    cases aborted rfl
    obtain ⟨-, rfl⟩ := step_headerRead stepped
    exact .inr (.inr ⟨fun _ => rfl, .readHeader, by decide, rfl⟩)
  | bodyRead session ec bytes isDone =>
    cases of_decide_eq_true concerned
    cases aborted rfl
    exact .inr (.inl ⟨bytes, isDone, rfl⟩)
  | _ => cases concerned

end

/-- The failures are those of the restart and of the reads of the replaced session that were aborted, each of which
reports an error. -/
structure Charged (reads session : Nat) (state : FoxyClient × Account) : Prop where
  replaces : state.2.session = session
  up : state.1.shuttingDown = false
  replaced : session < state.1.session
  failures : state.2.failures = 1 + state.2.reports
  reads : state.2.reports + state.1.operations.count (.readSome, session) = reads

section
variable {setup : Setup} {reads session : Nat} {state next : FoxyClient × Account} {input : Input}

theorem Charged.follow (charged : Charged reads session state) (undisturbed : Undisturbed setup state input)
    (followed : follow setup state input = some next) : Charged reads session next := by
  obtain ⟨client, account⟩ := state
  obtain ⟨client', stepped, rfl⟩ := Option.map_eq_some_iff.1 followed
  obtain ⟨rfl, up, replaced, failures, read⟩ := charged
  dsimp only at up replaced failures read stepped ⊢
  cases concerned : account.concerns input with
  | false =>
    obtain ⟨same, stays, -, -, reads⟩ := undisturbed.quiet concerned up replaced stepped
    exact ⟨rfl, stays, same ▸ replaced, failures, reads ▸ read⟩
  | true =>
    obtain ⟨wait, ec, rfl⟩ | ⟨bytes, isDone, rfl⟩ | ⟨never, operation, other, rfl⟩ :=
      step_aborted undisturbed.cancelled concerned stepped
    · have waited := waited_of_step up stepped
      rw [if_pos rfl, Account.charge_of_same waited.session waited.errors waited.nextWait]
      exact ⟨rfl, waited.shuttingDown.trans up, waited.session ▸ replaced, failures, waited.reads _ ▸ read⟩
    · obtain ⟨member, rfl⟩ := step_bodyRead stepped
      rw [if_pos rfl, onReadBody_aborted (by simp [up]), asyncBackoff_eq]
      have positive : 0 < client.operations.count (.readSome, account.session) := List.count_pos_iff.2 member
      refine ⟨rfl, by simpa [report] using up, ?_, ?_, ?_⟩
      · simp only [report, session_taken]
        exact Nat.lt_succ_of_lt replaced
      · simp only [Account.charge, report, session_taken, errors_taken, List.length_append, List.length_singleton]
        omega
      · simp only [Account.charge, report, List.length_append, List.length_singleton, taken, receive_eq,
          List.count_erase_self]
        omega
    · rw [if_pos rfl, Account.charge_of_same (by rfl) (by rfl) (by rfl)]
      refine ⟨rfl, up, replaced, failures, ?_⟩
      rw [List.count_erase_of_ne fun equal => other (Prod.ext_iff.1 equal).1.symm]
      exact read

/-- The wait of the restart is armed until it completes, if no read of the replaced session is outstanding. -/
structure Waiting (own : Nat) (cancelled : List Nat) (session : Nat) (state : FoxyClient × Account) : Prop where
  replaces : state.2.session = session
  up : state.1.shuttingDown = false
  replaced : session < state.1.session
  unread : state.1.operations.count (.readSome, session) = 0
  charged : state.2.waits = own :: cancelled
  listed : state.1.waits ⊆ own :: cancelled
  distinct : state.1.waits.Nodup
  armed : own ∈ state.1.waits → state.1.armed = some own

def pending (wait : Nat) (client : FoxyClient) : Nat := if wait ∈ client.waits then 1 else 0

variable {own : Nat} {cancelled : List Nat}

theorem Waiting.follow (waiting : Waiting own cancelled session state) (fresh : own ∉ cancelled)
    (undisturbed : Undisturbed setup state input) (followed : follow setup state input = some next) :
    Waiting own cancelled session next ∧
      next.2.attempts + pending own next.1 = state.2.attempts + pending own state.1 + late cancelled input := by
  obtain ⟨client, account⟩ := state
  obtain ⟨client', stepped, rfl⟩ := Option.map_eq_some_iff.1 followed
  obtain ⟨rfl, up, replaced, unread, charged, listed, distinct, armed⟩ := waiting
  dsimp only at up replaced unread charged listed distinct armed stepped ⊢
  cases concerned : account.concerns input with
  | false =>
    obtain ⟨same, stays, waits, arms, reads⟩ := undisturbed.quiet concerned up replaced stepped
    have kept : (client.taken input).waits = client.waits ∧ (client.taken input).armed = client.armed ∧
        late cancelled input = 0 := by
      cases input with
      | waited wait ec =>
        have member := listed (step_waited stepped).1
        rw [← charged] at member
        simp [Account.concerns, member] at concerned
      | bodyRead => simp [taken, receive_eq, late]
      | _ => exact ⟨rfl, rfl, rfl⟩
    rw [kept.1] at waits
    rw [kept.2.1] at arms
    refine ⟨⟨rfl, stays, same ▸ replaced, reads.trans unread, charged, ?_, ?_, ?_⟩, ?_⟩
    · exact waits ▸ listed
    · exact waits ▸ distinct
    · rw [waits, arms]
      exact armed
    · simp [pending, waits, kept.2.2]
  | true =>
    obtain ⟨wait, ec, rfl⟩ | ⟨bytes, isDone, rfl⟩ | ⟨never, operation, other, rfl⟩ :=
      step_aborted undisturbed.cancelled concerned stepped
    · have waited := waited_of_step up stepped
      obtain ⟨member, possible, -⟩ := step_waited stepped
      rw [if_pos rfl, Account.charge_of_same waited.session waited.errors waited.nextWait]
      have unreadNext := (waited.reads account.session).trans unread
      have armedNext : own ∈ client'.waits → client'.armed = some own := by
        rw [waited.waits, waited.armed]
        intro still
        have before := armed (List.mem_of_mem_erase still)
        rw [if_neg, before]
        rw [before, Option.some.injEq]
        rintro rfl
        exact (distinct.mem_erase_iff.1 still).1 rfl
      have behind : account.session < client'.session := waited.session ▸ replaced
      refine ⟨⟨rfl, waited.shuttingDown.trans up, behind, unreadNext, charged, ?_, ?_, armedNext⟩, ?_⟩
      · rw [waited.waits]
        exact fun other still => listed (List.mem_of_mem_erase still)
      · rw [waited.waits]
        exact distinct.erase wait
      · have begun : client'.connecting = client.connecting + if ec = .operationAborted then 0 else 1 := by
          simp only [connecting, waited.operations]
          split
          · rfl
          · exact List.countP_cons_of_pos rfl
        simp only [begun, pending, waited.waits, late, distinct.mem_erase_iff]
        by_cases same : own = wait
        · -- The wait of the restart itself is armed, so it is not aborted.
          subst same
          have expired : ec ≠ .operationAborted := fun aborted => possible ⟨armed member, aborted⟩
          simp [member, fresh, expired]
        · have other : wait ∈ cancelled := (List.mem_cons.1 (listed member)).resolve_left (Ne.symm same)
          by_cases aborted : ec = .operationAborted
          · simp [same, aborted]
          · simp only [same, other, aborted, ne_eq, not_false_eq_true, and_self, if_true, if_false, true_and]
            omega
    · have member : 0 < client.operations.count (.readSome, account.session) :=
        List.count_pos_iff.2 (step_bodyRead stepped).1
      omega
    · rw [if_pos rfl, Account.charge_of_same (by rfl) (by rfl) (by rfl)]
      refine ⟨⟨rfl, up, replaced, ?_, charged, listed, distinct, armed⟩, ?_⟩
      · rw [List.count_erase_of_ne fun equal => other (Prod.ext_iff.1 equal).1.symm]
        exact unread
      · have fewer : (client.operations.erase (operation, account.session)).countP (fun entry => entry.1 = .connect) ≤
            client.connecting := List.erase_sublist.countP_le
        simp only [never, pending, connecting] at fewer ⊢
        omega

theorem attempts_of_waiting {inputs : List Input} {last : FoxyClient × Account}
    (waiting : Waiting own cancelled session state) (fresh : own ∉ cancelled)
    (undisturbed : Along (follow setup) (Undisturbed setup) state inputs)
    (followed : run (FoxyClient.follow setup) state inputs = some last) :
    last.2.waits = own :: cancelled ∧
      last.2.attempts + pending own last.1 = state.2.attempts + pending own state.1 +
        (inputs.map (late cancelled)).sum := by
  induction inputs generalizing state with
  | nil =>
    cases followed
    exact ⟨waiting.charged, rfl⟩
  | cons input inputs ih =>
    obtain ⟨next, here, later⟩ := run_cons_eq_some.1 followed
    obtain ⟨good, rest⟩ := undisturbed next here
    obtain ⟨waiting, counted⟩ := waiting.follow fresh good here
    obtain ⟨charged, total⟩ := ih waiting rest later
    refine ⟨charged, ?_⟩
    rw [List.map_cons, List.sum_cons]
    omega

end

/-- No wait is counted twice, and a new one is not yet among them. -/
structure Tidy (client : FoxyClient) : Prop where
  distinct : client.waits.Nodup
  below : ∀ wait ∈ client.waits, wait < client.nextWait

theorem Tidy.step {setup : Setup} {client next : FoxyClient} {input : Input} (tidy : client.Tidy)
    (stepped : client.step setup input = some next) : next.Tidy := by
  have taken : (client.taken input).Tidy := by
    refine ⟨?_, ?_⟩
    · cases input with
      | waited wait ec => exact tidy.distinct.erase wait
      | bodyRead => simpa [FoxyClient.taken, receive_eq] using tidy.distinct
      | _ => exact tidy.distinct
    · cases input with
      | waited wait ec => exact fun other still => tidy.below other (List.mem_of_mem_erase still)
      | bodyRead => simpa [FoxyClient.taken, receive_eq] using tidy.below
      | _ => exact tidy.below
  cases step_acts stepped with
  | backOff host port request errors =>
    rw [asyncBackoff_eq]
    refine ⟨List.nodup_cons.2 ⟨fun member => (taken.below _ member).ne rfl, taken.distinct⟩, ?_⟩
    rintro wait member
    obtain rfl | older := List.mem_cons.1 member
    · exact Nat.lt_succ_self _
    · exact Nat.lt_succ_of_lt (taken.below wait older)
  | _ => exact ⟨taken.distinct, taken.below⟩

section
variable {client : FoxyClient} {rest : List Task}

theorem charged_restart (up : client.shuttingDown = false) :
    Charged (client.operations.count (.readSome, client.session)) client.session (client.restart rest) := by
  unfold restart
  rw [asyncBackoff_eq]
  exact ⟨rfl, up, Nat.lt_succ_self _, by simp [Account.charge], by simp [Account.charge]⟩

theorem waiting_restart (tidy : client.Tidy) (up : client.shuttingDown = false)
    (unread : (.readSome, client.session) ∉ client.operations) :
    Waiting client.nextWait client.waits client.session (client.restart rest) := by
  unfold restart
  rw [asyncBackoff_eq]
  refine ⟨rfl, up, Nat.lt_succ_self _, List.count_eq_zero.2 unread, by simp [Account.charge], fun _ member => member,
    ?_, fun _ => rfl⟩
  exact List.nodup_cons.2 ⟨fun member => (tidy.below _ member).ne rfl, tidy.distinct⟩

theorem late_sum_eq_zero_iff {cancelled : List Nat} {inputs : List Input} :
    (inputs.map (late cancelled)).sum = 0 ↔
      ∀ wait ec, .waited wait ec ∈ inputs → wait ∈ cancelled → ec = .operationAborted := by
  rw [List.sum_eq_zero_iff, List.forall_mem_map]
  constructor
  · intro never wait ec member listed
    by_contra expired
    have counted := never _ member
    rw [late, if_pos ⟨listed, expired⟩] at counted
    cases counted
  · intro aborted input member
    cases input with
    | waited wait ec => exact if_neg fun counted => counted.2 (aborted wait ec member counted.1)
    | _ => rfl

end

/-- In every run, a restart that is followed to the end of everything on its account has counted one failure, reported
no error and begun one connection exactly if the replaced session was not reading a body and no wait that it cancelled
had already expired. -/
theorem restart_single_step_iff (setup : Setup) (host port : String) (request : Request) (earlier : List Input)
    (client : FoxyClient) (rest : List Task) (inputs : List Input) (last : FoxyClient × Account)
    (reached : run (step setup) { host, port, request } earlier = some client)
    (requested : client.posted = .doRestart :: rest) (up : client.shuttingDown = false)
    (followed : run (follow setup) (client.restart rest) inputs = some last)
    (undisturbed : Along (follow setup) (Undisturbed setup) (client.restart rest) inputs)
    (completed : Completed last) :
    client.step setup .runPosted = some (client.restart rest).1 ∧
      (last.2.SingleStep ↔ (.readSome, client.session) ∉ client.operations ∧
        ∀ wait ec, .waited wait ec ∈ inputs → wait ∈ client.waits → ec = .operationAborted) := by
  refine ⟨by simp [step, requested, perform, restart], ?_⟩
  have tidy : client.Tidy :=
    run_invariant_of_step Tidy.step ⟨List.nodup_nil, fun _ member => absurd member List.not_mem_nil⟩ reached
  have charged := run_invariant Charged.follow (charged_restart up) undisturbed followed
  have reads : last.2.reports = client.operations.count (.readSome, client.session) := by
    have done := List.count_eq_zero.2 (charged.replaces ▸ completed.operations .readSome)
    have total := charged.reads
    omega
  have attempts (unread : (.readSome, client.session) ∉ client.operations) :
      last.2.attempts = 1 + (inputs.map (late client.waits)).sum := by
    have fresh : client.nextWait ∉ client.waits := fun member => (tidy.below _ member).ne rfl
    obtain ⟨waits, total⟩ := attempts_of_waiting (waiting_restart tidy up unread) fresh undisturbed followed
    have done : pending client.nextWait last.1 = 0 := if_neg (completed.waits _ (waits ▸ List.mem_cons_self))
    have begun : (client.restart rest).2.attempts = 0 ∧ pending client.nextWait (client.restart rest).1 = 1 := by
      unfold restart
      rw [asyncBackoff_eq]
      exact ⟨by simp [Account.charge, connecting], if_pos List.mem_cons_self⟩
    omega
  rw [← late_sum_eq_zero_iff]
  constructor
  · rintro ⟨-, none, one⟩
    have unread : (.readSome, client.session) ∉ client.operations := List.count_eq_zero.1 (reads ▸ none)
    have total := attempts unread
    exact ⟨unread, by omega⟩
  · rintro ⟨unread, never⟩
    have none : last.2.reports = 0 := reads.trans (List.count_eq_zero.2 unread)
    have failures := charged.failures
    exact ⟨by omega, none, by rw [attempts unread, never]⟩

/-- A client that is asked to restart while it connects. -/
theorem restart_connecting :
    ∃ client last,
      run (step plainSetup) plainClient [.asyncConnect, .runPosted, .asyncRestart] = some client ∧
        run (follow plainSetup) (client.restart []) [.connected 0 .operationAborted, .waited 0 .success] = some last ∧
          last.2.SingleStep := by
  refine ⟨_, _, rfl, rfl, ?_⟩
  refine (restart_single_step_iff plainSetup "stream" "443" ⟨"stream", "/all", none⟩
    [.asyncConnect, .runPosted, .asyncRestart] _ [] [.connected 0 .operationAborted, .waited 0 .success] _
    rfl rfl rfl rfl ?_ ?_).2.2 ⟨?_, fun _ _ _ member => absurd member List.not_mem_nil⟩
  all_goals decide +kernel

/-- A client that is asked to restart while it reads, and one that is asked to when its wait has just expired. -/
theorem restart_not_single :
    (∃ client last,
      run (step plainSetup) plainClient
          [.asyncConnect, .runPosted, .connected 0 .success, .written 0 .success,
            .headerRead 0 .success true ⟨200, some "text/event-stream", none⟩, .asyncRestart] = some client ∧
        run (follow plainSetup) (client.restart [])
          [.bodyRead 0 .operationAborted [] false, .waited 0 .operationAborted, .waited 1 .success] = some last ∧
        Along (follow plainSetup) (Undisturbed plainSetup) (client.restart [])
          [.bodyRead 0 .operationAborted [] false, .waited 0 .operationAborted, .waited 1 .success] ∧
        client.step plainSetup .runPosted = some (client.restart []).1 ∧ Completed last ∧
        last.2.failures = 2 ∧ last.2.reports = 1) ∧
      ∃ client last,
        run (step plainSetup) plainClient
            [.asyncConnect, .runPosted, .connected 0 (.other "refused"), .asyncRestart] = some client ∧
          run (follow plainSetup) (client.restart []) [.waited 0 .success, .waited 1 .success] = some last ∧
          Along (follow plainSetup) (Undisturbed plainSetup) (client.restart [])
            [.waited 0 .success, .waited 1 .success] ∧
          client.step plainSetup .runPosted = some (client.restart []).1 ∧ Completed last ∧
          last.2.attempts = 2 := by
  refine ⟨⟨_, _, rfl, rfl, ?_, rfl, ?_, rfl, rfl⟩, ⟨_, _, rfl, rfl, ?_, rfl, ?_, rfl⟩⟩
  all_goals decide +kernel

end FlagSdk.Sse.FoxyClient
