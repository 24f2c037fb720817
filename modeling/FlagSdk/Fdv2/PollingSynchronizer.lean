import FlagSdk.Fdv2.PollingImpl
import FlagSdk.Lib.Wrapping
import Mathlib.Data.List.Chain

/-! The FDv2 synchronizer that polls. A call of `Next` waits until the last poll is an interval ago, then polls, and
resolves with what the response means. `Close` may come from another thread at any point of it. -/

namespace FlagSdk.Fdv2
open Data Lib Lib.Runs Persistence

/-- In seconds. -/
def kMinPollInterval : Int64 := 30

/-- How far a call of `Next` is. -/
inductive PollStage where
  | delay (expiry : ℤ) (selector : Selector)
  /-- `DoPoll` is to look whether the synchronizer is closed. -/
  | doPoll (selector : Selector)
  /-- It was not, and the request is to be made. -/
  | request (selector : Selector)
  | response
  deriving DecidableEq

/-- The stages that race with the promise of `Close`. -/
def PollStage.races : PollStage → Bool
  | .delay _ _ | .response => true
  | .doPoll _ | .request _ => false

/-- The clock is the latest time that was read, in nanoseconds. It, the polls with their starts, of which the latest
comes first, and the results are history. -/
structure FDv2PollingSynchronizer where
  pollInterval : Int64
  closed : Bool := false
  lastPollStart : Option Nat := none
  stage : Option PollStage := none
  clock : Nat := 0
  polls : List (Nat × Selector) := []
  results : List FDv2SourceResult := []

namespace FDv2PollingSynchronizer

variable {Text : Type} (format : TextFormat Text) (synchronizer : FDv2PollingSynchronizer)

def construct (pollInterval : Int64) : FDv2PollingSynchronizer := { pollInterval := max pollInterval kMinPollInterval }

def resolve (result : FDv2SourceResult) : FDv2PollingSynchronizer :=
  { synchronizer with stage := none, results := synchronizer.results ++ [result] }

def close : FDv2PollingSynchronizer :=
  let closed := { synchronizer with closed := true }
  if synchronizer.stage.any PollStage.races then closed.resolve ⟨.shutdown, none⟩ else closed

def createPollDelayFuture (selector : Selector) (now : Nat) : PollStage :=
  match synchronizer.lastPollStart with
  | none => .doPoll selector
  | some start =>
    let elapsed : ℤ := now - start
    let interval := (Wrapping.nanoseconds Wrapping.second synchronizer.pollInterval).toInt
    if interval ≤ elapsed then .doPoll selector else .delay (now + (interval - elapsed)) selector

def doNext (selector : Selector) (now : Nat) : FDv2PollingSynchronizer :=
  if synchronizer.closed then synchronizer.resolve ⟨.shutdown, none⟩
  else { synchronizer with clock := now, stage := some (synchronizer.createPollDelayFuture selector now) }

/-- The next move of a call of `Next` that does not wait for a response. A timer does not fire early. -/
def proceed (now : Nat) : PollStage → Option FDv2PollingSynchronizer
  | .delay expiry selector =>
    if expiry ≤ now then some { synchronizer with clock := now, stage := some (.doPoll selector) } else none
  | .doPoll selector =>
    if synchronizer.closed then some (synchronizer.resolve ⟨.shutdown, none⟩)
    else some { synchronizer with stage := some (.request selector) }
  | .request selector =>
    let started := { synchronizer with
      lastPollStart := some now
      stage := some .response
      clock := now
      polls := (now, selector) :: synchronizer.polls }
    if synchronizer.closed then some (started.resolve ⟨.shutdown, none⟩) else some started
  | .response => none

inductive Input (Text : Type) where
  | next (selector : Selector) (now : Nat)
  | proceed (now : Nat)
  | response (response : PollResponse Text)
  | close

/-- `Next` is called once at a time, and the clock does not go back. -/
def step : Input Text → Option FDv2PollingSynchronizer
  | .next selector now =>
    if synchronizer.stage = none ∧ synchronizer.clock ≤ now then some (synchronizer.doNext selector now) else none
  | .proceed now =>
    if synchronizer.clock ≤ now then synchronizer.stage.bind (synchronizer.proceed now) else none
  | .response response =>
    if synchronizer.stage = some .response then
      some (synchronizer.resolve (handleFDv2PollResponse format {} response).1)
    else none
  | .close => some synchronizer.close

/-- The time before which no poll starts, in a stage that leads to one. -/
def due : Option ℤ :=
  synchronizer.stage.bind fun
    | .delay expiry _ => some expiry
    | .doPoll _ | .request _ => some synchronizer.clock
    | .response => none

/-- Polls start an interval apart, and so will the next. -/
structure Paced (interval : ℤ) (synchronizer : FDv2PollingSynchronizer) : Prop where
  configured : (Wrapping.nanoseconds Wrapping.second synchronizer.pollInterval).toInt = interval
  latest : synchronizer.lastPollStart = synchronizer.polls.head?.map Prod.fst
  started : ∀ start ∈ synchronizer.lastPollStart, start ≤ synchronizer.clock
  apart : synchronizer.polls.IsChain fun later earlier => earlier.1 + interval ≤ later.1
  due : ∀ time ∈ synchronizer.due, ∀ start ∈ synchronizer.lastPollStart, start + interval ≤ time

variable {format} {synchronizer next : FDv2PollingSynchronizer} {input : Input Text} {interval : ℤ} {now : Nat}

section
variable (paced : Paced interval synchronizer)
include paced

theorem Paced.resolve (result : FDv2SourceResult) : Paced interval (synchronizer.resolve result) :=
  ⟨paced.configured, paced.latest, paced.started, paced.apart, fun _ none => (by cases none)⟩

theorem Paced.close : Paced interval synchronizer.close := by
  have closed : Paced interval { synchronizer with closed := true } :=
    ⟨paced.configured, paced.latest, paced.started, paced.apart, paced.due⟩
  unfold FDv2PollingSynchronizer.close
  split
  · exact closed.resolve _
  · exact closed

theorem Paced.doNext (read : synchronizer.clock ≤ now) (selector : Selector) :
    Paced interval (synchronizer.doNext selector now) := by
  unfold FDv2PollingSynchronizer.doNext
  split
  · exact paced.resolve _
  · refine ⟨paced.configured, paced.latest, fun start known => (paced.started start known).trans read, paced.apart, ?_⟩
    intro time planned start known
    change synchronizer.lastPollStart = some start at known
    have before := paced.started start known
    have configured := paced.configured
    simp only [createPollDelayFuture, known] at planned
    split at planned
    case isTrue late =>
      cases planned
      change start + interval ≤ now
      omega
    case isFalse early =>
      cases planned
      omega

theorem Paced.request (ready : ∀ start ∈ synchronizer.lastPollStart, start + interval ≤ now) (selector : Selector) :
    Paced interval { synchronizer with
      lastPollStart := some now
      stage := some .response
      clock := now
      polls := (now, selector) :: synchronizer.polls } := by
  rw [paced.latest] at ready
  refine ⟨paced.configured, rfl, ?_, List.isChain_cons.2 ⟨fun latest known => ?_, paced.apart⟩, fun _ none => ?_⟩
  · rintro start ⟨⟩
    exact le_rfl
  · exact ready latest.1 (Option.mem_map_of_mem Prod.fst known)
  · cases none

theorem Paced.proceed {stage : PollStage} (read : synchronizer.clock ≤ now)
    (current : synchronizer.stage = some stage) (taken : synchronizer.proceed now stage = some next) :
    Paced interval next := by
  have due := paced.due
  rw [FDv2PollingSynchronizer.due, current] at due
  cases stage with
  | delay expiry selector =>
    obtain ⟨expired, same⟩ := Option.ite_none_right_eq_some.1 taken
    cases same
    refine ⟨paced.configured, paced.latest, fun start known => (paced.started start known).trans read, paced.apart, ?_⟩
    rintro time ⟨⟩ start known
    exact (due expiry rfl start known).trans expired
  | doPoll selector =>
    rw [FDv2PollingSynchronizer.proceed] at taken
    split at taken <;> cases taken
    · exact paced.resolve _
    · exact ⟨paced.configured, paced.latest, paced.started, paced.apart, due⟩
  | request selector =>
    have requested := paced.request (fun start known => (due _ rfl start known).trans (Int.ofNat_le.2 read)) selector
    simp only [FDv2PollingSynchronizer.proceed] at taken
    split at taken <;> cases taken
    · exact requested.resolve _
    · exact requested
  | response => cases taken

theorem Paced.step (taken : synchronizer.step format input = some next) : Paced interval next := by
  cases input with
  | next selector now =>
    obtain ⟨⟨-, read⟩, same⟩ := Option.ite_none_right_eq_some.1 taken
    cases same
    exact paced.doNext read selector
  | proceed now =>
    obtain ⟨read, moved⟩ := Option.ite_none_right_eq_some.1 taken
    obtain ⟨stage, current, moved⟩ := Option.bind_eq_some_iff.1 moved
    exact paced.proceed read current moved
  | response response =>
    obtain ⟨-, same⟩ := Option.ite_none_right_eq_some.1 taken
    cases same
    exact paced.resolve _
  | close =>
    cases taken
    exact paced.close

end

/-- Whether a poll starts even if the synchronizer is closed before. -/
def starting (synchronizer : FDv2PollingSynchronizer) : Bool :=
  synchronizer.stage.any fun
    | .request _ => true
    | _ => false

/-- What is left of a synchronizer that was closed. -/
structure Shut (synchronizer last : FDv2PollingSynchronizer) : Prop where
  closed : last.closed = true
  unraced : last.stage.any PollStage.races = false
  polls : last.polls.length + last.starting.toNat ≤ synchronizer.polls.length + synchronizer.starting.toNat
  results : ∃ more, last.results = synchronizer.results ++ List.replicate more ⟨.shutdown, none⟩

theorem Shut.resolve (shut : Shut synchronizer next) : Shut synchronizer (next.resolve ⟨.shutdown, none⟩) := by
  obtain ⟨closed, -, polls, more, results⟩ := shut
  refine ⟨closed, rfl, Nat.le_of_add_right_le polls, more + 1, ?_⟩
  rw [List.replicate_succ', ← List.append_assoc, ← results]
  rfl

theorem Shut.step {last : FDv2PollingSynchronizer} (shut : Shut synchronizer next)
    (taken : next.step format input = some last) : Shut synchronizer last := by
  have unraced := shut.unraced
  cases input with
  | next selector now =>
    obtain ⟨-, same⟩ := Option.ite_none_right_eq_some.1 taken
    cases same
    rw [FDv2PollingSynchronizer.doNext, if_pos shut.closed]
    exact shut.resolve
  | proceed now =>
    obtain ⟨-, moved⟩ := Option.ite_none_right_eq_some.1 taken
    obtain ⟨stage, current, moved⟩ := Option.bind_eq_some_iff.1 moved
    rw [current] at unraced
    cases stage with
    | delay | response => cases unraced
    | doPoll selector =>
      rw [FDv2PollingSynchronizer.proceed, if_pos shut.closed] at moved
      cases moved
      exact shut.resolve
    | request selector =>
      rw [FDv2PollingSynchronizer.proceed, if_pos shut.closed] at moved
      cases moved
      have polls := shut.polls
      rw [starting, current] at polls
      exact ⟨shut.closed, rfl, polls, shut.resolve.results⟩
  | response response =>
    obtain ⟨current, -⟩ := Option.ite_none_right_eq_some.1 taken
    rw [current] at unraced
    cases unraced
  | close =>
    cases taken
    rw [FDv2PollingSynchronizer.close, unraced]
    exact ⟨rfl, unraced, shut.polls, shut.results⟩

end FDv2PollingSynchronizer

end FlagSdk.Fdv2
