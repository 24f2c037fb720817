import FlagSdk.BigSegments.MembershipLoads
import FlagSdk.BigSegments.StatusUpdates
import FlagSdk.Evaluation.Rules

/-! The wrapper around a big segment store. Lookups go through the cache and share loads; one that succeeds reports the
stored status, and is meant to poll the store first when no poll has completed. But a lookup that fails stores a status
as well, and the next one then takes it for the result of a poll. -/

namespace FlagSdk.BigSegments
open Lib Lib.Numbered Lib.Runs Evaluation

inductive LoadPart where
  | leader (query : Nat)
  | waiter (waiter : Nat)
  deriving DecidableEq

/-- Where a call of `GetMembership` or `GetStatus` is. Who reads the status is a lookup with its membership, or nobody
in particular. -/
inductive CallStage where
  | missed (key : String)
  | loading (part : LoadPart)
  /-- The load has failed, and `MarkStoreUnavailable` is next. -/
  | failed
  | marked (statusCall : Nat)
  | checking (reader : Option Membership)
  | unpolled (reader : Option Membership)
  | polling (reader : Option Membership)
  | polled (reader : Option Membership) (statusCall : Nat)
  | reading (reader : Option Membership)
  | returned
  deriving DecidableEq

def CallStage.afterPoll : CallStage → Bool
  | .polled _ _ | .reading _ => true
  | _ => false

inductive OnceFlag where
  | idle
  | running
  | done
  deriving DecidableEq

structure Report where
  result : GetMembershipResult
  polls : Nat
  deriving DecidableEq

/-- Behind a status that is reported there is a completed poll. -/
def Report.Derived (report : Report) : Prop :=
  report.result.status = .healthy ∨ report.result.status = .stale → 0 < report.polls

structure StoreWrapper where
  loads : Loads Membership := {}
  board : StatusBoard := {}
  firstPollOnce : OnceFlag := .idle
  calls : List CallStage := []
  reports : List Report := []
  /-- The polls of the metadata that have written their status. -/
  polls : Nat := 0
  deriving DecidableEq

inductive CallAction where
  | load
  | loaded
  | mark
  | marked
  | check
  | callOnce
  | poll (metadata : StoreMetadata) (now : Int)
  | polled
  | read
  deriving DecidableEq

inductive WrapperEvent where
  | getMembership (key : String) (cached : Option Membership)
  | getStatus
  | call (number : Nat) (action : CallAction)
  | lead (query : Nat) (step : LeaderStep Membership)
  | wake (waiter : Nat)
  | broadcast (statusCall : Nat)
  | backgroundPoll (metadata : StoreMetadata) (now : Int)
  deriving DecidableEq

def WrapperEvent.marks : WrapperEvent → Bool
  | .call _ .mark => true
  | _ => false

def WrapperEvent.polls : WrapperEvent → Bool
  | .backgroundPoll _ _ | .call _ (.poll _ _) => true
  | _ => false

namespace StoreWrapper

variable (wrapper : StoreWrapper) (call : Nat)

def goTo (stage : CallStage) : StoreWrapper :=
  { wrapper with calls := wrapper.calls.set call stage }

/-- What a load has come to: its answer, or nothing if something was thrown; none while it goes on. -/
def loadResult : LoadPart → Option (Option (StoreMembership Membership))
  | .leader query =>
    match wrapper.loads.queries[query]?.map InFlightQuery.stage with
    | some (.returned answer) => some (some answer)
    | some .threw => some none
    | _ => none
  | .waiter waiter => (wrapper.loads.waiters[waiter]?.bind Waiter.received).map some

def loadMembership (key : String) : StoreWrapper :=
  let part := match wrapper.loads.inFlight.find key with
    | some _ => LoadPart.waiter wrapper.loads.waiters.length
    | none => LoadPart.leader wrapper.loads.queries.length
  { wrapper with loads := wrapper.loads.call key }.goTo call (.loading part)

def afterLoad : Option (StoreMembership Membership) → CallStage
  | none => .returned
  | some (.error _) => .failed
  | some (.ok membership) => .checking (some membership)

def reportResult (result : GetMembershipResult) : StoreWrapper :=
  { wrapper with reports := wrapper.reports ++ [⟨result, wrapper.polls⟩] }

def report (status : BigSegmentStoreStatus) : Option Membership → StoreWrapper
  | none => wrapper.goTo call .returned
  | some membership =>
    (wrapper.reportResult ⟨membership, if status.stale then .stale else .healthy⟩).goTo call .returned

def hasBroadcast (statusCall : Nat) : Bool :=
  wrapper.board.calls[statusCall]?.any (·.broadcast ≠ .due)

def pollStoreAndUpdateStatus (staleAfter : Int) (wrapper : StoreWrapper) (metadata : StoreMetadata) (now : Int) :
    StoreWrapper :=
  { wrapper with
    board := wrapper.board.pollStoreAndUpdateStatus staleAfter metadata now
    polls := wrapper.polls + 1 }

def goOn (staleAfter : Int) (wrapper : StoreWrapper) (call : Nat) : CallStage → CallAction → Option StoreWrapper
  | .missed key, .load => some (wrapper.loadMembership call key)
  | .loading part, .loaded => (wrapper.loadResult part).map fun result => wrapper.goTo call (afterLoad result)
  | .failed, .mark =>
    some ({ wrapper with board := wrapper.board.markStoreUnavailable }.goTo call (.marked wrapper.board.calls.length))
  | .marked statusCall, .marked =>
    if wrapper.hasBroadcast statusCall then
      some ((wrapper.reportResult ⟨.empty, .storeError⟩).goTo call .returned)
    else none
  | .checking reader, .check =>
    match wrapper.board.lastStatus with
    | some status => some (wrapper.report call status reader)
    | none => some (wrapper.goTo call (.unpolled reader))
  | .unpolled reader, .callOnce =>
    match wrapper.firstPollOnce with
    | .idle => some ({ wrapper with firstPollOnce := .running }.goTo call (.polling reader))
    | .running => none
    | .done => some (wrapper.goTo call (.reading reader))
  | .polling reader, .poll metadata now =>
    some ((wrapper.pollStoreAndUpdateStatus staleAfter metadata now).goTo call
      (.polled reader wrapper.board.calls.length))
  | .polled reader statusCall, .polled =>
    if wrapper.hasBroadcast statusCall then
      some ({ wrapper with firstPollOnce := .done }.goTo call (.reading reader))
    else none
  | .reading reader, .read => wrapper.board.lastStatus.map fun status => wrapper.report call status reader
  | _, _ => none

variable (staleAfter : Int)

def step (wrapper : StoreWrapper) : WrapperEvent → Option StoreWrapper
  | .getMembership key none => some { wrapper with calls := wrapper.calls ++ [.missed key] }
  | .getMembership key (some membership) =>
    if (key, membership) ∈ wrapper.loads.cacheSets then
      some { wrapper with calls := wrapper.calls ++ [.checking (some membership)] }
    else none
  | .getStatus => some { wrapper with calls := wrapper.calls ++ [.checking none] }
  | .lead query step => (wrapper.loads.lead query step).map fun loads => { wrapper with loads }
  | .wake waiter => (wrapper.loads.wake waiter).map fun loads => { wrapper with loads }
  | .broadcast statusCall => (wrapper.board.broadcast statusCall).map fun board => { wrapper with board }
  | .backgroundPoll metadata now => some (wrapper.pollStoreAndUpdateStatus staleAfter metadata now)
  | .call number action =>
    wrapper.calls[number]?.bind fun stage => wrapper.goOn staleAfter number stage action

/-- A lookup has its membership, and finds a status although no poll has completed. -/
def Premature : WrapperEvent → Prop
  | .call number .check =>
    (∃ membership, wrapper.calls[number]? = some (.checking (some membership))) ∧
      wrapper.board.lastStatus.isSome = true ∧ wrapper.polls = 0
  | _ => False

structure Sound (wrapper : StoreWrapper) : Prop where
  once : wrapper.firstPollOnce = .done → 0 < wrapper.polls
  afterPoll : ∀ stage ∈ wrapper.calls, stage.afterPoll = true → 0 < wrapper.polls

/-- What a step does to the status, to the polls and to the reports. It is one of the loads, one of the status board, or
neither. -/
structure Steps (wrapper : StoreWrapper) (event : WrapperEvent) (next : StoreWrapper) : Prop where
  sound : next.Sound
  loads : next.loads = wrapper.loads ∨ ∃ event, wrapper.loads.step event = some next.loads
  board : next.board = wrapper.board ∨ ∃ event, wrapper.board.step staleAfter event = some next.board
  polls : next.polls = wrapper.polls + if event.polls then 1 else 0
  status : next.board.lastStatus.isSome = (wrapper.board.lastStatus.isSome || event.marks || event.polls)
  derived : (∀ report ∈ next.reports, report.Derived) ↔
    (∀ report ∈ wrapper.reports, report.Derived) ∧ ¬wrapper.Premature event

section
variable {staleAfter} {wrapper next : StoreWrapper} {event : WrapperEvent} {number : Nat} {stage : CallStage}

theorem Sound.move (sound : wrapper.Sound)
    (calls : next.calls = wrapper.calls.set number stage) (polls : next.polls = wrapper.polls)
    (once : next.firstPollOnce = .done → 0 < wrapper.polls) (polled : stage.afterPoll = true → 0 < wrapper.polls) :
    next.Sound := by
  refine ⟨fun done => ?_, fun other member after => ?_⟩
  · rw [polls]
    exact once done
  · rw [polls]
    rw [calls] at member
    obtain member | rfl := List.mem_or_eq_of_mem_set member
    · exact sound.afterPoll other member after
    · exact polled after

theorem Sound.begin (sound : wrapper.Sound) (calls : next.calls = wrapper.calls ++ [stage])
    (polls : next.polls = wrapper.polls) (once : next.firstPollOnce = wrapper.firstPollOnce)
    (early : stage.afterPoll = false) : next.Sound := by
  refine ⟨fun done => ?_, fun other member after => ?_⟩
  · rw [polls]
    exact sound.once (once ▸ done)
  · rw [polls]
    rw [calls] at member
    obtain member | member := List.mem_append.1 member
    · exact sound.afterPoll other member after
    · rw [List.mem_singleton.1 member, early] at after
      cases after

theorem Steps.of_unchanged (sound : next.Sound) (timely : ¬wrapper.Premature event)
    (loads : next.loads = wrapper.loads ∨ ∃ event, wrapper.loads.step event = some next.loads := by exact .inl rfl)
    (board : next.board = wrapper.board ∨ ∃ event, wrapper.board.step staleAfter event = some next.board := by
      exact .inl rfl) (polls : next.polls = wrapper.polls := by rfl)
    (status : next.board.lastStatus = wrapper.board.lastStatus := by rfl)
    (reports : next.reports = wrapper.reports := by rfl)
    (neither : event.marks = false ∧ event.polls = false := by exact ⟨rfl, rfl⟩) :
    wrapper.Steps staleAfter event next := by
  obtain ⟨unmarked, unpolled⟩ := neither
  refine ⟨sound, loads, board, ?_, ?_, ?_⟩
  · rw [polls, unpolled]
    rfl
  · rw [status, unmarked, unpolled, Bool.or_false, Bool.or_false]
  · rw [reports]
    exact ⟨fun derived => ⟨derived, timely⟩, And.left⟩

theorem derived_concat {reports : List Report} {report : Report} :
    (∀ other ∈ reports ++ [report], other.Derived) ↔ (∀ other ∈ reports, other.Derived) ∧ report.Derived := by
  rw [List.forall_mem_append, List.forall_mem_singleton]

theorem derived_report (number : Nat) (status : BigSegmentStoreStatus) (reader : Option Membership) :
    (∀ report ∈ (wrapper.report number status reader).reports, report.Derived) ↔
      (∀ report ∈ wrapper.reports, report.Derived) ∧ (reader.isSome = true → 0 < wrapper.polls) := by
  cases reader with
  | none => exact ⟨fun derived => ⟨derived, fun none => by cases none⟩, And.left⟩
  | some membership =>
    refine derived_concat.trans (and_congr_right fun _ => ?_)
    cases status.stale <;> simp [Report.Derived]

theorem Sound.report (sound : wrapper.Sound) (number : Nat) (status : BigSegmentStoreStatus)
    (reader : Option Membership) : (wrapper.report number status reader).Sound := by
  have ended : CallStage.returned.afterPoll = true → 0 < wrapper.polls := fun after => by cases after
  cases reader with
  | none | some => exact sound.move rfl rfl sound.once ended

theorem report_frame (number : Nat) (status : BigSegmentStoreStatus) (reader : Option Membership) :
    (wrapper.report number status reader).polls = wrapper.polls ∧
      (wrapper.report number status reader).loads = wrapper.loads ∧
      (wrapper.report number status reader).board = wrapper.board := by
  cases reader <;> exact ⟨rfl, rfl, rfl⟩

theorem Sound.steps_check (sound : wrapper.Sound) {reader : Option Membership}
    (here : wrapper.calls[number]? = some (.checking reader))
    (taken : wrapper.goOn staleAfter number (.checking reader) .check = some next) :
    wrapper.Steps staleAfter (.call number .check) next := by
  rw [goOn] at taken
  cases stored : wrapper.board.lastStatus with
  | none =>
    rw [stored] at taken
    cases taken
    have waits : (CallStage.unpolled reader).afterPoll = true → 0 < wrapper.polls := fun after => by cases after
    refine .of_unchanged (sound.move rfl rfl sound.once waits) ?_
    rintro ⟨_, some, _⟩
    rw [stored] at some
    cases some
  | some status =>
    rw [stored] at taken
    cases taken
    obtain ⟨polls, loads, board⟩ := @report_frame wrapper number status reader
    refine ⟨sound.report number status reader, .inl loads, .inl board, polls, ?_,
      (derived_report number status reader).trans ?_⟩
    · rw [board, stored]
      rfl
    · refine and_congr_right fun _ => ?_
      simp only [Premature, here, stored]
      cases reader with
      | none => simp
      | some membership =>
        simp
        omega

theorem status_mark : (wrapper.board.markStoreUnavailable).lastStatus.isSome = true := rfl

theorem steps_poll {metadata : StoreMetadata} {now : Int} (loads : next.loads = wrapper.loads)
    (board : next.board = wrapper.board.pollStoreAndUpdateStatus staleAfter metadata now)
    (polls : next.polls = wrapper.polls + 1) (reports : next.reports = wrapper.reports) (completes : event.polls = true)
    (timely : ¬wrapper.Premature event) : wrapper.Steps staleAfter event next := by
  have polled : 0 < next.polls := polls ▸ Nat.succ_pos _
  refine ⟨⟨fun _ => polled, fun _ _ _ => polled⟩, .inl loads,
    .inr ⟨.pollStoreAndUpdateStatus metadata now, congrArg some board.symm⟩, ?_, ?_, ?_⟩
  · rw [polls, completes]
    rfl
  · rw [board, completes, Bool.or_true]
    rfl
  · rw [reports]
    exact ⟨fun derived => ⟨derived, timely⟩, And.left⟩

theorem Sound.steps_call (sound : wrapper.Sound) {action : CallAction}
    (taken : wrapper.step staleAfter (.call number action) = some next) :
    wrapper.Steps staleAfter (.call number action) next := by
  obtain ⟨stage, here, taken⟩ := Option.bind_eq_some_iff.1 taken
  have polledBefore := sound.afterPoll stage (List.mem_of_getElem? here)
  have early {stage : CallStage} (before : stage.afterPoll = false) (after : stage.afterPoll = true) :
      0 < wrapper.polls := (Bool.false_ne_true (before.symm.trans after)).elim
  unfold goOn at taken
  split at taken <;> try cases taken
  -- one case for each stage, in their order
  · exact .of_unchanged (sound.move rfl rfl sound.once (early rfl)) id (.inr ⟨.call _, rfl⟩)
  · obtain ⟨result, _, rfl⟩ := Option.map_eq_some_iff.1 taken
    refine .of_unchanged (sound.move rfl rfl sound.once (early ?_)) id
    cases result with
    | none => rfl
    | some answer => cases answer <;> rfl
  · refine ⟨sound.move rfl rfl sound.once (early rfl), .inl rfl, .inr ⟨.markStoreUnavailable, rfl⟩, rfl, ?_,
      fun derived => ⟨derived, id⟩, And.left⟩
    exact status_mark.trans (by simp [WrapperEvent.marks])
  · split at taken <;> cases taken
    refine ⟨sound.move rfl rfl sound.once (early rfl), .inl rfl, .inl rfl, rfl, ?_,
      derived_concat.trans (and_congr_right fun _ => ?_)⟩
    · simp [WrapperEvent.marks, WrapperEvent.polls]
      rfl
    · exact ⟨fun _ => id, fun _ reported => by simp at reported⟩
  · exact @Sound.steps_check staleAfter _ _ _ sound _ here taken
  · rename_i reader _
    cases once : wrapper.firstPollOnce with
    | idle =>
      rw [once] at taken
      cases taken
      exact .of_unchanged (sound.move rfl rfl (fun done => by cases done) (early rfl)) id
    | running =>
      rw [once] at taken
      cases taken
    | done =>
      rw [once] at taken
      cases taken
      exact .of_unchanged (sound.move rfl rfl sound.once fun _ => sound.once once) id
  · exact steps_poll rfl rfl rfl rfl rfl id
  · split at taken <;> cases taken
    have polled : 0 < wrapper.polls := polledBefore rfl
    exact .of_unchanged (sound.move rfl rfl (fun _ => polled) fun _ => polled) id
  · rename_i reader _
    obtain ⟨status, stored, rfl⟩ := Option.map_eq_some_iff.1 taken
    obtain ⟨polls, loads, board⟩ := @report_frame wrapper number status reader
    refine ⟨sound.report number status reader, .inl loads, .inl board, polls, ?_,
      (derived_report number status reader).trans ?_⟩
    · rw [board, stored]
      rfl
    · exact and_congr_right fun _ => ⟨fun _ => id, fun _ _ => polledBefore rfl⟩

theorem Sound.step (sound : wrapper.Sound) (taken : wrapper.step staleAfter event = some next) :
    wrapper.Steps staleAfter event next := by
  cases event with
  | getMembership key cached =>
    cases cached with
    | none =>
      cases taken
      exact .of_unchanged (sound.begin rfl rfl rfl rfl) id
    | some membership =>
      rw [StoreWrapper.step] at taken
      split at taken <;> cases taken
      exact .of_unchanged (sound.begin rfl rfl rfl rfl) id
  | getStatus =>
    cases taken
    exact .of_unchanged (sound.begin rfl rfl rfl rfl) id
  | call number action => exact sound.steps_call taken
  | lead query step =>
    obtain ⟨loads, led, rfl⟩ := Option.map_eq_some_iff.1 taken
    exact .of_unchanged ⟨sound.once, sound.afterPoll⟩ id (.inr ⟨.lead query step, led⟩)
  | wake waiter =>
    obtain ⟨loads, woken, rfl⟩ := Option.map_eq_some_iff.1 taken
    exact .of_unchanged ⟨sound.once, sound.afterPoll⟩ id (.inr ⟨.wake waiter, woken⟩)
  | broadcast statusCall =>
    obtain ⟨board, told, rfl⟩ := Option.map_eq_some_iff.1 taken
    obtain ⟨_, _, _, rfl⟩ := StatusBoard.broadcast_eq_some told
    exact .of_unchanged ⟨sound.once, sound.afterPoll⟩ id (.inl rfl) (.inr ⟨.broadcast statusCall, told⟩)
  | backgroundPoll metadata now =>
    cases taken
    exact steps_poll rfl rfl rfl rfl rfl id

end

/-- Whether there is a status and whether a poll was completed, read off the events. The loads and the status are those
of runs of their own. -/
structure Tracks (events : List WrapperEvent) (wrapper : StoreWrapper) : Prop where
  sound : wrapper.Sound
  loads : ∃ events, run Loads.step {} events = some wrapper.loads
  board : ∃ events, run (StatusBoard.step staleAfter) {} events = some wrapper.board
  polls : 0 < wrapper.polls ↔ ∃ event ∈ events, event.polls = true
  status : wrapper.board.lastStatus.isSome = true ↔
    (∃ event ∈ events, event.marks = true) ∨ ∃ event ∈ events, event.polls = true

/-- Whenever a lookup has its membership and comes to the status after some lookup has failed, a poll was completed
before. -/
def PolledInTime (events : List WrapperEvent) : Prop :=
  ∀ earlier number later before, events = earlier ++ .call number .check :: later →
    run (step staleAfter) {} earlier = some before →
    (∃ membership, before.calls[number]? = some (.checking (some membership))) →
    (∃ event ∈ earlier, event.marks = true) → ∃ event ∈ earlier, event.polls = true

variable {staleAfter} {wrapper next : StoreWrapper} {event : WrapperEvent} {events : List WrapperEvent}

theorem exists_concat {P : WrapperEvent → Prop} :
    (∃ other ∈ events ++ [event], P other) ↔ (∃ other ∈ events, P other) ∨ P event := by
  simp

theorem Tracks.step (tracks : wrapper.Tracks staleAfter events) (steps : wrapper.Steps staleAfter event next) :
    next.Tracks staleAfter (events ++ [event]) := by
  refine ⟨steps.sound, exists_run_of_step tracks.loads steps.loads, exists_run_of_step tracks.board steps.board, ?_, ?_⟩
  · rw [steps.polls, exists_concat, ← tracks.polls]
    cases event.polls <;> simp
  · rw [steps.status, Bool.or_eq_true, Bool.or_eq_true, tracks.status, exists_concat, exists_concat,
      or_assoc, or_or_or_comm]

theorem Tracks.not_premature_iff (tracks : wrapper.Tracks staleAfter events) :
    ¬wrapper.Premature event ↔ ∀ number, event = .call number .check →
      (∃ membership, wrapper.calls[number]? = some (.checking (some membership))) →
      (∃ other ∈ events, other.marks = true) → ∃ other ∈ events, other.polls = true := by
  constructor
  · rintro timely number rfl lookup marked
    by_contra unpolled
    rw [← tracks.polls] at unpolled
    exact timely ⟨lookup, tracks.status.2 (.inl marked), Nat.eq_zero_of_not_pos unpolled⟩
  · intro inTime premature
    unfold Premature at premature
    split at premature
    · obtain ⟨lookup, status, unpolled⟩ := premature
      have polled : ∃ other ∈ events, other.polls = true := by
        obtain marked | polled := tracks.status.1 status
        · exact inTime _ rfl lookup marked
        · exact polled
      exact absurd unpolled (Nat.pos_iff_ne_zero.1 (tracks.polls.2 polled))
    · exact premature

theorem polledInTime_concat (reached : run (step staleAfter) {} events = some wrapper) :
    PolledInTime staleAfter (events ++ [event]) ↔
      PolledInTime staleAfter events ∧ ∀ number, event = .call number .check →
        (∃ membership, wrapper.calls[number]? = some (.checking (some membership))) →
        (∃ other ∈ events, other.marks = true) → ∃ other ∈ events, other.polls = true := by
  constructor
  · intro inTime
    constructor
    · intro earlier number later before split
      apply inTime earlier number (later ++ [event]) before
      rw [split, List.append_assoc]
      rfl
    · intro number check
      exact inTime events number [] wrapper (by rw [check]) reached
  · rintro ⟨inTime, last⟩ earlier number later before split reachedBefore
    obtain rfl | ⟨rest, final, rfl⟩ := List.eq_nil_or_concat later
    · obtain ⟨rfl, check⟩ := List.append_inj' split rfl
      rw [reached] at reachedBefore
      cases reachedBefore
      exact last number (List.singleton_inj.1 check)
    · have split : events ++ [event] = (earlier ++ .call number .check :: rest) ++ [final] := by
        rw [split, List.concat_eq_append, List.append_assoc]
        rfl
      exact inTime earlier number rest before (List.append_inj' split rfl).1 reachedBefore

theorem tracks_and_derived_iff (reached : run (step staleAfter) {} events = some wrapper) :
    wrapper.Tracks staleAfter events ∧ ((∀ report ∈ wrapper.reports, report.Derived) ↔ PolledInTime staleAfter events) := by
  induction events using List.reverseRecOn generalizing wrapper with
  | nil =>
    cases reached
    have sound : Sound {} := ⟨fun done => (by cases done), fun _ member => (List.not_mem_nil member).elim⟩
    refine ⟨⟨sound, ⟨[], rfl⟩, ⟨[], rfl⟩, by simp, by simp⟩, ?_, ?_⟩
    · rintro _ earlier number later before split
      cases earlier <;> cases split
    · exact fun _ _ member => (List.not_mem_nil member).elim
  | append_singleton events event ih =>
    obtain ⟨before, reachedBefore, last⟩ := run_append_eq_some.1 reached
    obtain ⟨next, taken, rest⟩ := run_cons_eq_some.1 last
    cases rest
    obtain ⟨tracks, derived⟩ := ih reachedBefore
    have steps := tracks.sound.step taken
    refine ⟨tracks.step steps, ?_⟩
    rw [steps.derived, derived, tracks.not_premature_iff, polledInTime_concat reachedBefore]

/-- The statuses that lookups report all come from a completed poll exactly if no lookup reads the status between a
failed one and the first poll. -/
theorem staleness_polled_iff {events : List WrapperEvent} {wrapper : StoreWrapper}
    (reached : run (step staleAfter) {} events = some wrapper) :
    (∀ report ∈ wrapper.reports, report.Derived) ↔ PolledInTime staleAfter events :=
  (tracks_and_derived_iff reached).2

/-- The first lookup leads a load that fails, and the second one a load that succeeds; the poll in the background comes
before the second reads the status, or after. -/
def failedThenFound (late : Bool) : List WrapperEvent :=
  let poll := WrapperEvent.backgroundPoll (.ok none) 0
  [.getMembership "ada" none, .call 0 .load, .lead 0 (.answer (.error "timeout")), .lead 0 .cacheSet, .lead 0 .publish,
    .lead 0 .erase, .lead 0 .finish, .call 0 .loaded, .call 0 .mark, .broadcast 0, .call 0 .marked,
    .getMembership "ada" none, .call 1 .load, .lead 1 (.answer (.ok .empty)), .lead 1 .cacheSet, .lead 1 .publish,
    .lead 1 .erase, .lead 1 .finish, .call 1 .loaded] ++
    if late then [.call 1 .check, poll] else [poll, .call 1 .check]

theorem staleness_polled_in_time :
    ∃ wrapper, run (step 100) {} (failedThenFound false) = some wrapper ∧
      wrapper.reports.map (·.result.status) = [.storeError, .stale] ∧
      (∀ report ∈ wrapper.reports, report.Derived) ∧ PolledInTime 100 (failedThenFound false) := by
  have derived : ∀ report ∈ [(⟨⟨.empty, .storeError⟩, 0⟩ : Report), ⟨⟨.empty, .stale⟩, 1⟩], report.Derived := by
    simp [Report.Derived]
  exact ⟨_, rfl, rfl, derived, (@staleness_polled_iff 100 (failedThenFound false) _ rfl).1 derived⟩

/-- A store that was never populated is reported as healthy, before any poll. -/
theorem staleness_of_default :
    ¬ ∀ (staleAfter : Int) (events : List WrapperEvent) (wrapper : StoreWrapper),
      run (step staleAfter) {} events = some wrapper → ∀ report ∈ wrapper.reports, report.Derived := by
  intro polled
  have reports := polled 100 (failedThenFound true) _ rfl ⟨⟨.empty, .healthy⟩, 0⟩ (by decide)
  exact absurd (reports (.inl rfl)) (Nat.lt_irrefl 0)

end StoreWrapper

end FlagSdk.BigSegments
