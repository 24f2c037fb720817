import FlagSdk.Fdv2.FDv1Adapter
import FlagSdk.Fdv2.StreamingSynchronizer
import FlagSdk.Lib.HandOff

/-! The results of a synchronizer on their way to the orchestrator. The network side notifies results and the
orchestrator asks for them, each in locked sections that interleave in any order. The streaming synchronizer and the
FDv1 adapter hand their results over alike; the adapter ignores what comes after it was closed. -/

namespace FlagSdk.Fdv2
open Lib Lib.Runs

/-- What the calls of a synchronizer share, for both kinds of them. -/
structure ResultState where
  closed : Bool := false
  handOff : HandOff FDv2SourceResult := {}
  deriving DecidableEq

/-- The orchestrator's side, and the promises that are resolved outside of the lock. -/
inductive ResultEvent where
  | next
  | resolve (index : Nat)
  | close
  /-- The request that waits learns of the closing. -/
  | shutdown
  deriving DecidableEq

/-- The orchestrator asks again only when its last request is resolved. -/
def ResultState.step (state : ResultState) : ResultEvent → Option ResultState
  | .next =>
    if state.closed then
      some { state with handOff.futures := state.handOff.futures ++ [some ⟨.shutdown, none⟩] }
    else if state.handOff.free then some { state with handOff := state.handOff.next }
    else none
  | .resolve index => (state.handOff.resolve index).map fun handOff => { state with handOff }
  | .close => some { state with closed := true }
  | .shutdown =>
    if state.closed then
      some { state with
        handOff.pendingPromise := none
        handOff.futures := state.handOff.futures.map fun known => known.or (some ⟨.shutdown, none⟩) }
    else none

namespace StreamingSynchronizer

structure State where
  latestFdv1Fallback : Option FDv1FallbackDirective := none
  shared : ResultState := {}
  deriving DecidableEq

inductive StateEvent where
  | response (fdv1Fallback : Option FDv1FallbackDirective)
  | notify (result : FDv2SourceResult)
  | shared (event : ResultEvent)
  deriving DecidableEq

/-- A directive of the result itself goes before the one of the last response. -/
def filled (latestFdv1Fallback : Option FDv1FallbackDirective) (result : FDv2SourceResult) : FDv2SourceResult :=
  { result with fdv1Fallback := result.fdv1Fallback.or latestFdv1Fallback }

def State.notify (state : State) (result : FDv2SourceResult) : State :=
  { state with shared.handOff := state.shared.handOff.notify (filled state.latestFdv1Fallback result) }

def State.step (state : State) : StateEvent → Option State
  | .response fdv1Fallback => some { state with latestFdv1Fallback := fdv1Fallback }
  | .notify result => some (state.notify result)
  | .shared event => (state.shared.step event).map fun shared => { state with shared }

/-- The results that the network side notifies, each with the directive that goes with it. -/
def notified : Option FDv1FallbackDirective → List StateEvent → List FDv2SourceResult
  | _, [] => []
  | _, .response fdv1Fallback :: events => notified fdv1Fallback events
  | latest, .notify result :: events => filled latest result :: notified latest events
  | latest, .shared _ :: events => notified latest events

end StreamingSynchronizer

namespace FDv1AdapterSynchronizer

inductive StateEvent where
  | notify (result : FDv2SourceResult)
  | shared (event : ResultEvent)
  deriving DecidableEq

def notify (state : ResultState) (result : FDv2SourceResult) : ResultState :=
  if state.closed then state else { state with handOff := state.handOff.notify result }

def step (state : ResultState) : StateEvent → Option ResultState
  | .notify result => some (notify state result)
  | .shared event => state.step event

def notified : List StateEvent → List FDv2SourceResult
  | [] => []
  | .notify result :: events => result :: notified events
  | .shared _ :: events => notified events

end FDv1AdapterSynchronizer

namespace ResultState

/-- Results are handed over in order, until the synchronizer is closed. -/
def Hands (state : ResultState) (results : List FDv2SourceResult) : Prop :=
  state.closed = false → state.handOff.Handed results

variable {state after : ResultState} {results : List FDv2SourceResult} {event : ResultEvent}

theorem Hands.step (hands : state.Hands results) (taken : state.step event = some after) : after.Hands results := by
  intro isOpen
  cases event with
  | next =>
    rw [ResultState.step] at taken
    split at taken
    case isTrue closed =>
      cases taken
      cases closed.symm.trans isOpen
    case isFalse =>
      obtain ⟨free, asked⟩ := Option.ite_none_right_eq_some.1 taken
      cases asked
      exact (hands isOpen).next free
  | resolve index =>
    obtain ⟨handOff, resolved, rfl⟩ := Option.map_eq_some_iff.1 taken
    exact (hands isOpen).resolve resolved
  | close =>
    cases taken
    cases isOpen
  | shutdown =>
    obtain ⟨closed, told⟩ := Option.ite_none_right_eq_some.1 taken
    cases told
    cases closed.symm.trans isOpen

theorem Hands.notify (hands : state.Hands results) (result : FDv2SourceResult) :
    ({ state with handOff := state.handOff.notify result } : ResultState).Hands (results ++ [result]) :=
  fun isOpen => (hands isOpen).notify result

end ResultState

variable {events : List StateEvent} {results : List FDv2SourceResult}

namespace StreamingSynchronizer

variable {state last : State} {Text : Type}

theorem hands_run (hands : state.shared.Hands results) (reached : run State.step state events = some last) :
    last.shared.Hands (results ++ notified state.latestFdv1Fallback events) := by
  induction events generalizing state results with
  | nil =>
    cases reached
    rw [notified, List.append_nil]
    exact hands
  | cons event events ih =>
    obtain ⟨next, taken, rest⟩ := run_cons_eq_some.1 reached
    cases event with
    | response fdv1Fallback =>
      cases taken
      exact @ih results { state with latestFdv1Fallback := fdv1Fallback } hands rest
    | notify result =>
      cases taken
      have later := @ih _ (state.notify result) (hands.notify (filled state.latestFdv1Fallback result)) rest
      rwa [List.append_assoc] at later
    | shared event =>
      obtain ⟨shared, moved, rfl⟩ := Option.map_eq_some_iff.1 taken
      exact @ih results { state with shared } (hands.step moved) rest

/-- The synchronizer that resolves a promise in the same step, and one whose promises are all resolved. -/
structure InStep (synchronizer : StreamingSynchronizer) (state : State) : Prop where
  latestFdv1Fallback : synchronizer.latestFdv1Fallback = state.latestFdv1Fallback
  resultQueue : synchronizer.resultQueue = state.shared.handOff.resultQueue
  pendingPromise : synchronizer.pendingPromise = state.shared.handOff.pendingPromise.isSome
  resolved : synchronizer.resolved = state.shared.handOff.futures.filterMap id
  settled : state.shared.handOff.resolving = []

/-- Some interleaving of the locked sections leads to this synchronizer. -/
def Interleaved (synchronizer : StreamingSynchronizer) : Prop :=
  ∃ events state, run State.step {} events = some state ∧ state.shared.closed = false ∧ InStep synchronizer state

variable {synchronizer : StreamingSynchronizer}

theorem Interleaved.extend {after : StreamingSynchronizer} (interleaved : Interleaved synchronizer)
    (extend : ∀ (state : State) (results : List FDv2SourceResult), state.shared.handOff.Handed results →
      state.shared.closed = false → InStep synchronizer state →
      ∃ events last, run State.step state events = some last ∧ last.shared.closed = false ∧ InStep after last) :
    Interleaved after := by
  obtain ⟨events, state, reached, isOpen, inStep⟩ := interleaved
  obtain ⟨later, last, rest, lastOpen, lastInStep⟩ :=
    extend state _ (hands_run (fun _ => HandOff.handed_empty) reached isOpen) isOpen inStep
  exact ⟨events ++ later, last, run_append_eq_some.2 ⟨state, reached, rest⟩, lastOpen, lastInStep⟩

theorem Interleaved.notify (interleaved : Interleaved synchronizer) (result : FDv2SourceResult) :
    Interleaved (synchronizer.notify result) := by
  refine interleaved.extend fun state results handed isOpen inStep => ?_
  obtain ⟨latest, closed, handOff⟩ := state
  cases handed with
  | idle given queue =>
    have idle : synchronizer.pendingPromise = false := inStep.pendingPromise
    refine ⟨[.notify result], _, rfl, isOpen, ?_⟩
    rw [StreamingSynchronizer.notify, if_neg (Bool.eq_false_iff.1 idle), withFallback]
    refine ⟨inStep.latestFdv1Fallback, ?_, inStep.pendingPromise, inStep.resolved, rfl⟩
    exact congrArg₂ (· ++ [filled · result]) inStep.resultQueue inStep.latestFdv1Fallback
  | waiting =>
    have waiting : synchronizer.pendingPromise = true := inStep.pendingPromise
    refine ⟨[.notify result, .shared (.resolve 0)], _, rfl, isOpen, ?_⟩
    rw [StreamingSynchronizer.notify, if_pos waiting, withFallback]
    refine ⟨inStep.latestFdv1Fallback, inStep.resultQueue, rfl, ?_, rfl⟩
    have received : synchronizer.resolved = results := by simpa using inStep.resolved
    have fallback : synchronizer.latestFdv1Fallback = latest := inStep.latestFdv1Fallback
    have modified := HandOff.modify_waiting results (filled latest result)
    have collected := congrArg (List.filterMap id) modified
    rw [received, fallback]
    refine Eq.trans ?_ collected.symm
    simp [filled]
  | resolving given first queue => cases inStep.settled

theorem State.run_next (free : state.shared.handOff.free = true) (isOpen : state.shared.closed = false) :
    run State.step state [.shared .next] =
      some { state with shared.handOff := state.shared.handOff.next } := by
  have taken : state.shared.step .next = some { state.shared with handOff := state.shared.handOff.next } := by
    rw [ResultState.step, if_neg (Bool.eq_false_iff.1 isOpen), if_pos free]
  refine run_cons_eq_some.2 ⟨_, ?_, rfl⟩
  rw [State.step, taken]
  rfl

theorem Interleaved.next (interleaved : Interleaved synchronizer) (asks : synchronizer.pendingPromise = false) :
    Interleaved synchronizer.next := by
  refine interleaved.extend fun state results handed isOpen inStep => ?_
  have asked := fun free => State.run_next free isOpen
  obtain ⟨latest, closed, handOff⟩ := state
  cases handed with
  | idle given queue =>
    refine ⟨[.shared .next], _, asked (by simp [HandOff.free]), isOpen, ?_⟩
    have received : synchronizer.resolved = given := by simpa using inStep.resolved
    have waits : synchronizer.resultQueue = queue := inStep.resultQueue
    rw [StreamingSynchronizer.next, waits]
    cases queue with
    | nil => exact ⟨inStep.latestFdv1Fallback, rfl, rfl, by simp [HandOff.next, received], rfl⟩
    | cons result queue =>
      exact ⟨inStep.latestFdv1Fallback, rfl, inStep.pendingPromise, by simp [HandOff.next, received], rfl⟩
  | waiting => cases asks.symm.trans inStep.pendingPromise
  | resolving given first queue => cases inStep.settled

theorem kept_interleaved : Kept Interleaved where
  notify result interleaved := interleaved.notify result
  unseen _ _ interleaved := interleaved.extend fun state _ _ isOpen inStep =>
    ⟨[], state, rfl, isOpen, inStep.latestFdv1Fallback, inStep.resultQueue, inStep.pendingPromise, inStep.resolved,
      inStep.settled⟩

variable (format : Persistence.TextFormat Text)

theorem interleaved_take {input : Input Text}
    (interleaved : Interleaved synchronizer) (asks : input = .next → synchronizer.pendingPromise = false) :
    Interleaved (synchronizer.take format input) := by
  cases input with
  | response fdv1Fallback =>
    refine interleaved.extend fun state _ _ isOpen inStep => ⟨[.response fdv1Fallback], _, rfl, isOpen, ?_⟩
    exact ⟨rfl, inStep.resultQueue, inStep.pendingPromise, inStep.resolved, inStep.settled⟩
  | event event => exact kept_interleaved.onEvent format interleaved event
  | error error => exact kept_interleaved.onError interleaved error
  | next => exact interleaved.next (asks rfl)

theorem interleaved_after {inputs : List (Input Text)}
    (asks : Along (step format) (fun synchronizer input => input = .next → synchronizer.pendingPromise = false)
      {} inputs) : Interleaved (after format inputs) := by
  have start : Interleaved {} := ⟨[], {}, rfl, rfl, rfl, rfl, rfl, rfl, rfl⟩
  refine run_invariant (fun interleaved asks taken => ?_) start asks (run_step format {} inputs)
  cases taken
  exact interleaved_take format interleaved asks

end StreamingSynchronizer

namespace FDv1AdapterSynchronizer

variable {state last : ResultState}

theorem hands_notify (hands : state.Hands results) (result : FDv2SourceResult) :
    (notify state result).Hands (results ++ [result]) := by
  unfold notify
  split
  case isTrue closed =>
    intro isOpen
    cases closed.symm.trans isOpen
  case isFalse => exact hands.notify result

theorem hands_run (hands : state.Hands results) (reached : run step state events = some last) :
    last.Hands (results ++ notified events) := by
  induction events generalizing state results with
  | nil =>
    cases reached
    rw [notified, List.append_nil]
    exact hands
  | cons event events ih =>
    obtain ⟨next, taken, rest⟩ := run_cons_eq_some.1 reached
    cases event with
    | notify result =>
      cases taken
      have later := ih (hands_notify hands result) rest
      rwa [List.append_assoc] at later
    | shared event => exact ih (hands.step taken) rest

end FDv1AdapterSynchronizer

/-- However the network side and the orchestrator interleave, the requests receive the results that were notified, in
their order and each of them once, from the streaming synchronizer and from the FDv1 adapter. -/
theorem results_in_order :
    (∀ (events : List StreamingSynchronizer.StateEvent) (state : StreamingSynchronizer.State),
      run StreamingSynchronizer.State.step {} events = some state → state.shared.closed = false →
        state.shared.handOff.Delivers (StreamingSynchronizer.notified none events)) ∧
    (∀ (events : List FDv1AdapterSynchronizer.StateEvent) (state : ResultState),
      run FDv1AdapterSynchronizer.step {} events = some state → state.closed = false →
        state.handOff.Delivers (FDv1AdapterSynchronizer.notified events)) := by
  constructor
  · intro events state reached isOpen
    exact (StreamingSynchronizer.hands_run (fun _ => HandOff.handed_empty) reached isOpen).delivers
  · intro events state reached isOpen
    exact (FDv1AdapterSynchronizer.hands_run (fun _ => HandOff.handed_empty) reached isOpen).delivers

def overtaking {Event : Type} (notify : FDv2SourceResult → Event) (shared : ResultEvent → Event) : List Event :=
  [shared .next, notify ⟨.goodbye none, none⟩, notify ⟨.goodbye (some "later"), none⟩, shared (.resolve 0),
    shared .next]

theorem results_in_order_overtaking :
    (∃ state, run StreamingSynchronizer.State.step {} (overtaking .notify .shared) = some state ∧
      state.shared.closed = false ∧
      state.shared.handOff.futures = [some ⟨.goodbye none, none⟩, some ⟨.goodbye (some "later"), none⟩] ∧
      state.shared.handOff.Delivers (StreamingSynchronizer.notified none (overtaking .notify .shared))) ∧
    (∃ state, run FDv1AdapterSynchronizer.step {} (overtaking .notify .shared) = some state ∧
      state.closed = false ∧
      state.handOff.futures = [some ⟨.goodbye none, none⟩, some ⟨.goodbye (some "later"), none⟩] ∧
      state.handOff.Delivers (FDv1AdapterSynchronizer.notified (overtaking .notify .shared))) :=
  ⟨⟨_, rfl, rfl, rfl, results_in_order.1 _ _ rfl rfl⟩, ⟨_, rfl, rfl, rfl, results_in_order.2 _ _ rfl rfl⟩⟩

end FlagSdk.Fdv2
