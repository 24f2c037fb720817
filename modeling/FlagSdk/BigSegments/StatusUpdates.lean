import FlagSdk.Lib.Numbered
import FlagSdk.Lib.Runs

/-! The status of the big segment store. A poll of the metadata and a failed lookup write it under a lock, and tell
the listeners of a change after they have released the lock. Nothing keeps the order of these broadcasts that of the
writes. -/

namespace FlagSdk.BigSegments
open Lib.Numbered Lib.Runs

structure BigSegmentStoreStatus where
  available : Bool
  stale : Bool
  deriving DecidableEq, Repr

/-- What the store answers about itself: an error, that it was never populated, or when it was last up to date. -/
abbrev StoreMetadata := Except String (Option Int)

inductive Broadcast where
  | due
  | sent
  | unneeded
  deriving DecidableEq, Repr

structure StatusCall where
  previous : Option BigSegmentStoreStatus
  status : BigSegmentStoreStatus
  broadcast : Broadcast
  deriving DecidableEq, Repr

structure StatusBoard where
  lastStatus : Option BigSegmentStoreStatus := none
  calls : List StatusCall := []
  /-- What a listener that was there from the beginning has heard. -/
  delivered : List BigSegmentStoreStatus := []
  deriving DecidableEq, Repr

inductive StatusEvent where
  | markStoreUnavailable
  | pollStoreAndUpdateStatus (metadata : StoreMetadata) (now : Int)
  | broadcast (call : Nat)
  deriving DecidableEq

def StatusEvent.broadcasts : StatusEvent → Bool
  | .broadcast _ => true
  | _ => false

def isStale (staleAfter now lastUpToDate : Int) : Bool := now - lastUpToDate ≥ staleAfter

namespace StatusBoard

variable (board : StatusBoard)

/-- The last-known staleness is carried forward. -/
def unavailable : BigSegmentStoreStatus := ⟨false, board.lastStatus.any (·.stale)⟩

def polledStatus (staleAfter : Int) (board : StatusBoard) (now : Int) : StoreMetadata → BigSegmentStoreStatus
  | .ok none => ⟨true, true⟩
  | .ok (some lastUpToDate) => ⟨true, isStale staleAfter now lastUpToDate⟩
  | .error _ => board.unavailable

def update (newStatus : BigSegmentStoreStatus) : StatusBoard :=
  { board with
    lastStatus := some newStatus
    calls := board.calls ++
      [⟨board.lastStatus, newStatus, if board.lastStatus = some newStatus then .unneeded else .due⟩] }

def markStoreUnavailable : StatusBoard := board.update board.unavailable

def pollStoreAndUpdateStatus (staleAfter : Int) (board : StatusBoard) (metadata : StoreMetadata) (now : Int) :
    StatusBoard :=
  board.update (board.polledStatus staleAfter now metadata)

def broadcast (number : Nat) : Option StatusBoard :=
  match board.calls[number]? with
  | some ⟨previous, status, .due⟩ =>
    some { board with
      calls := board.calls.set number ⟨previous, status, .sent⟩
      delivered := board.delivered ++ [status] }
  | _ => none

variable (staleAfter : Int)

def step (board : StatusBoard) : StatusEvent → Option StatusBoard
  | .markStoreUnavailable => some board.markStoreUnavailable
  | .pollStoreAndUpdateStatus metadata now => some (board.pollStoreAndUpdateStatus staleAfter metadata now)
  | .broadcast call => board.broadcast call

def Finished : Prop := ∀ call ∈ board.calls, call.broadcast ≠ .due
  deriving Decidable

/-- The last broadcast of a run, if there is one, is of the status that is stored then. -/
def EndsUpToDate (events : List StatusEvent) : Prop :=
  ∀ earlier call later before, events = earlier ++ .broadcast call :: later →
    (∀ event ∈ later, event.broadcasts = false) → run (step staleAfter) {} earlier = some before →
      before.calls[call]?.map StatusCall.status = before.lastStatus

variable {staleAfter} {board next last : StatusBoard} {number : Nat} {event : StatusEvent} {events : List StatusEvent}

theorem broadcast_eq_some (taken : board.broadcast number = some next) :
    ∃ previous status, board.calls[number]? = some ⟨previous, status, .due⟩ ∧
      next = { board with
        calls := board.calls.set number ⟨previous, status, .sent⟩
        delivered := board.delivered ++ [status] } := by
  unfold broadcast at taken
  split at taken
  · rename_i previous status found
    exact ⟨previous, status, found, (Option.some.inj taken).symm⟩
  · cases taken

theorem step_eq_update (quiet : event.broadcasts = false)
    (taken : board.step staleAfter event = some next) : ∃ status, next = board.update status := by
  cases event with
  | markStoreUnavailable | pollStoreAndUpdateStatus => exact ⟨_, (Option.some.inj taken).symm⟩
  | broadcast call => cases quiet

theorem calls_prefix_of_quiet (quiet : ∀ event ∈ events, event.broadcasts = false)
    (reached : run (step staleAfter) board events = some last) : board.calls <+: last.calls := by
  induction events generalizing board with
  | nil =>
    cases reached
    exact List.prefix_refl _
  | cons event events ih =>
    obtain ⟨next, taken, rest⟩ := run_cons_eq_some.1 reached
    obtain ⟨status, rfl⟩ := step_eq_update (quiet event List.mem_cons_self) taken
    refine List.IsPrefix.trans ?_ (ih (fun other member => quiet other (List.mem_cons_of_mem _ member)) rest)
    exact List.prefix_append _ _

theorem unchanged_of_quiet (quiet : ∀ event ∈ events, event.broadcasts = false)
    (reached : run (step staleAfter) board events = some last) (finished : last.Finished) :
    last.lastStatus = board.lastStatus ∧ last.delivered = board.delivered := by
  induction events generalizing board with
  | nil =>
    cases reached
    exact ⟨rfl, rfl⟩
  | cons event events ih =>
    obtain ⟨next, taken, rest⟩ := run_cons_eq_some.1 reached
    obtain ⟨status, rfl⟩ := step_eq_update (quiet event List.mem_cons_self) taken
    have later : ∀ other ∈ events, other.broadcasts = false :=
      fun other member => quiet other (List.mem_cons_of_mem _ member)
    obtain ⟨sameStatus, sameDelivered⟩ := ih later rest
    refine ⟨sameStatus.trans ?_, sameDelivered⟩
    by_cases same : board.lastStatus = some status
    · exact same.symm
    · -- the call of the update would still have to broadcast
      have member : (⟨board.lastStatus, status, .due⟩ : StatusCall) ∈ (board.update status).calls := by
        rw [update, if_neg same]
        exact List.mem_append_right _ List.mem_cons_self
      exact absurd rfl (finished _ ((calls_prefix_of_quiet later rest).subset member))

theorem exists_last_broadcast (events : List StatusEvent) :
    (∀ event ∈ events, event.broadcasts = false) ∨
      ∃ earlier call later, events = earlier ++ .broadcast call :: later ∧
        ∀ event ∈ later, event.broadcasts = false := by
  induction events with
  | nil => exact .inl fun _ member => (List.not_mem_nil member).elim
  | cons event events ih =>
    obtain quiet | ⟨earlier, call, later, rfl, quiet⟩ := ih
    · cases event with
      | broadcast call => exact .inr ⟨[], call, events, rfl, quiet⟩
      | markStoreUnavailable | pollStoreAndUpdateStatus => exact .inl (List.forall_mem_cons.2 ⟨rfl, quiet⟩)
    · exact .inr ⟨event :: earlier, call, later, rfl, quiet⟩

theorem getLast?_delivered_of_broadcast {earlier later : List StatusEvent} {call : Nat} {before : StatusBoard}
    (reached : run (step staleAfter) board (earlier ++ .broadcast call :: later) = some last)
    (quiet : ∀ event ∈ later, event.broadcasts = false) (finished : last.Finished)
    (middle : run (step staleAfter) board earlier = some before) :
    last.delivered.getLast? = before.calls[call]?.map StatusCall.status ∧ last.lastStatus = before.lastStatus := by
  obtain ⟨middleAgain, same, reached⟩ := run_append_eq_some.1 reached
  rw [middle] at same
  cases same
  obtain ⟨after, taken, rest⟩ := run_cons_eq_some.1 reached
  obtain ⟨previous, status, found, rfl⟩ := broadcast_eq_some taken
  obtain ⟨sameStatus, sameDelivered⟩ := unchanged_of_quiet quiet rest finished
  rw [sameDelivered, found, List.getLast?_concat]
  exact ⟨rfl, sameStatus⟩

theorem getLast?_delivered_eq_iff (reached : run (step staleAfter) {} events = some board)
    (finished : board.Finished) :
    board.delivered.getLast? = board.lastStatus ↔ EndsUpToDate staleAfter events := by
  constructor
  · rintro same earlier call later before rfl quiet middle
    obtain ⟨delivered, stored⟩ := getLast?_delivered_of_broadcast reached quiet finished middle
    rw [← delivered, same, stored]
  · intro upToDate
    obtain quiet | ⟨earlier, call, later, rfl, quiet⟩ := exists_last_broadcast events
    · obtain ⟨status, delivered⟩ := unchanged_of_quiet quiet reached finished
      rw [status, delivered]
      rfl
    · obtain ⟨before, middle, _⟩ := run_append_eq_some.1 reached
      obtain ⟨delivered, stored⟩ := getLast?_delivered_of_broadcast reached quiet finished middle
      rw [delivered, stored, upToDate earlier call later before rfl quiet middle]

/-- What is delivered is what the calls have sent, and a call needs no broadcast exactly if it changes nothing. -/
structure Accounted (board : StatusBoard) : Prop where
  unneeded_iff : ∀ call ∈ board.calls, call.broadcast = .unneeded ↔ call.previous = some call.status
  delivered : board.delivered.Perm ((board.calls.filter (·.broadcast = .sent)).map (·.status))

theorem Accounted.update (accounted : board.Accounted) (status : BigSegmentStoreStatus) :
    (board.update status).Accounted := by
  refine ⟨fun call member => ?_, ?_⟩
  · obtain member | member := List.mem_append.1 member
    · exact accounted.unneeded_iff call member
    · rw [List.mem_singleton.1 member]
      split <;> simp [*]
  · rw [StatusBoard.update, List.filter_append, List.filter_singleton]
    have unsent : (decide ((if board.lastStatus = some status then Broadcast.unneeded else .due) = .sent)) = false := by
      split <;> rfl
    rw [unsent, cond_false, List.append_nil]
    exact accounted.delivered

theorem Accounted.broadcast (accounted : board.Accounted) (taken : board.broadcast number = some next) :
    next.Accounted := by
  obtain ⟨previous, status, found, rfl⟩ := broadcast_eq_some taken
  obtain ⟨inRange, here⟩ := List.getElem?_eq_some_iff.1 found
  refine ⟨fun call member => ?_, ?_⟩
  · obtain member | rfl := List.mem_or_eq_of_mem_set member
    · exact accounted.unneeded_iff call member
    · exact (by simp : Broadcast.sent = .unneeded ↔ Broadcast.due = .unneeded).trans
        (accounted.unneeded_iff _ (List.mem_of_getElem? found))
  · rw [List.set_eq_take_append_cons_drop, if_pos inRange, List.filter_append, List.filter_cons_of_pos (by rfl),
      List.map_append, List.map_cons]
    have before : board.calls =
        board.calls.take number ++ ⟨previous, status, .due⟩ :: board.calls.drop (number + 1) := by
      rw [← here, List.getElem_cons_drop, List.take_append_drop]
    have sent := accounted.delivered
    rw [before, List.filter_append, List.filter_cons_of_neg (by simp), List.map_append] at sent
    exact (List.perm_append_singleton _ _).trans ((sent.cons _).trans List.perm_middle.symm)

theorem Accounted.step (accounted : board.Accounted)
    (taken : board.step staleAfter event = some next) : next.Accounted := by
  cases quiet : event.broadcasts with
  | false =>
    obtain ⟨status, rfl⟩ := step_eq_update quiet taken
    exact accounted.update status
  | true =>
    cases event with
    | broadcast call => exact accounted.broadcast taken
    | markStoreUnavailable | pollStoreAndUpdateStatus => cases quiet

/-- When all calls have finished, a listener has last heard of the stored status exactly if the last broadcast was of
the status stored then. Each call that changes the status broadcasts it once, and no other does. -/
theorem listener_up_to_date_iff (staleAfter : Int) {events : List StatusEvent} {board : StatusBoard}
    (reached : run (step staleAfter) {} events = some board) (finished : board.Finished) :
    (board.delivered.getLast? = board.lastStatus ↔ EndsUpToDate staleAfter events) ∧
      (∀ call ∈ board.calls, call.broadcast = .sent ↔ call.previous ≠ some call.status) ∧
      board.delivered.Perm ((board.calls.filter (·.broadcast = .sent)).map (·.status)) := by
  have accounted : board.Accounted :=
    run_invariant_of_step (fun accounted taken => accounted.step taken) ⟨by simp, .nil⟩ reached
  refine ⟨getLast?_delivered_eq_iff reached finished, fun call member => ?_, accounted.delivered⟩
  rw [Ne, ← accounted.unneeded_iff call member]
  have settled := finished call member
  cases phase : call.broadcast with
  | due => exact absurd phase settled
  | sent | unneeded => simp

/-- A poll finds the store up to date, a lookup fails, and the two broadcasts are made in this order or in the other. -/
def pollThenMark (first second : Nat) : List StatusEvent :=
  [.pollStoreAndUpdateStatus (.ok (some 0)) 0, .markStoreUnavailable, .broadcast first, .broadcast second]

theorem listener_up_to_date_in_order :
    ∃ board, run (step 100) {} (pollThenMark 0 1) = some board ∧ board.Finished ∧
      board.delivered.getLast? = board.lastStatus ∧ EndsUpToDate 100 (pollThenMark 0 1) := by
  refine ⟨_, rfl, by decide, by decide, ?_⟩
  exact (@listener_up_to_date_iff 100 (pollThenMark 0 1) _ rfl (by decide)).1.1 (by decide)

/-- The listener is left with a store that is available, when it is not. -/
theorem listener_out_of_date :
    ¬ ∀ (staleAfter : Int) (events : List StatusEvent) (board : StatusBoard),
      run (step staleAfter) {} events = some board → board.Finished →
        board.delivered.getLast? = board.lastStatus := by
  intro consistent
  have last := consistent 100 (pollThenMark 1 0) _ rfl (by decide)
  exact absurd last (by decide)

end StatusBoard

end FlagSdk.BigSegments
