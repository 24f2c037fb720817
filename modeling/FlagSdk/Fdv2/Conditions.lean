import FlagSdk.Fdv2.System
import FlagSdk.Lib.Threads

/-! The conditions of a synchronizer, for any number of threads. A locked section, the resolution of a promise and the
start of a callback are tasks that happen at once; everything that comes between two of them in a function of the
source, or in a continuation that runs inline, is a place where another thread may take its turn. -/

namespace FlagSdk.Fdv2
open Lib.Threads

inductive ConditionFactory where
  | fallback
  | recovery
  deriving DecidableEq

def ConditionFactory.build : ConditionFactory → TimedCondition
  | .fallback => .fallbackCondition
  | .recovery => .recoveryCondition

/-- What a cancellation source shares with its tokens. A callback has the number of the request that registers it. -/
structure CancellationState where
  cancelled : Bool := false
  callbacks : List Nat := []
  executing : Option Nat := none
  deriving DecidableEq

namespace Conditions

/-- A call of `GetFuture` that has got its future. A token may have no source. -/
structure Request where
  token : Option Nat
  future : Option ConditionType
  deriving DecidableEq

/-- Entries are made only until there is an aggregate result, so the number of the request serves as the id. -/
structure PendingEntry where
  id : Nat
  cancelCb : Bool
  deriving DecidableEq

structure Memory where
  conditions : List TimedCondition
  promises : List (Option ConditionType)
  /-- The index that `WhenAny` resolved with. -/
  winner : Option Nat := none
  aggregateResult : Option ConditionType := none
  pending : List PendingEntry := []
  requests : List Request := []
  sources : Nat → CancellationState := fun _ => {}
  /-- The types of the conditions whose promise a timer resolved, oldest first. -/
  fired : List ConditionType := []
  /-- `Close` has been called. -/
  closeCalled : Bool := false

inductive Call where
  | getFuture (token : Option Nat)
  | cancel (source : Nat)
  /-- The handler of a timer runs: it fired normally, or it was aborted. -/
  | timer (condition delay : Nat) (firedNormally : Bool)
  | inform (result : FDv2SourceResult)
  | close
  deriving DecidableEq

inductive Task where
  | getFuture (token : Option Nat)
  | register (id : Nat)
  /-- The body of the cancellation callback. -/
  | erase (id : Nat)
  | attach (id : Nat)
  | deregister (id : Nat)
  | cancel (source : Nat)
  /-- The loop over the callbacks of a source that has been cancelled. -/
  | callbacks (source : Nat)
  | executed (source : Nat)
  | fire (condition : Nat) (type : ConditionType)
  /-- The continuation of `WhenAny` on the future of a condition. -/
  | notice (condition : Nat)
  /-- The continuation of the aggregate future. -/
  | announce (type : ConditionType)
  | resolve (id : Nat) (type : ConditionType)
  | inform (condition : Nat) (result : FDv2SourceResult)
  | closeCondition (condition : Nat)
  | cancelPromise (condition : Nat)
  | close
  deriving DecidableEq

namespace Memory
variable (memory : Memory)

/-- A timer that was cancelled may still fire normally, because its cancellation is posted work. -/
def accept : Call → Option (Memory × List Task)
  | .getFuture token => some (memory, [.getFuture token])
  | .cancel source => some (memory, [.cancel source])
  | .timer index delay firedNormally => do
    let condition ← memory.conditions[index]?
    let timer ← condition.timers[delay]?
    if firedNormally || timer.cancelled then
      some ({ memory with
        conditions := memory.conditions.set index { condition with timers := condition.timers.eraseIdx delay } },
        if firedNormally then [.fire index condition.type] else [])
    else none
  | .inform result => some (memory, (List.range memory.conditions.length).map fun index => .inform index result)
  | .close =>
    some ({ memory with closeCalled := true }, (List.range memory.conditions.length).map .closeCondition ++ [.close])

variable (id : Nat)

def token : Option Nat := memory.requests[id]?.bind Request.token

def isCancelled (token : Option Nat) : Bool := token.any fun source => (memory.sources source).cancelled

variable (source : Nat)

def setSource (state : CancellationState) : Memory :=
  { memory with sources := Function.update memory.sources source state }

def getFuture (token : Option Nat) : Memory × List Task :=
  match memory.aggregateResult with
  | some type => ({ memory with requests := memory.requests ++ [⟨token, some type⟩] }, [])
  | none =>
    ({ memory with
      requests := memory.requests ++ [⟨token, none⟩]
      pending := memory.pending ++ [⟨memory.requests.length, false⟩] }, [.register memory.requests.length])

/-- A callback for a source that is cancelled already runs inside the registration. -/
def register : Memory × List Task :=
  match memory.token id with
  | none => (memory, [.attach id])
  | some source =>
    let state := memory.sources source
    if state.cancelled then (memory, [.erase id, .attach id])
    else (memory.setSource source { state with callbacks := state.callbacks ++ [id] }, [.attach id])

def erase : Memory := { memory with pending := memory.pending.filter fun entry => entry.id ≠ id }

/-- A callback whose entry is gone is dropped. -/
def attach : Memory × List Task :=
  if memory.pending.any fun entry => entry.id = id then
    ({ memory with
      pending := memory.pending.map fun entry => if entry.id = id then { entry with cancelCb := true } else entry }, [])
  else (memory, [.deregister id])

/-- The destruction of a callback waits until another thread has executed it. -/
def deregister : Option Memory :=
  match memory.token id with
  | none => some memory
  | some source =>
    let state := memory.sources source
    if state.executing = some id then none
    else some (memory.setSource source { state with callbacks := state.callbacks.erase id })

def cancel : Memory × List Task :=
  let state := memory.sources source
  if state.cancelled then (memory, [])
  else (memory.setSource source { state with cancelled := true }, [.callbacks source])

def callbacks (source : Nat) : Memory × List Task :=
  let state := memory.sources source
  match state.callbacks with
  | [] => (memory, [])
  | id :: callbacks =>
    (memory.setSource source { state with callbacks, executing := some id },
      [.erase id, .executed source, .callbacks source])

def executed : Memory :=
  memory.setSource source { memory.sources source with executing := none }

variable (index : Nat) (type : ConditionType)

/-- The first of those who resolve a promise runs its continuation. -/
def resolvePromise : Memory × List Task :=
  match memory.promises[index]? with
  | some none => ({ memory with promises := memory.promises.set index (some type) }, [.notice index])
  | _ => (memory, [])

def fire : Memory × List Task :=
  match memory.promises[index]? with
  | some none => { memory with fired := memory.fired ++ [type] }.resolvePromise index type
  | _ => (memory, [])

def notice : Memory × List Task :=
  match memory.winner, memory.promises[index]? with
  | none, some (some type) => ({ memory with winner := some index }, [.announce type])
  | _, _ => (memory, [])

/-- The promises of the entries are resolved, and then the entries are destroyed with their callbacks. -/
def drained : List Task :=
  (memory.pending.map fun entry => .resolve entry.id type) ++
    ((memory.pending.filter PendingEntry.cancelCb).map fun entry => .deregister entry.id)

/-- The aggregate result is written over what is there. -/
def announce : Memory × List Task :=
  ({ memory with aggregateResult := some type, pending := [] }, memory.drained type)

def resolve (type : ConditionType) : Memory :=
  { memory with
    requests := memory.requests.modify id fun request => { request with future := request.future.or (some type) } }

def inform (result : FDv2SourceResult) : Memory :=
  { memory with conditions := memory.conditions.modify index fun condition => condition.inform result }

def closeCondition : Memory × List Task :=
  ({ memory with conditions := memory.conditions.modify index TimedCondition.close },
    if memory.conditions[index]?.any fun condition => !condition.closed then [.cancelPromise index] else [])

def close : Memory × List Task :=
  ({ memory with aggregateResult := memory.aggregateResult.or (some .cancelled), pending := [] },
    memory.drained .cancelled)

def perform : Task → Option (Memory × List Task)
  | .getFuture token => some (memory.getFuture token)
  | .register id => some (memory.register id)
  | .erase id => some (memory.erase id, [])
  | .attach id => some (memory.attach id)
  | .deregister id => (memory.deregister id).map fun after => (after, [])
  | .cancel source => some (memory.cancel source)
  | .callbacks source => some (memory.callbacks source)
  | .executed source => some (memory.executed source, [])
  | .fire index type => some (memory.fire index type)
  | .notice index => some (memory.notice index)
  | .announce type => some (memory.announce type)
  | .resolve id type => some (memory.resolve id type, [])
  | .inform index result => some (memory.inform index result, [])
  | .closeCondition index => some (memory.closeCondition index)
  | .cancelPromise index => some (memory.resolvePromise index .cancelled)
  | .close => some memory.close

def new (factories : List ConditionFactory) : Memory where
  conditions := factories.map ConditionFactory.build
  promises := factories.map fun _ => none

end Memory

theorem Memory.getFuture_of_some {memory : Memory} {type : ConditionType}
    (result : memory.aggregateResult = some type) (token : Option Nat) :
    memory.getFuture token = ({ memory with requests := memory.requests ++ [⟨token, some type⟩] }, []) := by
  rw [getFuture, result]

theorem Memory.getFuture_of_none {memory : Memory} (result : memory.aggregateResult = none) (token : Option Nat) :
    memory.getFuture token = ({ memory with
      requests := memory.requests ++ [⟨token, none⟩]
      pending := memory.pending ++ [⟨memory.requests.length, false⟩] }, [.register memory.requests.length]) := by
  rw [getFuture, result]

abbrev step : Pool Memory Task → Move Call → Option (Pool Memory Task) := Pool.step Memory.accept Memory.perform

end Conditions

end FlagSdk.Fdv2
