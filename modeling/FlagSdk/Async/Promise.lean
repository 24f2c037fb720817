import FlagSdk.Lib.Threads

/-! The promise behind every asynchronous result. `Resolve` and `Then` hold the lock only while they look at the shared
state. What they give to executors is given after that, when other threads may have had their turn. -/

namespace FlagSdk.Async
open Lib.Runs Lib.Threads

variable {T : Type*}

/-- The continuations are numbered in the order of the calls of `Then`. The last three fields are history. -/
structure PromiseInternal (T : Type*) where
  result : Option T := none
  continuations : List Nat := []
  registered : Nat := 0
  /-- The continuations that were given to their executors, each with the value it is for. -/
  scheduled : List (Nat × T) := []
  /-- The values that `Resolve` was called with, and what it returns. -/
  resolutions : List (T × Bool) := []

inductive Call (T : Type*) where
  | resolve (result : T)
  | andThen

inductive Task (T : Type*) where
  /-- The loop of `Resolve` calls a continuation with the stored result. -/
  | call (continuation : Nat)
  /-- `Then` has found a result, and uses a copy of it. -/
  | execute (continuation : Nat) (result : T)

def Task.continuation : Task T → Nat
  | .call continuation => continuation
  | .execute continuation _ => continuation

namespace PromiseInternal

variable (promise : PromiseInternal T)

def schedule (continuation : Nat) (result : T) : PromiseInternal T :=
  { promise with scheduled := promise.scheduled ++ [(continuation, result)] }

/-- The locked section of a call, and what its thread does after it. -/
def accept : Call T → Option (PromiseInternal T × List (Task T))
  | .resolve result =>
    match promise.result with
    | some _ => some ({ promise with resolutions := promise.resolutions ++ [(result, false)] }, [])
    | none =>
      some ({ promise with
        result := some result
        continuations := []
        resolutions := promise.resolutions ++ [(result, true)] }, promise.continuations.map .call)
  | .andThen =>
    let continuation := promise.registered
    let promise := { promise with registered := continuation + 1 }
    match promise.result with
    | some result => some (promise, [.execute continuation result])
    | none => some ({ promise with continuations := promise.continuations ++ [continuation] }, [])

/-- No result stands for undefined behavior: the stored result is read where there is none. -/
def perform : Task T → Option (PromiseInternal T × List (Task T))
  | .call continuation => promise.result.map fun result => (promise.schedule continuation result, [])
  | .execute continuation result => some (promise.schedule continuation result, [])

end PromiseInternal

/-- Without a result, every continuation waits. With one, each is about to be given to its executor or was. -/
inductive Delivers : PromiseInternal T → Multiset (Task T) → Prop
  | waiting (registered : Nat) : Delivers ⟨none, List.range registered, registered, [], []⟩ 0
  | resolved {result : T} {registered : Nat} {scheduled : List (Nat × T)} {later : List (T × Bool)}
      {tasks : Multiset (Task T)} (rejected : ∀ resolution ∈ later, resolution.2 = false)
      (values : ∀ entry ∈ scheduled, entry.2 = result)
      (copies : ∀ continuation other, .execute continuation other ∈ tasks → other = result)
      (once : tasks.map Task.continuation + (scheduled.map Prod.fst : List Nat) = (List.range registered : List Nat)) :
    Delivers ⟨some result, [], registered, scheduled, (result, true) :: later⟩ tasks

/-- What the callers of a promise rely on. The first value is kept, and its call alone returns true. -/
structure Correct (promise : PromiseInternal T) (tasks : Multiset (Task T)) : Prop where
  first : ∀ resolution later, promise.resolutions = resolution :: later →
    promise.result = some resolution.1 ∧ resolution.2 = true ∧ ∀ other ∈ later, other.2 = false
  once : (promise.scheduled.map Prod.fst).Nodup
  value : ∀ entry ∈ promise.scheduled, promise.result = some entry.2
  all : tasks = 0 → promise.result.isSome = true →
    (promise.scheduled.map Prod.fst).Perm (List.range promise.registered)
  defined : ∀ task ∈ tasks, (promise.perform task).isSome = true

variable {promise after : PromiseInternal T} {others : Multiset (Task T)}

theorem Delivers.correct (delivers : Delivers promise others) : Correct promise others := by
  cases delivers with
  | waiting registered =>
    exact ⟨fun _ _ none => (by cases none), List.nodup_nil, fun _ none => absurd none List.not_mem_nil,
      fun _ none => (by cases none), fun _ none => absurd none (Multiset.notMem_zero _)⟩
  | resolved rejected values copies once =>
    refine ⟨fun _ _ same => ?_, ?_, fun entry member => ?_, fun done _ => ?_, fun task _ => ?_⟩
    · cases same
      exact ⟨rfl, rfl, rejected⟩
    · have inside := once ▸ Multiset.le_add_left _ _
      exact Multiset.coe_nodup.1 (Multiset.nodup_of_le inside (Multiset.coe_nodup.2 List.nodup_range))
    · rw [values entry member]
    · rw [done, Multiset.map_zero, Multiset.zero_add] at once
      exact Multiset.coe_eq_coe.1 once
    · cases task <;> rfl

theorem Delivers.accept {tasks : List (Task T)} {call : Call T} (delivers : Delivers promise others)
    (accepted : promise.accept call = some (after, tasks)) : Delivers after (tasks + others) := by
  cases delivers with
  | waiting registered =>
    cases call with
    | resolve result =>
      cases accepted
      refine .resolved (fun _ none => absurd none List.not_mem_nil) (fun _ none => absurd none List.not_mem_nil) ?_ ?_
      · intro continuation other member
        simp at member
      · simp [Task.continuation, Function.comp_def]
    | andThen =>
      cases accepted
      have next := @waiting T (registered + 1)
      rwa [List.range_succ] at next
  | resolved rejected values copies once =>
    cases call with
    | resolve result =>
      cases accepted
      refine .resolved (fun resolution member => ?_) values (by simpa using copies) (by simpa using once)
      obtain earlier | last := List.mem_append.1 member
      · exact rejected resolution earlier
      · rw [List.mem_singleton.1 last]
    | andThen =>
      cases accepted
      refine .resolved rejected values (fun continuation other member => ?_) ?_
      · obtain new | old := Multiset.mem_add.1 member
        · cases List.mem_singleton.1 (Multiset.mem_coe.1 new)
          rfl
        · exact copies continuation other old
      · rw [Multiset.map_add, Multiset.add_assoc, once, List.range_succ, ← Multiset.coe_add, Multiset.add_comm]
        rfl

theorem Delivers.perform {task : Task T} (delivers : Delivers promise (task ::ₘ others)) :
    ∃ result, promise.perform task = some (promise.schedule task.continuation result, []) ∧
      Delivers (promise.schedule task.continuation result) others := by
  generalize all : task ::ₘ others = tasks at delivers
  cases delivers with
  | waiting => exact absurd all.symm Multiset.zero_ne_cons
  | @resolved result _ _ _ _ rejected values copies once =>
    subst all
    refine ⟨result, ?_, .resolved rejected (fun entry member => ?_) (fun continuation other member => ?_) ?_⟩
    · cases task with
      | call continuation => rfl
      | execute continuation other =>
        cases copies continuation other (Multiset.mem_cons_self _ _)
        rfl
    · obtain earlier | last := List.mem_append.1 member
      · exact values entry earlier
      · rw [List.mem_singleton.1 last]
    · exact copies continuation other (Multiset.mem_cons_of_mem member)
    · rw [← once, Multiset.map_cons, List.map_append, ← Multiset.coe_add, ← Multiset.add_assoc, Multiset.cons_add,
        Multiset.add_comm]
      rfl

theorem keeps_delivers : Keeps PromiseInternal.accept PromiseInternal.perform (fun _ _ => False) (@Delivers T) where
  call delivers accepted := delivers.accept accepted
  task delivers performed _ := by
    obtain ⟨_, done, delivered⟩ := delivers.perform
    cases done.symm.trans performed
    simpa using delivered

/-- However calls of `Resolve` and `Then` interleave, each continuation is given to its executor once and with the first
value, and no thread reads a result that is not there. -/
theorem continuations_delivered (moves : List (Move (Call T))) (pool : Pool (PromiseInternal T) (Task T))
    (reached : run (Pool.step PromiseInternal.accept PromiseInternal.perform) ⟨{}, []⟩ moves = some pool) :
    Correct pool.memory pool.tasks :=
  (keeps_delivers.run_all (.waiting 0) reached).correct

/-- One continuation waits for the value, and another one comes with it. -/
def resolvedTwice : List (Move (Call Nat)) :=
  [.call .andThen, .call (.resolve 1), .call .andThen, .call (.resolve 2), .run 2, .run 1]

theorem continuations_delivered_twice :
    ∃ pool, run (Pool.step PromiseInternal.accept PromiseInternal.perform) ⟨{}, []⟩ resolvedTwice = some pool ∧
      pool.memory.scheduled = [(1, 1), (0, 1)] ∧ Correct pool.memory pool.tasks :=
  ⟨_, rfl, rfl, continuations_delivered resolvedTwice _ rfl⟩

end FlagSdk.Async
