import FlagSdk.Lib.Runs
import Mathlib.Data.Multiset.MapFold

/-! Threads that share a memory. A call starts a thread; a thread performs its tasks in order, each of them at once,
and a task may put others before what the thread has left to do. Threads take turns in any order. -/

namespace FlagSdk.Lib.Threads
open Runs

variable {Memory Call Task : Type*}

structure Pool (Memory Task : Type*) where
  memory : Memory
  threads : List (List Task) := []

inductive Move (Call : Type*) where
  | call (call : Call)
  | run (thread : Nat)
  deriving DecidableEq

def Pool.next (pool : Pool Memory Task) (thread : Nat) : Option Task := pool.threads[thread]?.bind List.head?

def Pool.tasks (pool : Pool Memory Task) : Multiset Task := pool.threads.flatten

variable (accept : Memory → Call → Option (Memory × List Task)) (perform : Memory → Task → Option (Memory × List Task))

/-- A task that cannot be performed yet blocks its thread. -/
def Pool.step (pool : Pool Memory Task) : Move Call → Option (Pool Memory Task)
  | .call call => (accept pool.memory call).map fun (memory, tasks) => ⟨memory, pool.threads ++ [tasks]⟩
  | .run thread =>
    match pool.threads[thread]? with
    | some (task :: rest) =>
      (perform pool.memory task).map fun (memory, tasks) => ⟨memory, pool.threads.set thread (tasks ++ rest)⟩
    | _ => none

variable {accept perform} {pool after : Pool Memory Task} {move : Move Call} {thread : Nat} {rest : List Task}
    {task : Task} {call : Call} {moves : List (Move Call)}

theorem flatten_set {threads : List (List Task)} (found : threads[thread]? = some (task :: rest)) :
    ∃ others : Multiset Task, (threads.flatten : Multiset Task) = task ::ₘ others ∧
      ∀ tasks : List Task, ((threads.set thread (tasks ++ rest)).flatten : Multiset Task) = tasks + others := by
  induction threads generalizing thread with
  | nil => cases found
  | cons first threads ih =>
    cases thread with
    | zero =>
      cases found
      refine ⟨(rest ++ threads.flatten : List Task), rfl, fun tasks => ?_⟩
      exact congrArg _ (List.append_assoc tasks rest threads.flatten)
    | succ thread =>
      obtain ⟨others, before, later⟩ := ih found
      refine ⟨first + others, ?_, fun tasks => ?_⟩
      · rw [List.flatten_cons, ← Multiset.coe_add, before, Multiset.add_cons]
      · rw [List.set_cons_succ, List.flatten_cons, ← Multiset.coe_add, later, ← Multiset.add_assoc,
          Multiset.add_comm (first : Multiset Task), Multiset.add_assoc]

theorem threads_call (taken : pool.step accept perform (.call call) = some after) :
    ∃ tasks, accept pool.memory call = some (after.memory, tasks) ∧ after.threads = pool.threads ++ [tasks] := by
  obtain ⟨⟨memory, tasks⟩, accepted, rfl⟩ := Option.map_eq_some_iff.1 taken
  exact ⟨tasks, accepted, rfl⟩

theorem threads_run (taken : pool.step accept perform (.run thread) = some after) :
    ∃ task rest tasks, pool.threads[thread]? = some (task :: rest) ∧
      perform pool.memory task = some (after.memory, tasks) ∧
      after.threads = pool.threads.set thread (tasks ++ rest) := by
  rw [Pool.step] at taken
  cases found : pool.threads[thread]? with
  | none =>
    rw [found] at taken
    cases taken
  | some tasks =>
    rw [found] at taken
    cases tasks with
    | nil => cases taken
    | cons task rest =>
      obtain ⟨⟨memory, tasks⟩, performed, rfl⟩ := Option.map_eq_some_iff.1 taken
      exact ⟨task, rest, tasks, rfl, performed, rfl⟩

theorem isSome_step_run
    (found : pool.threads[thread]? = some (task :: rest)) (able : (perform pool.memory task).isSome = true) :
    (pool.step accept perform (.run thread)).isSome = true := by
  rw [Pool.step, found]
  exact Option.isSome_map.trans able

theorem tasks_call (taken : pool.step accept perform (.call call) = some after) :
    ∃ tasks, accept pool.memory call = some (after.memory, tasks) ∧ after.tasks = tasks + pool.tasks := by
  obtain ⟨tasks, accepted, threads⟩ := threads_call taken
  refine ⟨tasks, accepted, ?_⟩
  rw [Pool.tasks, threads, Pool.tasks, List.flatten_append, ← Multiset.coe_add, List.flatten_singleton,
    Multiset.add_comm]

theorem tasks_run (taken : pool.step accept perform (.run thread) = some after) :
    ∃ task tasks others, pool.next thread = some task ∧ perform pool.memory task = some (after.memory, tasks) ∧
      pool.tasks = task ::ₘ others ∧ after.tasks = tasks + others := by
  obtain ⟨task, rest, tasks, found, performed, threads⟩ := threads_run taken
  obtain ⟨others, before, later⟩ := flatten_set found
  refine ⟨task, tasks, others, ?_, performed, before, ?_⟩
  · rw [Pool.next, found]
    rfl
  · rw [Pool.tasks, threads, later]

/-- The move performs a task of this kind. -/
def Performs (Kind : Memory → Task → Prop) (pool : Pool Memory Task) : Move Call → Prop
  | .call _ => False
  | .run thread => ∃ task, pool.next thread = some task ∧ Kind pool.memory task

instance (Kind : Memory → Task → Prop) [∀ memory task, Decidable (Kind memory task)] (pool : Pool Memory Task) :
    (move : Move Call) → Decidable (Performs Kind pool move)
  | .call _ => inferInstanceAs (Decidable False)
  | .run thread => inferInstanceAs (Decidable (∃ task ∈ pool.next thread, Kind pool.memory task))

variable (accept perform) in
/-- What calls and tasks keep about the memory and the tasks that are left, tasks of the excluded kind apart. -/
structure Keeps (Excluded : Memory → Task → Prop) (Inv : Memory → Multiset Task → Prop) : Prop where
  call : ∀ {memory after : Memory} {call : Call} {tasks : List Task} {others : Multiset Task}, Inv memory others →
    accept memory call = some (after, tasks) → Inv after (tasks + others)
  task : ∀ {memory after : Memory} {task : Task} {tasks : List Task} {others : Multiset Task},
    Inv memory (task ::ₘ others) → perform memory task = some (after, tasks) → ¬ Excluded memory task →
      Inv after (tasks + others)

variable {Excluded : Memory → Task → Prop} {Inv : Memory → Multiset Task → Prop}

theorem Keeps.step (keeps : Keeps accept perform Excluded Inv) (inv : Inv pool.memory pool.tasks)
    (excludes : ¬ Performs Excluded pool move) (taken : pool.step accept perform move = some after) :
    Inv after.memory after.tasks := by
  cases move with
  | call call =>
    obtain ⟨tasks, accepted, left⟩ := tasks_call taken
    rw [left]
    exact keeps.call inv accepted
  | run thread =>
    obtain ⟨task, tasks, others, next, performed, before, left⟩ := tasks_run taken
    rw [left]
    rw [before] at inv
    exact keeps.task inv performed fun excluded => excludes ⟨task, next, excluded⟩

theorem Keeps.run (keeps : Keeps accept perform Excluded Inv) (inv : Inv pool.memory pool.tasks)
    (excludes : Along (Pool.step accept perform) (fun pool move => ¬ Performs Excluded pool move) pool moves)
    (reached : Runs.run (Pool.step accept perform) pool moves = some after) : Inv after.memory after.tasks :=
  @run_invariant _ _ _ _ _ (fun pool : Pool Memory Task => Inv pool.memory pool.tasks) _ _ keeps.step inv excludes
    reached

theorem not_performs_false (pool : Pool Memory Task) (move : Move Call) : ¬ Performs (fun _ _ => False) pool move := by
  intro performs
  cases move with
  | call call => exact performs
  | run thread =>
    obtain ⟨_, _, excluded⟩ := performs
    exact excluded

/-- What all calls and all tasks keep holds at the end of every run. -/
theorem Keeps.run_all (keeps : Keeps accept perform (fun _ _ => False) Inv)
    (inv : Inv pool.memory pool.tasks) (reached : Runs.run (Pool.step accept perform) pool moves = some after) :
    Inv after.memory after.tasks :=
  keeps.run inv (Along.of_mem fun move _ pool => not_performs_false pool move) reached

theorem along_or_kept {Bad : Memory → Task → Prop} {After : Memory → Multiset Task → Prop}
    (keeps : Keeps accept perform (fun _ _ => False) Inv)
    (breaks : ∀ {memory after : Memory} {task : Task} {tasks : List Task} {others : Multiset Task},
      Inv memory (task ::ₘ others) → Bad memory task → perform memory task = some (after, tasks) →
        After after (tasks + others))
    (stays : Keeps accept perform (fun _ _ => False) After)
    (inv : Inv pool.memory pool.tasks) (reached : Runs.run (Pool.step accept perform) pool moves = some after) :
    Along (Pool.step accept perform) (fun pool move => ¬ Performs Bad pool move) pool moves ∨
      After after.memory after.tasks := by
  refine @along_or_after _ _ _ _ _ (fun pool : Pool Memory Task => Inv pool.memory pool.tasks) _ _
    (fun pool : Pool Memory Task => After pool.memory pool.tasks)
    (fun inv taken => keeps.step inv (not_performs_false _ _) taken) (fun {pool next move} inv bad taken => ?_)
    (fun kept taken => stays.step kept (not_performs_false _ _) taken) inv reached
  cases move with
  | call call => cases bad
  | run thread =>
    obtain ⟨task, first, bad⟩ := bad
    obtain ⟨performed, tasks, others, next, done, before, left⟩ := tasks_run taken
    cases first.symm.trans next
    rw [left]
    rw [before] at inv
    exact breaks inv bad done

end FlagSdk.Lib.Threads
