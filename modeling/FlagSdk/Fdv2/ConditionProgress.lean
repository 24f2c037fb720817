import FlagSdk.Fdv2.ConditionEntries

/-! The threads of the conditions do not wait for each other for ever. Only the destruction of a callback waits, for a
thread that executes the callback, and that thread goes on. -/

namespace FlagSdk.Fdv2.Conditions
open Lib.Runs Lib.Threads

namespace Memory
variable {memory after : Memory} {task : Task} {tasks : List Task}

theorem perform_eq_none (blocked : memory.perform task = none) :
    ∃ id source, task = .deregister id ∧ (memory.sources source).executing = some id := by
  cases task with
  | deregister id =>
    have blocked : memory.deregister id = none := Option.map_eq_none_iff.1 blocked
    unfold deregister at blocked
    split at blocked
    · cases blocked
    · dsimp only at blocked
      split at blocked
      case isTrue executing => exact ⟨id, _, rfl, executing⟩
      case isFalse => cases blocked
  | _ => cases blocked

theorem executing_setSource {source : Nat} {state : CancellationState}
    (same : state.executing = (memory.sources source).executing) (other : Nat) :
    ((memory.setSource source state).sources other).executing = (memory.sources other).executing := by
  by_cases here : other = source
  · cases here
    rw [sources_setSource_self, same]
  · rw [sources_setSource_ne here]

theorem Does.executing (does : memory.Does task after tasks) (source : Nat) :
    (after.sources source).executing = (memory.sources source).executing ∨
      (∃ id, tasks = [.erase id, .executed source, .callbacks source]) ∨
      (after.sources source).executing = none := by
  cases does with
  | register | deregister | cancel => exact .inl (executing_setSource (by rfl) source)
  | callback here id =>
    by_cases same : source = here
    · cases same
      exact .inr (.inl ⟨id, rfl⟩)
    · exact .inl (by rw [sources_setSource_ne same])
  | executed here =>
    by_cases same : source = here
    · cases same
      exact .inr (.inr (by rw [Memory.executed, sources_setSource_self]))
    · exact .inl (by rw [Memory.executed, sources_setSource_ne same])
  | _ => exact .inl rfl

end Memory

def executes (source : Nat) (tasks : List Task) : Prop :=
  ∃ rest, tasks = .executed source :: rest ∨ ∃ id, tasks = .erase id :: .executed source :: rest

/-- Every callback that is being executed is at the front of a thread. -/
def Executing (pool : Pool Memory Task) : Prop :=
  ∀ source, (pool.memory.sources source).executing.isSome = true →
    ∃ tasks ∈ pool.threads, executes source tasks

theorem Executing.step {pool after : Pool Memory Task} {move : Move Call} (executing : Executing pool)
    (taken : Conditions.step pool move = some after) : Executing after := by
  intro source busy
  cases move with
  | call call =>
    obtain ⟨tasks, accepted, threads⟩ := threads_call taken
    obtain ⟨-, -, sources, -⟩ := (Memory.accept_starts accepted).aside
    rw [sources] at busy
    obtain ⟨front, member, executes⟩ := executing source busy
    exact ⟨front, threads ▸ List.mem_append_left _ member, executes⟩
  | run thread =>
    obtain ⟨task, rest, tasks, found, performed, threads⟩ := threads_run taken
    have inside : thread < pool.threads.length := (List.getElem?_eq_some_iff.1 found).1
    have here : tasks ++ rest ∈ after.threads := threads ▸ List.mem_set inside _
    obtain same | ⟨id, rfl⟩ | none := (Memory.perform_does performed).executing source
    · obtain ⟨front, member, rest', executes⟩ := executing source (same ▸ busy)
      obtain ⟨index, there⟩ := List.mem_iff_getElem?.1 member
      by_cases other : index = thread
      · -- The thread that executes the callback is the one that took its turn.
        cases other
        cases found.symm.trans there
        obtain executed | ⟨id, erases⟩ := executes
        · cases executed
          obtain ⟨memory, -⟩ := Prod.mk.inj (Option.some.inj performed)
          rw [← memory, Memory.executed, Memory.sources_setSource_self] at busy
          cases busy
        · cases erases
          obtain ⟨-, rfl⟩ := Prod.mk.inj (Option.some.inj performed)
          exact ⟨_, here, _, .inl rfl⟩
      · refine ⟨front, ?_, rest', executes⟩
        rw [threads]
        refine List.mem_iff_getElem?.2 ⟨index, ?_⟩
        rw [List.getElem?_set_ne (Ne.symm other)]
        exact there
    · exact ⟨_, here, _, .inr ⟨id, rfl⟩⟩
    · rw [none] at busy
      cases busy

theorem executing_of_run {factories : List ConditionFactory} {moves : List (Move Call)} {pool : Pool Memory Task}
    (reached : run step ⟨Memory.new factories, []⟩ moves = some pool) : Executing pool := by
  refine run_invariant_of_step Executing.step (fun source busy => ?_) reached
  cases busy

theorem Executing.alive {pool : Pool Memory Task} (executing : Executing pool) (left : pool.tasks ≠ 0) :
    ∃ thread, (Conditions.step pool (.run thread)).isSome = true := by
  obtain ⟨task, member⟩ := Multiset.exists_mem_of_ne_zero left
  obtain ⟨tasks, there, inside⟩ := List.mem_flatten.1 (Multiset.mem_coe.1 member)
  obtain ⟨thread, found⟩ := List.mem_iff_getElem?.1 there
  obtain ⟨first, rest, rfl⟩ := List.exists_cons_of_ne_nil (List.ne_nil_of_mem inside)
  cases able : pool.memory.perform first with
  | some performed => exact ⟨thread, isSome_step_run found (by rw [able]; rfl)⟩
  | none =>
    obtain ⟨id, source, rfl, busy⟩ := Memory.perform_eq_none able
    obtain ⟨front, member, later, executes⟩ := executing source (busy ▸ rfl)
    obtain ⟨other, found⟩ := List.mem_iff_getElem?.1 member
    refine ⟨other, ?_⟩
    obtain rfl | ⟨_, rfl⟩ := executes
    · refine isSome_step_run found ?_
      rfl
    · refine isSome_step_run found ?_
      rfl

end FlagSdk.Fdv2.Conditions
