import FlagSdk.Fdv2.ConditionSteps

/-! How the aggregate result of the conditions comes about. A timer or `Close` resolves the promise of a condition,
`WhenAny` takes the first of them that it notices, and the continuation announces its type. -/

namespace FlagSdk.Fdv2.Conditions
open Lib.Threads

namespace Task

def decides : Task → Bool
  | .notice _ | .announce _ | .close => true
  | _ => false

def announced : Task → Option ConditionType
  | .announce type => some type
  | _ => none

theorem undecisive_of_optional {task : Task} (optional : task.optional = true) :
    task.decides = false ∧ task.announced = none := by
  cases task with
  | deregister | cancel | fire | cancelPromise => exact ⟨rfl, rfl⟩
  | _ => cases optional

end Task

namespace Memory
variable (memory : Memory)

/-- The aggregate result is not set, or only by `Close`. -/
def Unset : Prop :=
  memory.aggregateResult = none ∨ memory.aggregateResult = some .cancelled ∧ memory.closeCalled = true

/-- How far the aggregate result has come, with the types that are still to be announced. -/
inductive Phase (announcements : Multiset ConditionType) : Prop
  | undecided (idle : announcements = 0) (winner : memory.winner = none) (unset : memory.Unset)
  | announcing (index : Nat) (type : ConditionType) (busy : announcements = {type})
    (winner : memory.winner = some index) (promised : memory.Promised index type) (unset : memory.Unset)
  | announced (index : Nat) (type : ConditionType) (idle : announcements = 0) (winner : memory.winner = some index)
    (promised : memory.Promised index type) (result : memory.aggregateResult = some type)

structure Decided (tasks : Multiset Task) : Prop where
  phase : memory.Phase (tasks.filterMap Task.announced)
  types : ∀ type ∈ memory.conditions.map TimedCondition.type, type ≠ .cancelled
  promised : ∀ index type, memory.Promised index type →
    type = .cancelled ∧ memory.closeCalled = true ∨ type ≠ .cancelled ∧ memory.fired ≠ []
  noticed : ∀ index type, memory.Promised index type →
    memory.winner.isSome = true ∨ ∃ index, .notice index ∈ tasks
  fired : memory.fired ≠ [] → ∃ index type, memory.Promised index type
  closed : memory.closeCalled = true → memory.aggregateResult.isSome = true ∨ .close ∈ tasks

variable {memory} {after : Memory} {task : Task} {tasks : List Task} {others : Multiset Task}

theorem Phase.advance {announcements : Multiset ConditionType} (phase : memory.Phase announcements)
    (advances : Advances memory after) (winner : after.winner = memory.winner)
    (result : after.aggregateResult = memory.aggregateResult) : after.Phase announcements := by
  have still (unset : memory.Unset) : after.Unset := by
    rw [Unset, result]
    exact unset.imp_right (And.imp_right advances.closeCalled)
  cases phase with
  | undecided idle none unset => exact .undecided idle (winner.trans none) (still unset)
  | announcing index type busy won promised unset =>
    exact .announcing index type busy (winner.trans won) (advances.promised index type promised) (still unset)
  | announced index type idle won promised known =>
    exact .announced index type idle (winner.trans won) (advances.promised index type promised) (result.trans known)

theorem Does.undecisive (does : memory.Does task after tasks) (other : task.decides = false) :
    after.winner = memory.winner ∧ after.aggregateResult = memory.aggregateResult ∧
      task.announced = none ∧ ∀ task ∈ tasks, task.announced = none := by
  cases does with
  | notice | noticeLate | announce | close => cases other
  | closeCondition index tasks closes => exact ⟨rfl, rfl, rfl, fun task member => closes task member ▸ rfl⟩
  | skip task optional => exact ⟨rfl, rfl, (Task.undecisive_of_optional optional).2, by simp⟩
  | _ => exact ⟨rfl, rfl, rfl, by simp [Task.announced]⟩

theorem filterMap_announce (type : ConditionType) (others : Multiset Task) :
    (Task.announce type ::ₘ others).filterMap Task.announced = type ::ₘ others.filterMap Task.announced :=
  Multiset.filterMap_cons_some Task.announced (.announce type) others rfl

theorem announced_drained (memory : Memory) (type : ConditionType) :
    ∀ task ∈ memory.drained type, task.announced = none := by
  simp only [drained, List.mem_append, List.mem_map]
  rintro task (⟨entry, -, rfl⟩ | ⟨entry, -, rfl⟩) <;> rfl

theorem Decided.unset {type : ConditionType} (decided : memory.Decided (.announce type ::ₘ others)) :
    ∃ index, others.filterMap Task.announced = 0 ∧ memory.winner = some index ∧ memory.Promised index type ∧
      memory.Unset := by
  have phase := decided.phase
  rw [filterMap_announce] at phase
  cases phase with
  | undecided idle | announced _ _ idle => cases Multiset.cons_ne_zero idle
  | announcing index known busy winner promised unset =>
    obtain ⟨rfl, idle⟩ := (Multiset.singleton_eq_cons_iff _).1 busy.symm
    exact ⟨index, idle, winner, promised, unset⟩

theorem Decided.phase_does (decided : memory.Decided (task ::ₘ others)) (fits : task.Fits memory)
    (does : memory.Does task after tasks) :
    after.Phase ((tasks + others : Multiset Task).filterMap Task.announced) := by
  have advances := does.advances
  cases decides : task.decides with
  | false =>
    obtain ⟨winner, result, quiet, coming⟩ := does.undecisive decides
    have phase := decided.phase
    rw [Multiset.filterMap_cons_none _ _ quiet] at phase
    rw [filterMap_quiet coming]
    exact phase.advance advances winner result
  | true =>
    cases does with
    | notice index type none promised =>
      have phase := decided.phase
      rw [Multiset.filterMap_cons_none _ _ rfl] at phase
      rw [Multiset.coe_singleton, Multiset.singleton_add, filterMap_announce]
      cases phase with
      | undecided idle _ unset => exact .announcing index type (by rw [idle]; rfl) rfl promised unset
      | announcing _ _ _ won | announced _ _ _ won => cases none.symm.trans won
    | noticeLate index =>
      have phase := decided.phase
      rw [Multiset.filterMap_cons_none _ _ rfl] at phase
      rwa [Multiset.coe_nil, Multiset.zero_add]
    | announce type =>
      obtain ⟨index, idle, winner, promised, -⟩ := decided.unset
      rw [filterMap_quiet (announced_drained memory type), idle]
      exact .announced index type rfl winner promised rfl
    | close =>
      have phase := decided.phase
      rw [Multiset.filterMap_cons_none _ _ rfl] at phase
      rw [filterMap_quiet (announced_drained memory .cancelled)]
      cases result : memory.aggregateResult with
      | some known => exact phase.advance advances rfl (by rw [Memory.close, result]; rfl)
      | none =>
        have unset : memory.close.1.Unset := .inr ⟨by rw [Memory.close, result]; rfl, fits⟩
        cases phase with
        | undecided idle winner => exact .undecided idle winner unset
        | announcing index type busy winner promised => exact .announcing index type busy winner promised unset
        | announced _ _ _ _ _ set => cases result.symm.trans set
    | skip task optional => cases (Task.undecisive_of_optional optional).1.symm.trans decides
    | _ => cases decides

theorem Decided.does (decided : memory.Decided (task ::ₘ others)) (fits : task.Fits memory)
    (does : memory.Does task after tasks) : after.Decided (tasks + others) := by
  have advances := does.advances
  refine ⟨decided.phase_does fits does, advances.types ▸ decided.types, ?_, ?_, ?_, ?_⟩
  · intro index type promised
    cases does with
    | fire here fired unresolved =>
      obtain ⟨-, rfl⟩ | before := (promised_set unresolved rfl).1 promised
      · exact .inr ⟨fits, by simp⟩
      · exact (decided.promised index type before).imp_right (And.imp_right fun _ => by simp)
    | cancelPromise here unresolved =>
      obtain ⟨-, rfl⟩ | before := (promised_set unresolved rfl).1 promised
      · exact .inl ⟨rfl, fits⟩
      · exact decided.promised index type before
    | _ => exact decided.promised index type promised
  · intro index type promised
    cases does with
    | fire | cancelPromise => exact .inr ⟨_, Multiset.mem_add.2 (.inl List.mem_cons_self)⟩
    | notice => exact .inl rfl
    | noticeLate here late =>
      obtain ⟨known, before⟩ := fits
      exact .inl (late.resolve_right fun missing => missing known before)
    | skip task optional =>
      refine (decided.noticed index type promised).imp_right fun ⟨other, member⟩ => ⟨other, mem_later member ?_⟩
      rintro rfl
      cases optional
    | _ =>
      refine (decided.noticed index type promised).imp_right fun ⟨other, member⟩ => ⟨other, mem_later member ?_⟩
      exact Task.noConfusion
  · intro fired
    cases does with
    | fire here type unresolved => exact ⟨here, type, (promised_set unresolved rfl).2 (.inl ⟨rfl, rfl⟩)⟩
    | _ =>
      obtain ⟨index, type, promised⟩ := decided.fired fired
      exact ⟨index, type, advances.promised index type promised⟩
  · intro called
    cases does with
    | announce => exact .inl rfl
    | close => exact .inl (by rw [Memory.close]; cases memory.aggregateResult <;> rfl)
    | skip task optional =>
      refine (decided.closed called).imp_right fun member => mem_later member ?_
      rintro rfl
      cases optional
    | _ => exact (decided.closed called).imp_right fun member => mem_later member Task.noConfusion

theorem Decided.starts {call : Call} (decided : memory.Decided others) (starts : memory.Starts call after tasks) :
    after.Decided (tasks + others) := by
  have advances := starts.advances
  have quiet : ∀ task ∈ tasks, task.announced = none := by
    cases starts with
    | timer index delay firedNormally condition tasks found fires => exact fun task member => fires task member ▸ rfl
    | close =>
      simp only [List.mem_append, List.mem_map, List.mem_singleton]
      rintro task (⟨index, -, rfl⟩ | rfl) <;> rfl
    | _ => simp [Task.announced]
  have same : after.winner = memory.winner ∧ after.aggregateResult = memory.aggregateResult ∧
      after.promises = memory.promises ∧ after.fired = memory.fired := by
    cases starts <;> exact ⟨rfl, rfl, rfl, rfl⟩
  obtain ⟨winner, result, promises, fired⟩ := same
  have promise (index : Nat) (type : ConditionType) : after.Promised index type ↔ memory.Promised index type := by
    rw [Promised, Promised, promises]
  have later {task : Task} (member : task ∈ others) : task ∈ (tasks + others : Multiset Task) :=
    Multiset.mem_add.2 (.inr member)
  refine ⟨?_, advances.types ▸ decided.types, fun index type promised => ?_, fun index type promised => ?_, ?_, ?_⟩
  · rw [filterMap_quiet quiet]
    exact decided.phase.advance advances winner result
  · rw [fired]
    exact (decided.promised index type ((promise index type).1 promised)).imp_left (And.imp_right advances.closeCalled)
  · rw [winner]
    refine (decided.noticed index type ((promise index type).1 promised)).imp_right ?_
    exact Exists.imp fun _ member => later member
  · rw [fired]
    intro before
    obtain ⟨index, type, promised⟩ := decided.fired before
    exact ⟨index, type, (promise index type).2 promised⟩
  · cases starts with
    | close => exact fun _ => .inr (Multiset.mem_add.2 (.inl (List.mem_append_right _ List.mem_cons_self)))
    | _ => exact fun called => (decided.closed called).imp_right later

variable (factories : List ConditionFactory)

theorem not_promised_new (index : Nat) (type : ConditionType) : ¬ (new factories).Promised index type := by
  intro promised
  obtain ⟨_, _, same⟩ := List.mem_map.1 (List.mem_of_getElem? promised)
  cases same

theorem decided_new : (new factories).Decided 0 where
  phase := .undecided rfl rfl (.inl rfl)
  types := by
    intro type member
    obtain ⟨condition, built, rfl⟩ := List.mem_map.1 member
    obtain ⟨factory, -, rfl⟩ := List.mem_map.1 built
    cases factory <;> decide
  promised index type promised := absurd promised (not_promised_new factories index type)
  noticed index type promised := absurd promised (not_promised_new factories index type)
  fired fired := absurd rfl fired
  closed called := absurd called Bool.false_ne_true

end Memory

end FlagSdk.Fdv2.Conditions
