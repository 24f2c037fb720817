import FlagSdk.Fdv2.ConditionDecision
import FlagSdk.Fdv2.ConditionProgress

/-! What becomes of the futures of the conditions, over every interleaving of the threads. -/

namespace FlagSdk.Fdv2.Conditions
open Lib.Runs Lib.Threads

/-- The condition that a task lets `WhenAny` notice. -/
def Task.noticed : Task → Option Nat
  | .notice index => some index
  | _ => none

/-- The future of a request is about to be resolved, or the aggregate result is about to be set. -/
def Task.brings (id : Nat) : Task → Bool
  | .notice _ | .announce _ | .close => true
  | .resolve other _ => other = id
  | _ => false

namespace Memory
variable (memory : Memory)

/-- A future is resolved with this type, or about to be. -/
def Outcome (tasks : Multiset Task) (type : ConditionType) : Prop :=
  (∃ request ∈ memory.requests, request.future = some type) ∨ ∃ id, .resolve id type ∈ tasks

variable {memory} {after : Memory} {task : Task} {tasks : List Task} {others : Multiset Task} {type : ConditionType}

theorem Outcome.of_requests (outcome : after.Outcome (tasks + others) type)
    (requests : after.requests = memory.requests) (resolve : ∀ id, .resolve id type ∉ tasks) :
    memory.Outcome (task ::ₘ others) type := by
  obtain ⟨request, member, future⟩ | ⟨id, member⟩ := outcome
  · exact .inl ⟨request, requests ▸ member, future⟩
  · obtain new | before := Multiset.mem_add.1 member
    · exact absurd new (resolve id)
    · exact .inr ⟨id, Multiset.mem_cons_of_mem before⟩

variable {known : ConditionType} {id index : Nat} {call : Call}

theorem resolve_mem_drained (member : .resolve id known ∈ memory.drained type) :
    known = type ∧ memory.pending ≠ [] := by
  obtain ⟨entry, there, same | ⟨_, same⟩⟩ := mem_drained.1 member
  · cases same
    exact ⟨rfl, List.ne_nil_of_mem there⟩
  · cases same

theorem future_of_resolve {request : Request}
    (member : request ∈ (memory.resolve id type).requests) (future : request.future = some known) :
    (∃ before ∈ memory.requests, before.future = some known) ∨ known = type := by
  obtain ⟨index, found⟩ := List.mem_iff_getElem?.1 member
  rw [getElem?_resolve, Option.map_eq_some_iff] at found
  obtain ⟨before, there, rfl⟩ := found
  have inside := List.mem_of_getElem? there
  split at future
  case isTrue =>
    cases resolved : before.future with
    | none =>
      rw [resolved] at future
      exact .inr (Option.some.inj future).symm
    | some first =>
      rw [resolved] at future
      cases future
      exact .inl ⟨before, inside, resolved⟩
  case isFalse => exact .inl ⟨before, inside, future⟩

theorem Does.outcome (does : memory.Does task after tasks) (outcome : after.Outcome (tasks + others) type) :
    memory.Outcome (task ::ₘ others) type ∨
      memory.aggregateResult = some type ∧ after.aggregateResult = some type ∨
      task = .announce type ∨ task = .close ∧ type = .cancelled ∧ memory.pending ≠ [] := by
  cases does with
  | answer token known given =>
    obtain ⟨request, member, future⟩ | ⟨id, member⟩ := outcome
    · obtain before | new := List.mem_append.1 member
      · exact .inl (.inl ⟨request, before, future⟩)
      · cases List.mem_singleton.1 new
        cases future
        exact .inr (.inl ⟨given, given⟩)
    · exact .inl (.inr ⟨id, by simpa using member⟩)
  | wait token =>
    refine .inl ?_
    obtain ⟨request, member, future⟩ | ⟨id, member⟩ := outcome
    · obtain before | new := List.mem_append.1 member
      · exact .inl ⟨request, before, future⟩
      · cases List.mem_singleton.1 new
        cases future
    · exact .inr ⟨id, by simpa using member⟩
  | resolve id known =>
    refine .inl ?_
    obtain ⟨request, member, future⟩ | ⟨other, member⟩ := outcome
    · obtain before | rfl := future_of_resolve member future
      · exact .inl before
      · exact .inr ⟨id, Multiset.mem_cons_self _ _⟩
    · exact .inr ⟨other, Multiset.mem_cons_of_mem (by simpa using member)⟩
  | announce known =>
    obtain resolved | ⟨id, member⟩ := outcome
    · exact .inl (.inl resolved)
    · obtain drained | before := Multiset.mem_add.1 member
      · exact .inr (.inr (.inl (congrArg Task.announce (resolve_mem_drained drained).1.symm)))
      · exact .inl (.inr ⟨id, Multiset.mem_cons_of_mem before⟩)
  | close =>
    obtain resolved | ⟨id, member⟩ := outcome
    · exact .inl (.inl resolved)
    · obtain drained | before := Multiset.mem_add.1 member
      · exact .inr (.inr (.inr ⟨rfl, resolve_mem_drained drained⟩))
      · exact .inl (.inr ⟨id, Multiset.mem_cons_of_mem before⟩)
  | closeCondition index tasks closes => exact .inl (outcome.of_requests rfl fun id member => by cases closes _ member)
  | _ => exact .inl (outcome.of_requests rfl (by simp))

theorem Starts.outcome (starts : memory.Starts call after tasks)
    (outcome : after.Outcome (tasks + others) type) : memory.Outcome others type := by
  obtain ⟨-, requests, -, -, quiet⟩ := starts.aside
  obtain ⟨request, member, future⟩ | ⟨id, member⟩ := outcome
  · exact .inl ⟨request, requests ▸ member, future⟩
  · obtain new | before := Multiset.mem_add.1 member
    · cases quiet _ new
    · exact .inr ⟨id, before⟩

theorem Does.aggregateResult (does : memory.Does task after tasks) :
    after.aggregateResult = memory.aggregateResult ∨
      (∃ type, task = .announce type ∧ after.aggregateResult = some type) ∨
      task = .close ∧ memory.aggregateResult = none ∧ after.aggregateResult = some .cancelled := by
  cases does with
  | announce type => exact .inr (.inl ⟨type, rfl, rfl⟩)
  | close =>
    rw [Memory.close]
    cases memory.aggregateResult with
    | none => exact .inr (.inr ⟨rfl, rfl, rfl⟩)
    | some type => exact .inl rfl
  | _ => exact .inl rfl

theorem Held.outcome (held : memory.Held (task ::ₘ others)) (does : memory.Does task after tasks)
    (outcome : after.Outcome (tasks + others) type) :
    memory.Outcome (task ::ₘ others) type ∨ after.aggregateResult = some type := by
  obtain before | ⟨_, result⟩ | rfl | ⟨rfl, rfl, waiting⟩ := does.outcome outcome
  · exact .inl before
  · exact .inr result
  · cases does with
    | announce => exact .inr rfl
    | skip _ optional => cases optional
  · refine .inr ?_
    cases does with
    | close =>
      rw [Memory.close]
      cases set : memory.aggregateResult with
      | none => rfl
      | some known => exact absurd (held.settled (set ▸ rfl)) waiting
    | skip _ optional => cases optional

structure Sound (memory : Memory) (tasks : Multiset Task) : Prop where
  decided : memory.Decided tasks
  entries : memory.Entries tasks
  outcome : ∀ type, memory.Outcome tasks type → memory.aggregateResult = some type ∨
    type = .cancelled ∧ memory.closeCalled = true ∧ memory.aggregateResult.isSome = true

theorem Sound.fits (sound : Sound memory (task ::ₘ others)) : task.Fits memory :=
  sound.entries.fits task (Multiset.mem_cons_self _ _)

theorem keeps_sound : Keeps accept perform (fun _ _ => False) Sound where
  call {memory after call tasks others} sound accepted := by
    have starts := accept_starts accepted
    refine ⟨sound.decided.starts starts, sound.entries.starts starts sound.decided.types, fun type outcome => ?_⟩
    obtain ⟨-, -, -, result, -⟩ := starts.aside
    rw [result]
    refine (sound.outcome type (starts.outcome outcome)).imp_right ?_
    exact And.imp_right (And.imp_left starts.advances.closeCalled)
  task {memory after task tasks others} sound performed _ := by
    have does := perform_does performed
    have called := does.advances.closeCalled
    refine ⟨sound.decided.does sound.fits does, sound.entries.does does, fun type outcome => ?_⟩
    obtain before | result := sound.entries.held.outcome does outcome
    · have known := sound.outcome type before
      obtain same | ⟨announced, rfl, result⟩ | ⟨_, none, _⟩ := does.aggregateResult
      · rw [same]
        exact known.imp_right (And.imp_right (And.imp_left called))
      · refine .inr ?_
        rw [result]
        obtain given | ⟨cancelled, closed, _⟩ := known
        · obtain ⟨-, -, -, -, none | ⟨cancelled, closed⟩⟩ := sound.decided.unset
          · cases none.symm.trans given
          · exact ⟨Option.some.inj (given.symm.trans cancelled), called closed, rfl⟩
        · exact ⟨cancelled, called closed, rfl⟩
      · rw [none] at known
        obtain given | ⟨_, _, given⟩ := known <;> cases given
    · exact .inl result

/-- The result of `Close` is overwritten. -/
def Late (memory : Memory) (task : Task) : Prop :=
  ∃ type, task = .announce type ∧ type ≠ .cancelled ∧ memory.aggregateResult = some .cancelled

instance (memory : Memory) (task : Task) : Decidable (Late memory task) :=
  decidable_of_iff (∃ type ∈ task.announced, type ≠ .cancelled ∧ memory.aggregateResult = some .cancelled) <| by
    refine exists_congr fun type => and_congr_left' ?_
    cases task <;> simp [Task.announced]

structure Agreed (memory : Memory) (tasks : Multiset Task) : Prop where
  sound : Sound memory tasks
  outcome : ∀ type, memory.Outcome tasks type → memory.aggregateResult = some type

theorem keeps_agreed : Keeps accept perform Late Agreed where
  call {memory after call tasks others} agreed accepted := by
    refine ⟨keeps_sound.call agreed.sound accepted, fun type outcome => ?_⟩
    have starts := accept_starts accepted
    obtain ⟨-, -, -, result, -⟩ := starts.aside
    rw [result]
    exact agreed.outcome type (starts.outcome outcome)
  task {memory after task tasks others} agreed performed inTime := by
    have does := perform_does performed
    refine ⟨keeps_sound.task agreed.sound performed not_false, fun type outcome => ?_⟩
    obtain before | result := agreed.sound.entries.held.outcome does outcome
    · have known := agreed.outcome type before
      obtain same | ⟨announced, rfl, result⟩ | ⟨_, none, _⟩ := does.aggregateResult
      · exact same.trans known
      · obtain ⟨-, -, -, -, none | ⟨cancelled, _⟩⟩ := agreed.sound.decided.unset
        · cases none.symm.trans known
        · have same : announced = .cancelled := by
            by_contra other
            exact inTime ⟨announced, rfl, other, cancelled⟩
          rw [result, same, ← cancelled, known]
      · cases none.symm.trans known
    · exact result

/-- The aggregate result is the type of a condition. -/
structure Final (memory : Memory) (tasks : Multiset Task) : Prop where
  sound : Sound memory tasks
  result : ∃ type, memory.aggregateResult = some type ∧ type ≠ .cancelled

theorem keeps_final : Keeps accept perform (fun _ _ => False) Final where
  call final accepted := by
    refine ⟨keeps_sound.call final.sound accepted, ?_⟩
    obtain ⟨-, -, -, result, -⟩ := (accept_starts accepted).aside
    rw [result]
    exact final.result
  task {memory after task tasks others} final performed _ := by
    refine ⟨keeps_sound.task final.sound performed not_false, ?_⟩
    obtain ⟨type, given, other⟩ := final.result
    obtain same | ⟨announced, rfl, _⟩ | ⟨_, none, _⟩ := (perform_does performed).aggregateResult
    · exact ⟨type, same.trans given, other⟩
    · obtain ⟨-, -, -, -, none | ⟨cancelled, _⟩⟩ := final.sound.decided.unset
      · cases none.symm.trans given
      · exact absurd (Option.some.inj (given.symm.trans cancelled)) other
    · cases none.symm.trans given

/-- `WhenAny` notices a condition although one of another type fired before it. -/
def Overtakes (memory : Memory) (task : Task) : Prop :=
  ∃ index type, task = .notice index ∧ memory.winner = none ∧ memory.Promised index type ∧ type ≠ .cancelled ∧
    memory.fired.head? ≠ some type

instance (memory : Memory) (task : Task) : Decidable (Overtakes memory task) :=
  decidable_of_iff (∃ index ∈ task.noticed, ∃ type ∈ memory.promises[index]?.join,
    memory.winner = none ∧ type ≠ .cancelled ∧ memory.fired.head? ≠ some type) <| by
    refine exists_congr fun index => ?_
    have noticed : index ∈ task.noticed ↔ task = .notice index := by cases task <;> simp [Task.noticed, eq_comm]
    rw [noticed, ← exists_and_left]
    refine exists_congr fun type => and_congr_right' ?_
    rw [Option.mem_def, Option.join_eq_some_iff]
    exact and_left_comm

structure InTurn (memory : Memory) (tasks : Multiset Task) : Prop where
  sound : Sound memory tasks
  first : ∀ index type, memory.winner = some index → memory.Promised index type → type ≠ .cancelled →
    memory.fired.head? = some type

theorem Promised.unique {first second : ConditionType} (one : memory.Promised index first)
    (other : memory.Promised index second) : first = second :=
  Option.some.inj (Option.some.inj (one.symm.trans other))

theorem Decided.promised_of_winner (decided : memory.Decided others)
    (winner : memory.winner = some index) : ∃ type, memory.Promised index type := by
  cases decided.phase with
  | undecided _ none => cases none.symm.trans winner
  | announcing _ type _ won promised | announced _ type _ won promised =>
    cases won.symm.trans winner
    exact ⟨type, promised⟩

theorem head?_of_prefix {earlier later : List ConditionType} (grown : earlier <+: later)
    (first : earlier.head? = some type) : later.head? = some type := by
  obtain ⟨more, rfl⟩ := grown
  rw [List.head?_append, first]
  rfl

theorem InTurn.advance (inTurn : InTurn memory others) (advances : Advances memory after)
    (winner : memory.winner = some index) (promised : after.Promised index type) (other : type ≠ .cancelled) :
    after.fired.head? = some type := by
  obtain ⟨known, before⟩ := inTurn.sound.decided.promised_of_winner winner
  cases promised.unique (advances.promised index known before)
  exact head?_of_prefix advances.fired (inTurn.first index type winner before other)

theorem Starts.winner (starts : memory.Starts call after tasks) : after.winner = memory.winner := by
  cases starts <;> rfl

theorem keeps_inTurn : Keeps accept perform Overtakes InTurn where
  call inTurn accepted := by
    have starts := accept_starts accepted
    refine ⟨keeps_sound.call inTurn.sound accepted, fun index type winner promised other => ?_⟩
    exact inTurn.advance starts.advances (starts.winner.symm.trans winner) promised other
  task {memory after task tasks others} inTurn performed orderly := by
    have does := perform_does performed
    have advances := does.advances
    refine ⟨keeps_sound.task inTurn.sound performed not_false, fun index type winner promised other => ?_⟩
    cases does with
    | notice index type' none =>
      cases winner
      by_contra overtaken
      exact orderly ⟨index, type, rfl, none, promised, other, overtaken⟩
    | _ => exact inTurn.advance advances winner promised other

/-- The winner is not of the type that fired first. -/
def Overtaken (memory : Memory) (_ : Multiset Task) : Prop :=
  ∃ index type first, memory.winner = some index ∧ memory.Promised index type ∧ type ≠ .cancelled ∧
    memory.fired.head? = some first ∧ first ≠ type

theorem Overtaken.advance {left : Multiset Task} (overtaken : Overtaken memory others)
    (advances : Advances memory after) : Overtaken after left := by
  obtain ⟨index, type, first, winner, promised, other, fired, different⟩ := overtaken
  exact ⟨index, type, first, advances.winner index winner, advances.promised index type promised, other,
    head?_of_prefix advances.fired fired, different⟩

theorem keeps_overtaken : Keeps accept perform (fun _ _ => False) Overtaken where
  call overtaken accepted := overtaken.advance (accept_starts accepted).advances
  task overtaken performed _ := overtaken.advance (perform_does performed).advances

theorem Sound.overtaken (sound : Sound memory (task ::ₘ others)) (overtakes : Overtakes memory task)
    (performed : memory.perform task = some (after, tasks)) : Overtaken after (tasks + others) := by
  obtain ⟨index, type, rfl, none, promised, other, late⟩ := overtakes
  have performed : memory.notice index = (after, tasks) := Option.some.inj performed
  rw [Memory.notice, none, promised] at performed
  cases performed
  obtain ⟨cancelled, _⟩ | ⟨_, fired⟩ := sound.decided.promised index type promised
  · exact absurd cancelled other
  · obtain ⟨first, rest, same⟩ := List.exists_cons_of_ne_nil fired
    refine ⟨index, type, first, rfl, promised, other, ?_, ?_⟩
    · rw [same]
      rfl
    · rintro rfl
      exact late (by rw [same]; rfl)

theorem final_of_late (sound : Sound memory (task ::ₘ others)) (late : Late memory task)
    (performed : memory.perform task = some (after, tasks)) : Final after (tasks + others) := by
  refine ⟨keeps_sound.task sound performed not_false, ?_⟩
  obtain ⟨type, rfl, other, _⟩ := late
  cases performed
  exact ⟨type, rfl, other⟩

section
variable (factories : List ConditionFactory)

theorem not_outcome_new (type : ConditionType) : ¬ (new factories).Outcome 0 type := by
  rintro (⟨_, member, _⟩ | ⟨_, member⟩)
  · cases member
  · exact Multiset.notMem_zero _ member

theorem sound_new : Sound (new factories) 0 where
  decided := decided_new factories
  entries := entries_new factories
  outcome type outcome := absurd outcome (not_outcome_new factories type)

theorem agreed_new : Agreed (new factories) 0 where
  sound := sound_new factories
  outcome type outcome := absurd outcome (not_outcome_new factories type)

theorem inTurn_new : InTurn (new factories) 0 where
  sound := sound_new factories
  first _ _ winner := by cases winner

end

theorem Sound.explained (sound : Sound memory others) (outcome : memory.Outcome others type) :
    type = .cancelled ∧ memory.closeCalled = true ∨
      type ≠ .cancelled ∧ ∃ index, memory.winner = some index ∧ memory.Promised index type := by
  obtain given | ⟨cancelled, called, _⟩ := sound.outcome type outcome
  · have closed : (memory.aggregateResult = none ∨
        memory.aggregateResult = some .cancelled ∧ memory.closeCalled = true) →
        type = .cancelled ∧ memory.closeCalled = true := by
      rintro (none | ⟨cancelled, called⟩)
      · cases none.symm.trans given
      · exact ⟨Option.some.inj (given.symm.trans cancelled), called⟩
    cases sound.decided.phase with
    | undecided _ _ unset | announcing _ _ _ _ _ unset => exact .inl (closed unset)
    | announced index known _ winner promised result =>
      cases given.symm.trans result
      obtain cancelled | ⟨other, _⟩ := sound.decided.promised index type promised
      · exact .inl cancelled
      · exact .inr ⟨other, index, winner, promised⟩
  · exact .inl ⟨cancelled, called⟩

theorem requests_getFuture_iff :
    (∀ token, (memory.getFuture token).1.requests = memory.requests ++ [⟨token, some type⟩]) ↔
      memory.aggregateResult = some type := by
  cases result : memory.aggregateResult with
  | none =>
    refine ⟨fun resolved => ?_, fun given => by cases given⟩
    have here := resolved none
    rw [getFuture_of_none result] at here
    cases List.append_cancel_left here
  | some known =>
    refine ⟨fun resolved => ?_, fun given token => ?_⟩
    · have here := resolved none
      rw [getFuture_of_some result] at here
      cases List.append_cancel_left here
      rfl
    · rw [getFuture_of_some (result.trans given)]

end Memory

variable (pool : Pool Memory Task)

/-- The call of `GetFuture` is not over, or the cancellation of its token is not. -/
def Underway (id : Nat) (token : Option Nat) : Prop :=
  .register id ∈ pool.tasks ∨ .erase id ∈ pool.tasks ∨ ∃ source ∈ token, .callbacks source ∈ pool.tasks
  deriving Decidable

/-- A request whose future is not resolved, and whose token has not been cancelled. -/
def outstanding (id : Nat) : Bool :=
  pool.memory.requests[id]?.any fun request =>
    request.future.isNone && (!pool.memory.isCancelled request.token || decide (Underway pool id request.token))

structure FuturesRight : Prop where
  /-- A promise is resolved by one thread only, and only while its future is not resolved. -/
  once : (pool.tasks.filterMap Task.resolved).Nodup ∧
    ∀ id ∈ pool.tasks.filterMap Task.resolved, ∃ token, pool.memory.requests[id]? = some ⟨token, none⟩
  /-- Once a condition has fired or `Close` was called, a thread is about to resolve what is not resolved. -/
  resolved : pool.memory.fired ≠ [] ∨ pool.memory.closeCalled = true →
    ∀ id token, pool.memory.requests[id]? = some ⟨token, none⟩ → pool.memory.isCancelled token = false →
      ∃ task ∈ pool.tasks, task.brings id = true
  /-- As long as something is left to be done, some thread can go on. -/
  alive : pool.tasks ≠ 0 → ∃ thread, (step pool (.run thread)).isSome = true
  first : ∀ request ∈ pool.memory.requests, ∀ type, request.future = some type →
    type = .cancelled ∧ pool.memory.closeCalled = true ∨ type ≠ .cancelled ∧ pool.memory.fired.head? = some type
  /-- A future that is requested later is resolved at once with the same type. -/
  same : ∀ request ∈ pool.memory.requests, ∀ type, request.future = some type →
    ∀ token, (pool.memory.getFuture token).1.requests = pool.memory.requests ++ [⟨token, some type⟩]
  released : ∀ entry ∈ pool.memory.pending, ∀ request, pool.memory.requests[entry.id]? = some request →
    pool.memory.isCancelled request.token = true → Underway pool entry.id request.token
  bounded : pool.memory.pending.length ≤ ((List.range pool.memory.requests.length).filter (outstanding pool)).length

section
variable {pool} (sound : Memory.Sound pool.memory pool.tasks)
include sound

theorem once_of_sound : (pool.tasks.filterMap Task.resolved).Nodup ∧
    ∀ id ∈ pool.tasks.filterMap Task.resolved, ∃ token, pool.memory.requests[id]? = some ⟨token, none⟩ := by
  refine ⟨?_, fun id member => ?_⟩
  · exact (Multiset.nodup_add.1 sound.entries.held.nodup).2.1
  · exact sound.entries.held.unresolved id (Multiset.mem_add.2 (.inr member))

theorem aggregateResult_of_sound (decided : pool.memory.fired ≠ [] ∨ pool.memory.closeCalled = true) (id : Nat) :
    pool.memory.aggregateResult.isSome = true ∨ ∃ task ∈ pool.tasks, task.brings id = true := by
  obtain fired | called := decided
  · obtain ⟨index, type, promised⟩ := sound.decided.fired fired
    obtain won | ⟨other, member⟩ := sound.decided.noticed index type promised
    · cases sound.decided.phase with
      | undecided _ none =>
        rw [none] at won
        cases won
      | announcing _ known busy =>
        have member : known ∈ pool.tasks.filterMap Task.announced := busy ▸ Multiset.mem_singleton_self known
        obtain ⟨task, there, announces⟩ := (Multiset.mem_filterMap _ _).1 member
        refine .inr ⟨task, there, ?_⟩
        cases task <;> first | rfl | cases announces
      | announced _ _ _ _ _ result => exact .inl (result ▸ rfl)
    · exact .inr ⟨_, member, rfl⟩
  · exact (sound.decided.closed called).imp_right fun member => ⟨_, member, rfl⟩

theorem resolved_of_sound (decided : pool.memory.fired ≠ [] ∨ pool.memory.closeCalled = true) :
    ∀ id token, pool.memory.requests[id]? = some ⟨token, none⟩ → pool.memory.isCancelled token = false →
      ∃ task ∈ pool.tasks, task.brings id = true := by
  intro id token found uncancelled
  obtain set | coming := aggregateResult_of_sound sound decided id
  · have held := (sound.entries.held.kept id token found).resolve_right (Bool.eq_false_iff.1 uncancelled)
    obtain ⟨entry, member, _⟩ | ⟨type, member⟩ := Memory.mem_holders.1 held
    · rw [sound.entries.held.settled set] at member
      cases member
    · exact ⟨_, member, decide_eq_true rfl⟩
  · exact coming

theorem released_of_sound : ∀ entry ∈ pool.memory.pending, ∀ request, pool.memory.requests[entry.id]? = some request →
    pool.memory.isCancelled request.token = true → Underway pool entry.id request.token := by
  intro entry member request found cancelled
  obtain ⟨token, future⟩ := request
  cases token with
  | none => cases cancelled
  | some source =>
    obtain register | erase | there := sound.entries.attended.watched entry member source (Memory.token_of_request found)
    · exact .inl register
    · exact .inr (.inl erase)
    · exact .inr (.inr ⟨source, rfl, sound.entries.attended.busy source cancelled (List.ne_nil_of_mem there)⟩)

theorem outstanding_of_sound {entry : PendingEntry} (member : entry ∈ pool.memory.pending) :
    outstanding pool entry.id = true := by
  obtain ⟨token, found⟩ := sound.entries.held.unresolved entry.id (Memory.mem_holders.2 (.inl ⟨entry, member, rfl⟩))
  rw [outstanding, found, Option.any_some]
  cases cancelled : pool.memory.isCancelled token with
  | false => rfl
  | true => exact decide_eq_true (released_of_sound sound entry member _ found cancelled)

theorem bounded_of_sound :
    pool.memory.pending.length ≤ ((List.range pool.memory.requests.length).filter (outstanding pool)).length := by
  have distinct : (pool.memory.pending.map PendingEntry.id).Nodup :=
    Multiset.coe_nodup.1 (Multiset.nodup_add.1 sound.entries.held.nodup).1
  have inside : pool.memory.pending.map PendingEntry.id ⊆
      (List.range pool.memory.requests.length).filter (outstanding pool) := by
    intro id member
    obtain ⟨entry, there, rfl⟩ := List.mem_map.1 member
    refine List.mem_filter.2 ⟨List.mem_range.2 ?_, outstanding_of_sound sound there⟩
    exact sound.entries.held.inside_of_pending there
  have fewer := (distinct.subperm inside).length_le
  rwa [List.length_map] at fewer

end

abbrev start (factories : List ConditionFactory) : Pool Memory Task := ⟨Memory.new factories, []⟩

section
variable {pool} {factories : List ConditionFactory} {moves : List (Move Call)}
  (reached : run step (start factories) moves = some pool)
include reached

theorem sound_of_run : Memory.Sound pool.memory pool.tasks :=
  Memory.keeps_sound.run_all (Memory.sound_new factories) reached

theorem same_iff : (∀ request ∈ pool.memory.requests, ∀ type, request.future = some type →
      pool.memory.aggregateResult = some type) ↔
    Along step (fun pool move => ¬ Performs Memory.Late pool move) (start factories) moves ∨
      ∀ request ∈ pool.memory.requests, request.future ≠ some .cancelled := by
  have sound := sound_of_run reached
  constructor
  · intro same
    have either := along_or_kept Memory.keeps_sound Memory.final_of_late Memory.keeps_final
      (Memory.sound_new factories) reached
    refine either.imp_right fun final request member cancelled => ?_
    obtain ⟨type, result, other⟩ := final.result
    exact other (Option.some.inj (result.symm.trans (same request member _ cancelled)))
  · rintro (inTime | none) request member type future
    · have agreed : Memory.Agreed pool.memory pool.tasks :=
        Memory.keeps_agreed.run (Memory.agreed_new factories) inTime reached
      exact agreed.outcome type (.inl ⟨request, member, future⟩)
    · refine (sound.outcome type (.inl ⟨request, member, future⟩)).resolve_right fun cancelled => ?_
      exact none request member (future.trans (congrArg some cancelled.1))

theorem first_iff : (∀ request ∈ pool.memory.requests, ∀ type, request.future = some type →
      type = .cancelled ∧ pool.memory.closeCalled = true ∨
        type ≠ .cancelled ∧ pool.memory.fired.head? = some type) ↔
    Along step (fun pool move => ¬ Performs Memory.Overtakes pool move) (start factories) moves ∨
      ∀ request ∈ pool.memory.requests, ∀ type, request.future = some type → type = .cancelled := by
  have sound := sound_of_run reached
  constructor
  · intro first
    have either := along_or_kept Memory.keeps_sound Memory.Sound.overtaken Memory.keeps_overtaken
      (Memory.sound_new factories) reached
    refine either.imp_right fun overtaken request member type future => ?_
    obtain ⟨index, known, early, winner, promised, _, fired, different⟩ := overtaken
    obtain ⟨cancelled, _⟩ | ⟨_, other, won, promise⟩ := sound.explained (.inl ⟨request, member, future⟩)
    · exact cancelled
    · cases won.symm.trans winner
      cases promise.unique promised
      refine ((first request member type future).resolve_right fun expected => ?_).1
      exact different (Option.some.inj (fired.symm.trans expected.2))
  · rintro (orderly | cancelled) request member type future
    · have inTurn : Memory.InTurn pool.memory pool.tasks :=
        Memory.keeps_inTurn.run (Memory.inTurn_new factories) orderly reached
      refine (sound.explained (.inl ⟨request, member, future⟩)).imp_right ?_
      rintro ⟨other, index, winner, promised⟩
      exact ⟨other, inTurn.first index type winner promised other⟩
    · refine .inl ((sound.explained (.inl ⟨request, member, future⟩)).resolve_right fun expected => ?_)
      exact expected.1 (cancelled request member type future)

end

/-- The futures are as they should be unless a result comes after that of `Close`, which some future was resolved with,
or `WhenAny` notices a condition too late, and some future is resolved with the type of another one. -/
theorem futures_right_iff (factories : List ConditionFactory) (moves : List (Move Call)) (pool : Pool Memory Task)
    (reached : run step (start factories) moves = some pool) :
    FuturesRight pool ↔
      (Along step (fun pool move => ¬ Performs Memory.Late pool move) (start factories) moves ∨
        ∀ request ∈ pool.memory.requests, request.future ≠ some .cancelled) ∧
      (Along step (fun pool move => ¬ Performs Memory.Overtakes pool move) (start factories) moves ∨
        ∀ request ∈ pool.memory.requests, ∀ type, request.future = some type → type = .cancelled) := by
  have sound := sound_of_run reached
  rw [← same_iff reached, ← first_iff reached]
  constructor
  · intro right
    exact ⟨fun request member type future => Memory.requests_getFuture_iff.1 (right.same request member type future),
      right.first⟩
  · rintro ⟨same, first⟩
    exact
      { once := once_of_sound sound
        resolved := resolved_of_sound sound
        alive := (executing_of_run reached).alive
        first := first
        same := fun request member type future =>
          Memory.requests_getFuture_iff.2 (same request member type future)
        released := released_of_sound sound
        bounded := bounded_of_sound sound }

/-- A future is requested, the recovery condition fires, and another future is requested. -/
def recovered : List (Move Call) :=
  [.call (.getFuture none), .run 0, .run 0, .run 0, .call (.timer 1 0 true), .run 1, .run 1, .run 1, .run 1, .run 1,
    .call (.getFuture none), .run 2]

theorem futures_right_recovered :
    ∃ pool, run step (start [.fallback, .recovery]) recovered = some pool ∧
      pool.memory.requests = [⟨none, some .recovery⟩, ⟨none, some .recovery⟩] ∧ FuturesRight pool :=
  ⟨_, rfl, rfl, (futures_right_iff [.fallback, .recovery] recovered _ rfl).2
    ⟨.inl (by decide), .inl (by decide)⟩⟩

/-- The recovery condition fires. Before its type is announced, `Close` resolves the future that was requested. -/
def closedBeforeAnnouncement : List (Move Call) :=
  [.call (.getFuture none), .run 0, .run 0, .run 0, .call (.timer 0 0 true), .run 1, .run 1,
    .call .close, .run 2, .run 2, .run 2, .run 2, .run 2, .run 1, .call (.getFuture none), .run 3]

/-- The fallback condition fires before the recovery condition, but is noticed after it. -/
def noticedLate : List (Move Call) :=
  [.call (.inform ⟨.interrupted ⟨.networkError, 0, ""⟩, none⟩), .run 0, .run 0, .call (.timer 0 0 true), .run 1,
    .call (.timer 1 0 true), .run 2, .run 2, .run 2, .run 1, .call (.getFuture none), .run 3]

theorem futures_not_right :
    (∃ pool, run step (start [.recovery]) closedBeforeAnnouncement = some pool ∧
      pool.memory.requests = [⟨none, some .cancelled⟩, ⟨none, some .recovery⟩] ∧ ¬ FuturesRight pool) ∧
    (∃ pool, run step (start [.fallback, .recovery]) noticedLate = some pool ∧
      pool.memory.fired = [.fallback, .recovery] ∧ pool.memory.requests = [⟨none, some .recovery⟩] ∧
      ¬ FuturesRight pool) := by
  refine ⟨⟨_, rfl, rfl, fun right => ?_⟩, ⟨_, rfl, rfl, rfl, fun right => ?_⟩⟩
  · exact absurd (right.same _ List.mem_cons_self .cancelled rfl none) (by decide)
  · exact absurd (right.first _ List.mem_cons_self .recovery rfl) (by decide)

end FlagSdk.Fdv2.Conditions
