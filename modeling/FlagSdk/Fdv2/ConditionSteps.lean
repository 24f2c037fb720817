import FlagSdk.Fdv2.Callbacks
import FlagSdk.Fdv2.Conditions
import Mathlib.Data.Multiset.Filter

/-! What calls and tasks of the conditions can do. Whatever happens, a promise stays resolved, a source stays cancelled
and a request keeps its token, so that no task loses what it relies on. -/

namespace FlagSdk.Fdv2.Conditions

/-- Tasks that may come too late, and nothing depends on them. -/
def Task.optional : Task → Bool
  | .deregister _ | .cancel _ | .fire _ _ | .cancelPromise _ => true
  | _ => false

namespace Memory
variable (memory : Memory)

def Promised (index : Nat) (type : ConditionType) : Prop := memory.promises[index]? = some (some type)

inductive Starts : Call → Memory → List Task → Prop
  | getFuture (token : Option Nat) : Starts (.getFuture token) memory [.getFuture token]
  | cancel (source : Nat) : Starts (.cancel source) memory [.cancel source]
  | timer (index delay : Nat) (firedNormally : Bool) (condition : TimedCondition) (tasks : List Task)
      (found : memory.conditions[index]? = some condition) (fires : ∀ task ∈ tasks, task = .fire index condition.type) :
    Starts (.timer index delay firedNormally)
      { memory with
        conditions := memory.conditions.set index { condition with timers := condition.timers.eraseIdx delay } } tasks
  | inform (result : FDv2SourceResult) :
    Starts (.inform result) memory ((List.range memory.conditions.length).map fun index => .inform index result)
  | close :
    Starts .close { memory with closeCalled := true }
      ((List.range memory.conditions.length).map .closeCondition ++ [.close])

inductive Does : Task → Memory → List Task → Prop
  | answer (token : Option Nat) (type : ConditionType) (known : memory.aggregateResult = some type) :
    Does (.getFuture token) { memory with requests := memory.requests ++ [⟨token, some type⟩] } []
  | wait (token : Option Nat) (undecided : memory.aggregateResult = none) :
    Does (.getFuture token)
      { memory with
        requests := memory.requests ++ [⟨token, none⟩]
        pending := memory.pending ++ [⟨memory.requests.length, false⟩] } [.register memory.requests.length]
  | registerNowhere (id : Nat) (none : memory.token id = none) : Does (.register id) memory [.attach id]
  | registerLate (id source : Nat) (token : memory.token id = some source)
      (cancelled : (memory.sources source).cancelled = true) : Does (.register id) memory [.erase id, .attach id]
  | register (id source : Nat) (token : memory.token id = some source)
      (live : (memory.sources source).cancelled = false) :
    Does (.register id)
      (memory.setSource source
        { memory.sources source with callbacks := (memory.sources source).callbacks ++ [id] }) [.attach id]
  | erase (id : Nat) : Does (.erase id) (memory.erase id) []
  | attach (id : Nat) :
    Does (.attach id)
      { memory with
        pending := memory.pending.map fun entry => if entry.id = id then { entry with cancelCb := true } else entry } []
  | attachLate (id : Nat) (gone : ∀ entry ∈ memory.pending, entry.id ≠ id) :
    Does (.attach id) memory [.deregister id]
  | deregister (id source : Nat) (token : memory.token id = some source) :
    Does (.deregister id)
      (memory.setSource source
        { memory.sources source with callbacks := (memory.sources source).callbacks.erase id }) []
  | cancel (source : Nat) :
    Does (.cancel source) (memory.setSource source { memory.sources source with cancelled := true }) [.callbacks source]
  | callback (source id : Nat) (callbacks : List Nat) (waiting : (memory.sources source).callbacks = id :: callbacks) :
    Does (.callbacks source) (memory.setSource source { memory.sources source with callbacks, executing := some id })
      [.erase id, .executed source, .callbacks source]
  | callbacksDone (source : Nat) (none : (memory.sources source).callbacks = []) : Does (.callbacks source) memory []
  | executed (source : Nat) : Does (.executed source) (memory.executed source) []
  | fire (index : Nat) (type : ConditionType) (unresolved : memory.promises[index]? = some none) :
    Does (.fire index type)
      { memory with promises := memory.promises.set index (some type), fired := memory.fired ++ [type] } [.notice index]
  | cancelPromise (index : Nat) (unresolved : memory.promises[index]? = some none) :
    Does (.cancelPromise index) { memory with promises := memory.promises.set index (some .cancelled) } [.notice index]
  | notice (index : Nat) (type : ConditionType) (none : memory.winner = none) (promised : memory.Promised index type) :
    Does (.notice index) { memory with winner := some index } [.announce type]
  | noticeLate (index : Nat) (late : memory.winner.isSome = true ∨ ∀ type, ¬ memory.Promised index type) :
    Does (.notice index) memory []
  | announce (type : ConditionType) : Does (.announce type) (memory.announce type).1 (memory.drained type)
  | resolve (id : Nat) (type : ConditionType) : Does (.resolve id type) (memory.resolve id type) []
  | inform (index : Nat) (result : FDv2SourceResult) : Does (.inform index result) (memory.inform index result) []
  | closeCondition (index : Nat) (tasks : List Task) (closes : ∀ task ∈ tasks, task = .cancelPromise index) :
    Does (.closeCondition index) (memory.closeCondition index).1 tasks
  | close : Does .close memory.close.1 (memory.drained .cancelled)
  | skip (task : Task) (optional : task.optional = true) : Does task memory []

variable {memory} {after : Memory} {task : Task} {tasks : List Task} {call : Call} {token : Option Nat}
    {id source index other : Nat} {conditions : List TimedCondition}

theorem accept_starts (accepted : memory.accept call = some (after, tasks)) : memory.Starts call after tasks := by
  cases call with
  | getFuture token =>
    cases accepted
    exact .getFuture token
  | cancel source =>
    cases accepted
    exact .cancel source
  | timer index delay firedNormally =>
    obtain ⟨condition, found, accepted⟩ := Option.bind_eq_some_iff.1 accepted
    obtain ⟨timer, -, accepted⟩ := Option.bind_eq_some_iff.1 accepted
    obtain ⟨-, accepted⟩ := Option.ite_none_right_eq_some.1 accepted
    cases accepted
    refine .timer index delay firedNormally condition _ found fun task member => ?_
    split at member
    · exact List.mem_singleton.1 member
    · cases member
  | inform result =>
    cases accepted
    exact .inform result
  | close =>
    cases accepted
    exact .close

theorem perform_does (performed : memory.perform task = some (after, tasks)) : memory.Does task after tasks := by
  cases task with
  | getFuture token =>
    cases result : memory.aggregateResult with
    | none =>
      rw [perform, getFuture_of_none result] at performed
      cases performed
      exact .wait token result
    | some type =>
      rw [perform, getFuture_of_some result] at performed
      cases performed
      exact .answer token type result
  | register id =>
    cases token : memory.token id with
    | none =>
      rw [perform, register, token] at performed
      cases performed
      exact .registerNowhere id token
    | some source =>
      rw [perform, register, token] at performed
      dsimp only at performed
      split at performed
      case isTrue cancelled =>
        cases performed
        exact .registerLate id source token cancelled
      case isFalse live =>
        cases performed
        exact .register id source token (Bool.eq_false_of_not_eq_true live)
  | attach id =>
    have performed := Option.some.inj performed
    unfold attach at performed
    split at performed
    case isTrue =>
      cases performed
      exact .attach id
    case isFalse gone =>
      cases performed
      refine .attachLate id fun entry member here => gone ?_
      exact List.any_eq_true.2 ⟨entry, member, decide_eq_true here⟩
  | deregister id =>
    obtain ⟨left, deregistered, same⟩ := Option.map_eq_some_iff.1 performed
    cases same
    cases token : memory.token id with
    | none =>
      rw [deregister, token] at deregistered
      cases deregistered
      exact .skip _ rfl
    | some source =>
      rw [deregister, token] at deregistered
      obtain ⟨-, deregistered⟩ := Option.ite_none_left_eq_some.1 deregistered
      cases deregistered
      exact .deregister id source token
  | cancel source =>
    have performed := Option.some.inj performed
    unfold cancel at performed
    dsimp only at performed
    split at performed <;> cases performed
    · exact .skip _ rfl
    · exact .cancel source
  | callbacks source =>
    have performed := Option.some.inj performed
    unfold callbacks at performed
    dsimp only at performed
    split at performed
    case h_1 none =>
      cases performed
      exact .callbacksDone source none
    case h_2 id callbacks waiting =>
      cases performed
      exact .callback source id callbacks waiting
  | fire index type =>
    have performed := Option.some.inj performed
    unfold fire at performed
    split at performed
    case h_1 unresolved =>
      rw [resolvePromise, unresolved] at performed
      cases performed
      exact .fire index type unresolved
    case h_2 =>
      cases performed
      exact .skip _ rfl
  | cancelPromise index =>
    have performed := Option.some.inj performed
    unfold resolvePromise at performed
    split at performed
    case h_1 unresolved =>
      cases performed
      exact .cancelPromise index unresolved
    case h_2 =>
      cases performed
      exact .skip _ rfl
  | notice index =>
    have performed := Option.some.inj performed
    unfold notice at performed
    split at performed
    case h_1 type none promised =>
      cases performed
      exact .notice index type none promised
    case h_2 missing =>
      cases performed
      refine .noticeLate index ?_
      cases won : memory.winner with
      | none => exact .inr fun type promised => missing type won promised
      | some winner => exact .inl rfl
  | closeCondition index =>
    cases performed
    refine .closeCondition index _ fun task member => ?_
    split at member
    · exact List.mem_singleton.1 member
    · cases member
  | erase id =>
    cases performed
    exact .erase id
  | executed source =>
    cases performed
    exact .executed source
  | announce type =>
    cases performed
    exact .announce type
  | resolve id type =>
    cases performed
    exact .resolve id type
  | inform index result =>
    cases performed
    exact .inform index result
  | close =>
    cases performed
    exact .close

theorem token_of_request {future : Option ConditionType}
    (request : memory.requests[id]? = some ⟨token, future⟩) : memory.token id = token := by
  rw [Memory.token, request]
  rfl

theorem inside_of_token (token : memory.token id = some source) : id < memory.requests.length := by
  obtain ⟨request, found, _⟩ := Option.bind_eq_some_iff.1 token
  exact (List.getElem?_eq_some_iff.1 found).1

/-- What is there stays. New entries are those of new requests. -/
structure Advances (memory after : Memory) : Prop where
  winner : ∀ index, memory.winner = some index → after.winner = some index
  promised : ∀ index type, memory.Promised index type → after.Promised index type
  fired : memory.fired <+: after.fired
  closeCalled : memory.closeCalled = true → after.closeCalled = true
  types : after.conditions.map TimedCondition.type = memory.conditions.map TimedCondition.type
  cancelled : ∀ source, (memory.sources source).cancelled = true → (after.sources source).cancelled = true
  length : memory.requests.length ≤ after.requests.length
  token : ∀ id, id < memory.requests.length → after.token id = memory.token id
  pending : ∀ entry ∈ after.pending, (∃ before ∈ memory.pending, before.id = entry.id) ∨
    memory.requests.length ≤ entry.id

theorem Advances.refl (memory : Memory) : Advances memory memory where
  winner _ won := won
  promised _ _ promised := promised
  fired := List.prefix_rfl
  closeCalled called := called
  types := rfl
  cancelled _ cancelled := cancelled
  length := le_rfl
  token _ _ := rfl
  pending entry member := .inl ⟨entry, member, rfl⟩

theorem promised_set {type known : ConditionType} (unresolved : memory.promises[index]? = some none)
    (promises : after.promises = memory.promises.set index (some type)) :
    after.Promised other known ↔ other = index ∧ known = type ∨ memory.Promised other known := by
  have inside : index < memory.promises.length := (List.getElem?_eq_some_iff.1 unresolved).1
  rw [Promised, Promised, promises, List.getElem?_set]
  by_cases same : index = other
  · cases same
    rw [if_pos rfl, if_pos inside, unresolved, Option.some.injEq, Option.some.injEq, eq_comm]
    exact ⟨fun known => .inl ⟨rfl, known⟩, fun either => either.elim And.right fun before => by cases before⟩
  · rw [if_neg same]
    exact ⟨.inr, fun either => either.resolve_left fun here => same here.1.symm⟩

theorem map_modify_type {change : TimedCondition → TimedCondition}
    (same : ∀ condition, (change condition).type = condition.type) :
    (conditions.modify index change).map TimedCondition.type = conditions.map TimedCondition.type := by
  induction conditions generalizing index with
  | nil => cases index <;> rfl
  | cons condition conditions ih =>
    cases index with
    | zero => exact congrArg (· :: _) (same condition)
    | succ index => exact congrArg (_ :: ·) ih

theorem map_set_type {before changed : TimedCondition}
    (found : conditions[index]? = some before) (same : changed.type = before.type) :
    (conditions.set index changed).map TimedCondition.type = conditions.map TimedCondition.type := by
  obtain ⟨inside, rfl⟩ := List.getElem?_eq_some_iff.1 found
  rw [List.map_set, same, ← List.getElem_map TimedCondition.type (h := by rwa [List.length_map])]
  exact List.set_getElem_self _

theorem close_type (condition : TimedCondition) : condition.close.type = condition.type := by
  unfold TimedCondition.close TimedCondition.cancelTimer
  split
  · rfl
  · split <;> rfl

theorem sources_setSource_self (source : Nat) (state : CancellationState) :
    (memory.setSource source state).sources source = state := by
  simp [setSource]

theorem sources_setSource_ne (different : other ≠ source) (state : CancellationState) :
    (memory.setSource source state).sources other = memory.sources other := by
  simp [setSource, different]

theorem advances_setSource {state : CancellationState}
    (cancelled : (memory.sources source).cancelled = true → state.cancelled = true) :
    Advances memory (memory.setSource source state) := by
  refine { Advances.refl memory with cancelled := fun other before => ?_ }
  by_cases same : other = source
  · cases same
    rw [sources_setSource_self]
    exact cancelled before
  · rw [sources_setSource_ne same]
    exact before

theorem getElem?_resolve (id other : Nat) (type : ConditionType) :
    (memory.resolve id type).requests[other]? = memory.requests[other]?.map fun request =>
      if id = other then { request with future := request.future.or (some type) } else request :=
  List.getElem?_modify ..

theorem token_resolve (id : Nat) (type : ConditionType) (other : Nat) :
    (memory.resolve id type).token other = memory.token other := by
  rw [Memory.token, Memory.token, getElem?_resolve]
  cases memory.requests[other]? with
  | none => rfl
  | some request => by_cases same : id = other <;> simp [same]

theorem advances_push (request : Request) {pending : List PendingEntry}
    (new : ∀ entry ∈ pending, entry.id = memory.requests.length) :
    Advances memory { memory with requests := memory.requests ++ [request], pending := memory.pending ++ pending } where
  __ := Advances.refl memory
  length := by simp
  token id inside := by
    rw [Memory.token, List.getElem?_append_left inside]
    rfl
  pending entry member := by
    obtain before | fresh := List.mem_append.1 member
    · exact .inl ⟨entry, before, rfl⟩
    · exact .inr (new entry fresh).ge

theorem Starts.advances (starts : memory.Starts call after tasks) : Advances memory after := by
  cases starts with
  | timer index delay firedNormally condition tasks found =>
    exact { Advances.refl memory with types := map_set_type found rfl }
  | close => exact { Advances.refl memory with closeCalled := fun _ => rfl }
  | _ => exact .refl memory

theorem Does.advances (does : memory.Does task after tasks) : Advances memory after := by
  cases does with
  | answer token type =>
    have pushed := @advances_push memory ⟨token, some type⟩ [] (by simp)
    rwa [List.append_nil] at pushed
  | wait token => exact advances_push _ (by simp)
  | register | deregister | executed | callback => exact advances_setSource fun before => before
  | cancel => exact advances_setSource fun _ => rfl
  | erase id =>
    refine { Advances.refl memory with pending := fun entry member => ?_ }
    exact .inl ⟨entry, List.mem_of_mem_filter member, rfl⟩
  | attach id =>
    refine { Advances.refl memory with pending := fun entry member => ?_ }
    obtain ⟨before, there, rfl⟩ := List.mem_map.1 member
    exact .inl ⟨before, there, by split <;> rfl⟩
  | fire index type unresolved =>
    refine { Advances.refl memory with promised := fun _ _ before => ?_, fired := List.prefix_append _ _ }
    exact (promised_set unresolved rfl).2 (.inr before)
  | cancelPromise index unresolved =>
    refine { Advances.refl memory with promised := fun _ _ before => ?_ }
    exact (promised_set unresolved rfl).2 (.inr before)
  | notice index type none =>
    refine { Advances.refl memory with winner := fun _ won => ?_ }
    cases none.symm.trans won
  | announce | close => exact { Advances.refl memory with pending := fun _ member => by cases member }
  | resolve id type =>
    refine { Advances.refl memory with length := ?_, token := fun other _ => token_resolve id type other }
    rw [Memory.resolve, List.length_modify]
  | inform index result =>
    refine { Advances.refl memory with types := map_modify_type fun condition => ?_ }
    exact FDv2DataSystem.inform_type condition result
  | closeCondition => exact { Advances.refl memory with types := map_modify_type close_type }
  | _ => exact .refl memory

theorem filterMap_quiet {Kind : Type} {kind : Task → Option Kind} {others : Multiset Task}
    (none : ∀ task ∈ tasks, kind task = none) :
    (tasks + others : Multiset Task).filterMap kind = others.filterMap kind := by
  rw [Multiset.filterMap_add, Multiset.filterMap_coe, List.filterMap_eq_nil_iff.2 none, Multiset.coe_nil,
    Multiset.zero_add]

theorem mem_later {later : Task} {others : Multiset Task} (member : later ∈ task ::ₘ others)
    (different : later ≠ task) : later ∈ (tasks + others : Multiset Task) :=
  Multiset.mem_add.2 (.inr ((Multiset.mem_cons.1 member).resolve_left different))

theorem Advances.isCancelled (advances : Advances memory after)
    (cancelled : memory.isCancelled token = true) : after.isCancelled token = true := by
  cases token with
  | none => cases cancelled
  | some source => exact advances.cancelled source cancelled

end Memory

def Task.Fits (memory : Memory) : Task → Prop
  | .register id | .attach id => id < memory.requests.length
  | .erase id => memory.isCancelled (memory.token id) = true
  | .deregister id => id < memory.requests.length ∧ ∀ entry ∈ memory.pending, entry.id ≠ id
  | .callbacks source => (memory.sources source).cancelled = true
  | .fire _ type => type ≠ .cancelled
  | .notice index => ∃ type, memory.Promised index type
  | .closeCondition _ | .cancelPromise _ | .close => memory.closeCalled = true
  | _ => True

theorem Memory.Advances.fits {memory after : Memory} (advances : Advances memory after) {task : Task}
    (fits : task.Fits memory) : task.Fits after := by
  cases task with
  | register | attach => exact lt_of_lt_of_le fits advances.length
  | erase id =>
    cases token : memory.token id with
    | none =>
      rw [Task.Fits, token] at fits
      cases fits
    | some source =>
      rw [Task.Fits, advances.token id (inside_of_token token)]
      exact advances.isCancelled fits
  | deregister id =>
    refine ⟨lt_of_lt_of_le fits.1 advances.length, fun entry member => ?_⟩
    obtain ⟨before, there, same⟩ | fresh := advances.pending entry member
    · exact same ▸ fits.2 before there
    · exact (lt_of_lt_of_le fits.1 fresh).ne'
  | callbacks source => exact advances.cancelled source fits
  | notice index =>
    obtain ⟨type, promised⟩ := fits
    exact ⟨type, advances.promised index type promised⟩
  | closeCondition | cancelPromise | close => exact advances.closeCalled fits
  | _ => exact fits

end FlagSdk.Fdv2.Conditions
