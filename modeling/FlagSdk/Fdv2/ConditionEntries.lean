import FlagSdk.Fdv2.ConditionSteps
import Mathlib.Data.Multiset.UnionInter

/-! Who holds the promises of the futures. A promise is in its pending entry until a thread takes it to resolve it,
and only the cancellation of its token lets it go before. -/

namespace FlagSdk.Fdv2.Conditions
open Lib.Threads

def Task.resolved : Task → Option Nat
  | .resolve id _ => some id
  | _ => none

namespace Memory
variable (memory : Memory)

def holders (tasks : Multiset Task) : Multiset Nat :=
  (memory.pending.map PendingEntry.id : Multiset Nat) + tasks.filterMap Task.resolved

structure Held (tasks : Multiset Task) : Prop where
  settled : memory.aggregateResult.isSome = true → memory.pending = []
  nodup : (memory.holders tasks).Nodup
  unresolved : ∀ id ∈ memory.holders tasks, ∃ token, memory.requests[id]? = some ⟨token, none⟩
  kept : ∀ id token, memory.requests[id]? = some ⟨token, none⟩ →
    id ∈ memory.holders tasks ∨ memory.isCancelled token = true

structure Attended (tasks : Multiset Task) : Prop where
  registered : ∀ source, ∀ id ∈ (memory.sources source).callbacks, memory.token id = some source
  /-- The callbacks of a source that was cancelled are about to be called. -/
  busy : ∀ source, (memory.sources source).cancelled = true → (memory.sources source).callbacks ≠ [] →
    .callbacks source ∈ tasks
  /-- An entry with a source has its callback there, or it is about to be registered or called. -/
  watched : ∀ entry ∈ memory.pending, ∀ source, memory.token entry.id = some source →
    .register entry.id ∈ tasks ∨ .erase entry.id ∈ tasks ∨ entry.id ∈ (memory.sources source).callbacks

structure Entries (tasks : Multiset Task) : Prop where
  fits : ∀ task ∈ tasks, task.Fits memory
  held : memory.Held tasks
  attended : memory.Attended tasks

variable {memory} {after : Memory} {task : Task} {tasks : List Task} {before others : Multiset Task} {id : Nat}
    {entry : PendingEntry} {type : ConditionType} {call : Call}

theorem mem_holders : id ∈ memory.holders others ↔
    (∃ entry ∈ memory.pending, entry.id = id) ∨ ∃ type, .resolve id type ∈ others := by
  rw [holders, Multiset.mem_add, Multiset.mem_coe, List.mem_map, Multiset.mem_filterMap]
  refine or_congr Iff.rfl ⟨?_, ?_⟩
  · rintro ⟨task, member, resolved⟩
    cases task with
    | resolve other type =>
      cases resolved
      exact ⟨type, member⟩
    | _ => cases resolved
  · rintro ⟨type, member⟩
    exact ⟨.resolve id type, member, rfl⟩

theorem Held.inside_of_pending (held : memory.Held others) (member : entry ∈ memory.pending) :
    entry.id < memory.requests.length := by
  obtain ⟨token, request⟩ := held.unresolved entry.id (mem_holders.2 (.inl ⟨entry, member, rfl⟩))
  exact (List.getElem?_eq_some_iff.1 request).1

theorem holders_eq (ids : after.pending.map PendingEntry.id = memory.pending.map PendingEntry.id)
    (quiet : task.resolved = none) (none : ∀ task ∈ tasks, task.resolved = none) :
    after.holders (tasks + others) = memory.holders (task ::ₘ others) := by
  rw [holders, ids, filterMap_quiet none, holders, Multiset.filterMap_cons_none _ _ quiet]

theorem mem_drained : task ∈ memory.drained type ↔
    ∃ entry ∈ memory.pending, task = .resolve entry.id type ∨ entry.cancelCb = true ∧ task = .deregister entry.id := by
  rw [drained, List.mem_append, List.mem_map, List.mem_map]
  constructor
  · rintro (⟨entry, member, rfl⟩ | ⟨entry, member, rfl⟩)
    · exact ⟨entry, member, .inl rfl⟩
    · exact ⟨entry, (List.mem_filter.1 member).1, .inr ⟨(List.mem_filter.1 member).2, rfl⟩⟩
  · rintro ⟨entry, member, rfl | ⟨owned, rfl⟩⟩
    · exact .inl ⟨entry, member, rfl⟩
    · exact .inr ⟨entry, List.mem_filter.2 ⟨member, owned⟩, rfl⟩

theorem filterMap_drained (type : ConditionType) :
    (memory.drained type).filterMap Task.resolved = memory.pending.map PendingEntry.id := by
  have resolves : (fun entry : PendingEntry => (Task.resolve entry.id type).resolved) = fun entry => some entry.id :=
    rfl
  have none : (fun entry : PendingEntry => (Task.deregister entry.id).resolved) = fun _ => none := rfl
  rw [drained, List.filterMap_append, List.filterMap_map, List.filterMap_map, Function.comp_def, Function.comp_def,
    resolves, none, List.filterMap_none, List.append_nil, List.filterMap_eq_map']

theorem holders_drained (taken : after.pending = []) (quiet : task.resolved = none) :
    after.holders (memory.drained type + others) = memory.holders (task ::ₘ others) := by
  rw [holders, taken, Multiset.filterMap_add, Multiset.filterMap_coe, filterMap_drained, List.map_nil,
    Multiset.coe_nil, Multiset.zero_add, holders, Multiset.filterMap_cons_none _ _ quiet]

theorem Held.stay (held : memory.Held before) (advances : Advances memory after)
    (holders : after.holders others = memory.holders before) (requests : after.requests = memory.requests)
    (settled : after.aggregateResult.isSome = true → after.pending = []) : after.Held others := by
  refine ⟨settled, ?_, ?_, ?_⟩
  · exact holders ▸ held.nodup
  · rw [holders, requests]
    exact held.unresolved
  · rw [holders, requests]
    exact fun id token request => (held.kept id token request).imp_right advances.isCancelled

theorem Held.push (held : memory.Held (task ::ₘ others)) {request : Request} {pending : List PendingEntry}
    (settled : memory.aggregateResult.isSome = true → pending = [])
    (new : pending.map PendingEntry.id = if request.future = none then [memory.requests.length] else [])
    (quiet : task.resolved = none) (coming : ∀ task ∈ tasks, task.resolved = none) :
    ({ memory with requests := memory.requests ++ [request], pending := memory.pending ++ pending } : Memory).Held
      (tasks + others) := by
  have holders : ({ memory with requests := memory.requests ++ [request], pending := memory.pending ++ pending } :
      Memory).holders (tasks + others) =
        (pending.map PendingEntry.id : Multiset Nat) + memory.holders (task ::ₘ others) := by
    rw [Memory.holders, Memory.holders, filterMap_quiet coming, Multiset.filterMap_cons_none _ _ quiet,
      List.map_append, ← Multiset.coe_add, Multiset.add_comm (memory.pending.map PendingEntry.id : Multiset Nat),
      Multiset.add_assoc]
  have fresh {id : Nat} (member : id ∈ pending.map PendingEntry.id) :
      id = memory.requests.length ∧ request.future = none := by
    rw [new] at member
    split at member
    case isTrue unresolved => exact ⟨List.mem_singleton.1 member, unresolved⟩
    case isFalse => cases member
  refine ⟨fun set => ?_, ?_, ?_, ?_⟩
  · rw [held.settled set, settled set]
    rfl
  · rw [holders, Multiset.nodup_add]
    refine ⟨?_, held.nodup, Multiset.disjoint_left.2 fun {id} added old => ?_⟩
    · rw [new]
      split <;> simp
    · obtain ⟨token, found⟩ := held.unresolved id old
      exact (List.getElem?_eq_some_iff.1 found).1.ne (fresh added).1
  · rw [holders]
    intro id member
    obtain added | old := Multiset.mem_add.1 member
    · obtain ⟨rfl, unresolved⟩ := fresh added
      exact ⟨request.token, by rw [List.getElem?_concat_length, ← unresolved]⟩
    · obtain ⟨token, found⟩ := held.unresolved id old
      exact ⟨token, by rw [List.getElem?_append_left (List.getElem?_eq_some_iff.1 found).1, found]⟩
  · rw [holders]
    intro id token found
    by_cases inside : id < memory.requests.length
    · rw [List.getElem?_append_left inside] at found
      exact (held.kept id token found).imp_left fun old => Multiset.mem_add.2 (.inr old)
    · have last : id = memory.requests.length := by
        have bound := (List.getElem?_eq_some_iff.1 found).1
        rw [List.length_append, List.length_singleton] at bound
        omega
      rw [last, List.getElem?_concat_length] at found
      refine .inl (Multiset.mem_add.2 (.inl ?_))
      rw [new, Option.some.inj found, if_pos rfl]
      exact List.mem_singleton.2 last

theorem Held.erase (held : memory.Held (.erase id ::ₘ others))
    (cancelled : memory.isCancelled (memory.token id) = true) : (memory.erase id).Held others := by
  have fewer : (memory.erase id).holders others ≤ memory.holders (.erase id ::ₘ others) := by
    rw [holders, holders, Multiset.filterMap_cons_none _ _ rfl]
    exact Multiset.add_le_add_right (Multiset.coe_le.2 (List.filter_sublist.map _).subperm)
  refine ⟨fun set => ?_, Multiset.nodup_of_le fewer held.nodup, ?_, fun other token request => ?_⟩
  · rw [Memory.erase, held.settled set]
    rfl
  · exact fun other member => held.unresolved other (Multiset.mem_of_le fewer member)
  · by_cases same : other = id
    · cases same
      exact .inr (token_of_request request ▸ cancelled)
    · refine (held.kept other token request).imp_left fun member => mem_holders.2 ?_
      obtain ⟨entry, there, known⟩ | ⟨type, there⟩ := mem_holders.1 member
      · exact .inl ⟨entry, List.mem_filter.2 ⟨there, decide_eq_true (known ▸ same)⟩, known⟩
      · exact .inr ⟨type, by simpa using there⟩

theorem getElem?_resolve_ne {other : Nat} (type : ConditionType) (different : other ≠ id) :
    (memory.resolve id type).requests[other]? = memory.requests[other]? := by
  simp [getElem?_resolve, different.symm]

theorem Held.resolve (held : memory.Held (.resolve id type ::ₘ others)) : (memory.resolve id type).Held others := by
  have holders : memory.holders (.resolve id type ::ₘ others) = id ::ₘ memory.holders others := by
    rw [Memory.holders, Multiset.filterMap_cons_some Task.resolved (.resolve id type) others rfl, Multiset.add_cons]
    rfl
  obtain ⟨alone, nodup⟩ := Multiset.nodup_cons.1 (holders ▸ held.nodup)
  refine ⟨held.settled, nodup, fun other member => ?_, fun other token request => ?_⟩
  · have different : other ≠ id := fun same => alone (same ▸ member)
    rw [getElem?_resolve_ne type different]
    exact held.unresolved other (holders ▸ Multiset.mem_cons_of_mem member)
  · have different : other ≠ id := by
      rintro rfl
      rw [getElem?_resolve, Option.map_eq_some_iff] at request
      obtain ⟨before, _, same⟩ := request
      have none := congrArg Request.future same
      cases future : before.future <;> simp [future] at none
    rw [getElem?_resolve_ne type different] at request
    refine (held.kept other token request).imp_left fun member => ?_
    exact (Multiset.mem_cons.1 (holders ▸ member)).resolve_left different

theorem Held.does (held : memory.Held (task ::ₘ others)) (fits : task.Fits memory)
    (does : memory.Does task after tasks) : after.Held (tasks + others) := by
  have advances := does.advances
  cases does with
  | answer token type =>
    have pushed := @Held.push memory _ [] others held ⟨token, some type⟩ [] (fun _ => rfl) rfl rfl (by simp)
    rwa [List.append_nil] at pushed
  | wait token undecided =>
    refine held.push (fun set => ?_) rfl rfl (by simp [Task.resolved])
    rw [undecided] at set
    cases set
  | erase id =>
    rw [Multiset.coe_nil, Multiset.zero_add]
    exact held.erase fits
  | resolve id type =>
    rw [Multiset.coe_nil, Multiset.zero_add]
    exact held.resolve
  | attach id =>
    refine held.stay advances (holders_eq ?_ rfl (by simp)) rfl fun set => ?_
    · rw [List.map_map]
      refine List.map_congr_left fun entry _ => ?_
      rw [Function.comp_apply]
      split <;> rfl
    · rw [held.settled set]
      rfl
  | announce | close => exact held.stay advances (holders_drained rfl rfl) rfl fun _ => rfl
  | closeCondition index tasks closes =>
    exact held.stay advances (holders_eq rfl rfl fun task member => closes task member ▸ rfl) rfl held.settled
  | skip task optional =>
    have quiet : task.resolved = none := by
      cases task with
      | resolve => cases optional
      | _ => rfl
    exact held.stay advances (holders_eq rfl quiet (by simp)) rfl held.settled
  | _ => exact held.stay advances (holders_eq rfl rfl (by simp [Task.resolved])) rfl held.settled

theorem Does.pending (does : memory.Does task after tasks) (member : entry ∈ after.pending) :
    (∃ earlier ∈ memory.pending, earlier.id = entry.id) ∨ .register entry.id ∈ tasks := by
  cases does with
  | wait =>
    obtain earlier | fresh := List.mem_append.1 member
    · exact .inl ⟨entry, earlier, rfl⟩
    · rw [List.mem_singleton.1 fresh]
      exact .inr List.mem_cons_self
  | erase => exact .inl ⟨entry, List.mem_of_mem_filter member, rfl⟩
  | attach =>
    obtain ⟨earlier, there, rfl⟩ := List.mem_map.1 member
    exact .inl ⟨earlier, there, by split <;> rfl⟩
  | announce | close => cases member
  | _ => exact .inl ⟨entry, member, rfl⟩

section
variable (attended : memory.Attended (task ::ₘ others)) (does : memory.Does task after tasks)
include attended does

theorem Attended.registered_does : ∀ source, ∀ id ∈ (after.sources source).callbacks, after.token id = some source := by
  have advances := does.advances
  have changed {here : Nat} {state : CancellationState} (new : ∀ id ∈ state.callbacks, memory.token id = some here) :=
    (Function.forall_update_iff memory.sources fun source state => ∀ id ∈ state.callbacks, memory.token id = some source).2
      ⟨new, fun source _ => attended.registered source⟩
  cases does with
  | register id here token =>
    refine changed fun other member => ?_
    obtain earlier | same := List.mem_append.1 member
    · exact attended.registered here other earlier
    · exact List.mem_singleton.1 same ▸ token
  | deregister id here => exact changed fun other member => attended.registered here other (List.mem_of_mem_erase member)
  | callback here id callbacks waiting =>
    exact changed fun other member => attended.registered here other (waiting ▸ List.mem_cons_of_mem _ member)
  | cancel here | executed here => exact changed (attended.registered here)
  | _ =>
    intro source id member
    have token := attended.registered source id member
    exact (advances.token id (inside_of_token token)).trans token

theorem Attended.busy_does : ∀ source, (after.sources source).cancelled = true → (after.sources source).callbacks ≠ [] →
    .callbacks source ∈ (tasks + others : Multiset Task) := by
  have old {source : Nat} (cancelled : (memory.sources source).cancelled = true)
      (waiting : (memory.sources source).callbacks ≠ []) (other : .callbacks source ≠ task) :
      .callbacks source ∈ (tasks + others : Multiset Task) :=
    mem_later (attended.busy source cancelled waiting) other
  have changed {here : Nat} {state : CancellationState}
      (busy : state.cancelled = true → state.callbacks ≠ [] → .callbacks here ∈ (tasks + others : Multiset Task))
      (other : ∀ source, source ≠ here → .callbacks source ≠ task) :=
    (Function.forall_update_iff memory.sources fun source state => state.cancelled = true → state.callbacks ≠ [] →
      .callbacks source ∈ (tasks + others : Multiset Task)).2
      ⟨busy, fun source different cancelled waiting => old cancelled waiting (other source different)⟩
  cases does with
  | register id here token live =>
    refine changed (fun cancelled => ?_) fun _ _ => Task.noConfusion
    cases live.symm.trans cancelled
  | deregister id here =>
    refine changed (fun cancelled waiting => old cancelled (fun none => waiting ?_) Task.noConfusion)
      fun _ _ => Task.noConfusion
    rw [none, List.erase_nil]
  | cancel here => exact changed (fun _ _ => by simp) fun _ _ => Task.noConfusion
  | executed here =>
    exact changed (fun cancelled waiting => old cancelled waiting Task.noConfusion) fun _ _ => Task.noConfusion
  | callback here =>
    refine changed (fun _ _ => by simp) fun source different same => different ?_
    cases same
    rfl
  | callbacksDone here none =>
    refine fun source cancelled waiting => old cancelled waiting fun same => waiting ?_
    cases same
    exact none
  | skip task optional =>
    refine fun source cancelled waiting => old cancelled waiting ?_
    rintro rfl
    cases optional
  | _ => exact fun source cancelled waiting => old cancelled waiting Task.noConfusion

theorem Attended.watched_does (held : memory.Held (task ::ₘ others)) (fits : task.Fits memory) :
    ∀ entry ∈ after.pending, ∀ source, after.token entry.id = some source →
      .register entry.id ∈ (tasks + others : Multiset Task) ∨ .erase entry.id ∈ (tasks + others : Multiset Task) ∨
        entry.id ∈ (after.sources source).callbacks := by
  intro entry member source token
  obtain ⟨earlier, there, same⟩ | fresh := does.pending member
  · have inside : entry.id < memory.requests.length := same ▸ held.inside_of_pending there
    have token : memory.token entry.id = some source := (does.advances.token entry.id inside).symm.trans token
    have old := attended.watched earlier there source (same.symm ▸ token)
    rw [same] at old
    have keep (register : .register entry.id ≠ task) (erase : .erase entry.id ≠ task)
        (kept : entry.id ∈ (memory.sources source).callbacks → .erase entry.id ∈ tasks ∨
          entry.id ∈ (after.sources source).callbacks) :
        .register entry.id ∈ (tasks + others : Multiset Task) ∨ .erase entry.id ∈ (tasks + others : Multiset Task) ∨
          entry.id ∈ (after.sources source).callbacks := by
      refine old.imp (mem_later · register) ?_
      rintro (erasing | there)
      · exact .inl (mem_later erasing erase)
      · exact (kept there).imp_left fun new => Multiset.mem_add.2 (.inl new)
    have changed {here : Nat} {state : CancellationState} (member : entry.id ∈ (memory.sources source).callbacks)
        (kept : source = here → entry.id ∈ state.callbacks) :
        entry.id ∈ ((memory.setSource here state).sources source).callbacks := by
      by_cases this : source = here
      · cases this
        rw [sources_setSource_self]
        exact kept rfl
      · rwa [sources_setSource_ne this]
    cases does with
    | registerNowhere id none =>
      refine keep (fun here => ?_) Task.noConfusion .inr
      cases here
      cases none.symm.trans token
    | registerLate id =>
      by_cases here : entry.id = id
      · exact .inr (.inl (by simp [here]))
      · exact keep (by simpa using here) Task.noConfusion .inr
    | register id source' token' =>
      by_cases here : entry.id = id
      · cases (here ▸ token').symm.trans token
        refine .inr (.inr ?_)
        rw [sources_setSource_self]
        exact List.mem_append_right _ (List.mem_singleton.2 here)
      · refine keep (by simpa using here) Task.noConfusion fun there => .inr (changed there ?_)
        rintro rfl
        exact List.mem_append_left _ there
    | erase id =>
      have other : entry.id ≠ id := of_decide_eq_true (List.mem_filter.1 member).2
      exact keep Task.noConfusion (by simpa using other) .inr
    | deregister id =>
      refine keep Task.noConfusion Task.noConfusion fun there' => .inr (changed there' ?_)
      rintro rfl
      exact (List.mem_erase_of_ne (same ▸ fits.2 earlier there)).2 there'
    | cancel | executed =>
      refine keep Task.noConfusion Task.noConfusion fun there => .inr (changed there ?_)
      rintro rfl
      exact there
    | callback here id callbacks waiting =>
      refine keep Task.noConfusion Task.noConfusion fun there => ?_
      by_cases first : entry.id = id
      · exact .inl (by simp [first])
      · refine .inr (changed there ?_)
        rintro rfl
        exact (List.mem_cons.1 (waiting ▸ there)).resolve_left first
    | skip task optional =>
      refine keep ?_ ?_ .inr <;> rintro rfl <;> cases optional
    | _ => exact keep Task.noConfusion Task.noConfusion .inr
  · exact .inl (Multiset.mem_add.2 (.inl fresh))

end

theorem Entries.fits_does (entries : memory.Entries (task ::ₘ others)) (does : memory.Does task after tasks) :
    ∀ task ∈ tasks, task.Fits after := by
  have fits := entries.fits task (Multiset.mem_cons_self _ _)
  have advances := does.advances
  have drained (type : ConditionType) (taken : after.pending = []) : ∀ task ∈ memory.drained type, task.Fits after := by
    intro task member
    obtain ⟨entry, there, rfl | ⟨-, rfl⟩⟩ := mem_drained.1 member
    · trivial
    · refine ⟨lt_of_lt_of_le (entries.held.inside_of_pending there) advances.length, ?_⟩
      rw [taken]
      exact fun _ none => absurd none List.not_mem_nil
  cases does with
  | wait => simp [Task.Fits]
  | registerNowhere | register => exact List.forall_mem_singleton.2 fits
  | registerLate id source token cancelled =>
    refine List.forall_mem_cons.2 ⟨?_, List.forall_mem_singleton.2 fits⟩
    rw [Task.Fits, token]
    exact cancelled
  | attachLate id gone => exact List.forall_mem_singleton.2 ⟨fits, gone⟩
  | cancel source =>
    refine List.forall_mem_singleton.2 ?_
    rw [Task.Fits, sources_setSource_self]
  | callback source id callbacks waiting =>
    have token := entries.attended.registered source id (waiting ▸ List.mem_cons_self)
    have erased : Task.Fits memory (.erase id) := by
      rw [Task.Fits, token]
      exact fits
    exact List.forall_mem_cons.2 ⟨advances.fits erased, List.forall_mem_cons.2
      ⟨trivial, List.forall_mem_singleton.2 (advances.cancelled source fits)⟩⟩
  | fire index type unresolved | cancelPromise index unresolved =>
    exact List.forall_mem_singleton.2 ⟨_, (promised_set unresolved rfl).2 (.inl ⟨rfl, rfl⟩)⟩
  | announce type | close => exact drained _ rfl
  | closeCondition index tasks closes => exact fun task member => closes task member ▸ fits
  | _ => simp [Task.Fits]

theorem Entries.does (entries : memory.Entries (task ::ₘ others)) (does : memory.Does task after tasks) :
    after.Entries (tasks + others) := by
  have fits := entries.fits task (Multiset.mem_cons_self _ _)
  refine ⟨fun other member => ?_, entries.held.does fits does, ?_⟩
  · obtain new | old := Multiset.mem_add.1 member
    · exact entries.fits_does does other new
    · exact does.advances.fits (entries.fits other (Multiset.mem_cons_of_mem old))
  · exact ⟨entries.attended.registered_does does, entries.attended.busy_does does,
      entries.attended.watched_does does entries.held fits⟩

theorem Starts.aside (starts : memory.Starts call after tasks) :
    after.pending = memory.pending ∧ after.requests = memory.requests ∧ after.sources = memory.sources ∧
      after.aggregateResult = memory.aggregateResult ∧ ∀ task ∈ tasks, task.resolved = none := by
  cases starts with
  | timer index delay firedNormally condition tasks found fires =>
    exact ⟨rfl, rfl, rfl, rfl, fun task member => fires task member ▸ rfl⟩
  | close =>
    simp only [List.mem_append, List.mem_map, List.mem_singleton, true_and]
    rintro task (⟨index, -, rfl⟩ | rfl) <;> rfl
  | _ => simp [Task.resolved]

theorem Entries.starts (entries : memory.Entries others) (starts : memory.Starts call after tasks)
    (types : ∀ type ∈ memory.conditions.map TimedCondition.type, type ≠ .cancelled) :
    after.Entries (tasks + others) := by
  have advances := starts.advances
  obtain ⟨pending, requests, sources, result, quiet⟩ := starts.aside
  have holders : after.holders (tasks + others) = memory.holders others := by
    rw [Memory.holders, pending, filterMap_quiet quiet, Memory.holders]
  have token (id : Nat) : after.token id = memory.token id := by rw [Memory.token, requests, Memory.token]
  have later {task : Task} (member : task ∈ others) : task ∈ (tasks + others : Multiset Task) :=
    Multiset.mem_add.2 (.inr member)
  refine ⟨fun task member => ?_, entries.held.stay advances holders requests ?_, ?_, ?_, ?_⟩
  · obtain new | old := Multiset.mem_add.1 member
    · cases starts with
      | timer index delay firedNormally condition tasks found fires =>
        rw [fires task new]
        exact types _ (List.mem_map_of_mem (List.mem_of_getElem? found))
      | getFuture | cancel =>
        rw [List.mem_singleton.1 new]
        trivial
      | inform =>
        obtain ⟨index, -, rfl⟩ := List.mem_map.1 new
        trivial
      | close =>
        simp only [Multiset.mem_coe, List.mem_append, List.mem_map, List.mem_singleton] at new
        obtain ⟨index, -, rfl⟩ | rfl := new <;> rfl
    · exact advances.fits (entries.fits task old)
  · rw [result, pending]
    exact entries.held.settled
  · simp only [sources, token]
    exact entries.attended.registered
  · rw [sources]
    exact fun source cancelled waiting => later (entries.attended.busy source cancelled waiting)
  · simp only [pending, sources, token]
    exact fun entry member source known =>
      (entries.attended.watched entry member source known).imp later (Or.imp_left later)

theorem entries_new (factories : List ConditionFactory) : (new factories).Entries 0 where
  fits _ member := absurd member (Multiset.notMem_zero _)
  held :=
    { settled := fun set => absurd set Bool.false_ne_true
      nodup := Multiset.nodup_zero
      unresolved := fun _ member => absurd member (Multiset.notMem_zero _)
      kept := fun _ _ request => by cases request }
  attended :=
    { registered := fun _ _ member => absurd member List.not_mem_nil
      busy := fun _ cancelled => absurd cancelled Bool.false_ne_true
      watched := fun _ member => absurd member List.not_mem_nil }

end Memory

end FlagSdk.Fdv2.Conditions
