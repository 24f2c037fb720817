import FlagSdk.Events.Outbox
import FlagSdk.Lib.Runs

/-! The cache of context keys over whole histories of calls. It knows the keys that were noticed last, as many as it has
room for. With no room at all there is nothing that it could remove, and the loop that makes room reads from an empty
list. -/

namespace FlagSdk.Events
open Lib.Runs

/-- The settings that the builder accepts. It checks the capacity of the queue, and not that of the cache. -/
structure EventsConfig where
  capacity : Nat
  contextKeysCacheCapacity : Option Nat
  nonzero : capacity ≠ 0

def EventsConfig.build (capacity : Nat) (contextKeysCacheCapacity : Option Nat) : Option EventsConfig :=
  if zero : capacity = 0 then none else some ⟨capacity, contextKeysCacheCapacity, zero⟩

namespace LRUCache

def new (config : EventsConfig) : LRUCache := ⟨config.contextKeysCacheCapacity.getD 0, ∅, []⟩

def clear (cache : LRUCache) : LRUCache := { cache with map := ∅, list := [] }

inductive Call where
  | notice (key : String)
  | clear

def call (cache : LRUCache) : Call → Option LRUCache
  | .notice key => (cache.notice key).map Prod.snd
  | .clear => some cache.clear

/-- The distinct keys that were noticed since the cache was cleared, the latest first. -/
def recent (calls : List Call) : List String :=
  calls.foldl (fun keys call =>
    match call with
    | .notice key => key :: keys.filter (· ≠ key)
    | .clear => []) []

theorem makeRoom_of_lt {capacity : Nat} (oldest : List String) {map : Finset String} (room : map.card < capacity) :
    makeRoom capacity oldest map = some (oldest, map) := by
  cases oldest <;> simp [makeRoom, room]

variable {keys list : List String} {key : String} {room : Nat}

theorem makeRoom_toFinset (distinct : list.Nodup) (bounded : list.length ≤ room + 1) :
    makeRoom (room + 1) list.reverse list.toFinset = some ((list.take room).reverse, (list.take room).toFinset) := by
  have card := List.toFinset_card_of_nodup distinct
  by_cases fits : list.length ≤ room
  · rw [List.take_of_length_le fits, makeRoom_of_lt]
    omega
  obtain rfl | ⟨newer, oldest, rfl⟩ := List.eq_nil_or_concat list
  · exact absurd (Nat.zero_le room) fits
  rw [List.concat_eq_append] at *
  obtain ⟨distinctNewer, _, apart⟩ := List.nodup_append.1 distinct
  rw [List.length_append, List.length_singleton] at bounded fits card
  have full : newer.length = room := by omega
  have kept : (newer ++ [oldest]).toFinset.erase oldest = newer.toFinset := by
    have fresh : oldest ∉ newer.toFinset := fun member =>
      apart oldest (List.mem_toFinset.1 member) oldest (List.mem_singleton_self oldest) rfl
    rw [List.toFinset_append, Finset.union_comm, List.toFinset_cons, List.toFinset_nil, insert_empty_eq,
      ← Finset.insert_eq, Finset.erase_insert fresh]
  rw [List.reverse_append, List.reverse_singleton, List.singleton_append, makeRoom, if_pos (by omega), kept,
    makeRoom_of_lt _ (by rw [List.toFinset_card_of_nodup distinctNewer]; omega), List.take_left' full]

theorem length_filter_ne (distinct : list.Nodup) (key : String) :
    (list.filter (· ≠ key)).length = if key ∈ list then list.length - 1 else list.length := by
  rw [← List.length_erase, distinct.erase_eq_filter]
  simp only [ne_eq, decide_not, bne, beq_eq_decide]

theorem take_filter_ne (distinct : list.Nodup) (key : String) (room : Nat) :
    ((list.take (room + 1)).filter (· ≠ key)).take room = (list.filter (· ≠ key)).take room := by
  conv_rhs => rw [← List.take_append_drop (room + 1) list, List.filter_append]
  by_cases fits : list.length ≤ room + 1
  · rw [List.drop_of_length_le fits, List.filter_nil, List.append_nil]
  · have length := length_filter_ne (distinct.sublist (List.take_sublist (room + 1) list)) key
    rw [List.length_take] at length
    rw [List.take_append_of_le_length]
    split at length <;> omega

theorem notice_eq (distinct : list.Nodup) (bounded : list.length ≤ room + 1) (key : String) :
    notice ⟨room + 1, list.toFinset, list⟩ key =
      some (decide (key ∈ list), ⟨room + 1, (key :: (list.filter (· ≠ key)).take room).toFinset,
        key :: (list.filter (· ≠ key)).take room⟩) := by
  have length := length_filter_ne distinct key
  by_cases known : key ∈ list
  · rw [if_pos known] at length
    rw [List.take_of_length_le (by omega)]
    have same : list.toFinset = (key :: list.filter (· ≠ key)).toFinset := by
      ext other
      by_cases here : other = key <;> simp [here, known]
    rw [notice, if_pos (List.mem_toFinset.2 known), decide_eq_true known, ← same]
  · have copied : list.filter (· ≠ key) = list := List.filter_eq_self.2 fun other member => by
      simpa using ne_of_mem_of_not_mem member known
    rw [copied]
    simp [notice, known, makeRoom_toFinset distinct bounded]

/-- The cache that holds the latest of some keys, as many as it has room for. -/
def holding (capacity : Nat) (keys : List String) : LRUCache :=
  ⟨capacity, (keys.take capacity).toFinset, keys.take capacity⟩

theorem notice_holding (distinct : keys.Nodup) (room : Nat) (key : String) :
    (holding (room + 1) keys).notice key =
      some (decide (key ∈ keys.take (room + 1)), holding (room + 1) (key :: keys.filter (· ≠ key))) := by
  have short : (keys.take (room + 1)).length ≤ room + 1 := List.length_take_le _ _
  rw [holding, notice_eq (distinct.sublist (List.take_sublist _ _)) short, take_filter_ne distinct]
  rfl

variable (calls : List Call)

theorem recent_notice (key : String) : recent (calls ++ [.notice key]) = key :: (recent calls).filter (· ≠ key) := by
  rw [recent, List.foldl_append, ← recent, List.foldl_cons, List.foldl_nil]

theorem recent_clear : recent (calls ++ [.clear]) = [] := by
  rw [recent, List.foldl_append, List.foldl_cons, List.foldl_nil]

theorem nodup_recent : (recent calls).Nodup := by
  induction calls using List.reverseRecOn with
  | nil => exact List.nodup_nil
  | append_singleton calls call ih =>
    cases call with
    | notice key =>
      rw [recent_notice, List.nodup_cons]
      exact ⟨by simp, ih.filter _⟩
    | clear =>
      rw [recent_clear]
      exact List.nodup_nil

theorem run_holding (room : Nat) (calls : List Call) :
    run call (holding (room + 1) []) calls = some (holding (room + 1) (recent calls)) := by
  induction calls using List.reverseRecOn with
  | nil => rfl
  | append_singleton calls call ih =>
    refine run_append_eq_some.2 ⟨_, ih, run_cons_eq_some.2 ⟨_, ?_, rfl⟩⟩
    cases call with
    | notice key => rw [LRUCache.call, notice_holding (nodup_recent calls), Option.map_some, recent_notice]
    | clear =>
      rw [recent_clear]
      rfl

theorem run_of_zero {calls : List Call} {cache : LRUCache} (reached : run call ⟨0, ∅, []⟩ calls = some cache) :
    cache = ⟨0, ∅, []⟩ := by
  have keeps : ∀ {state next : LRUCache} {event : Call}, state = ⟨0, ∅, []⟩ → state.call event = some next →
      next = ⟨0, ∅, []⟩ := by
    rintro _ next event rfl taken
    cases event with
    | notice key => cases taken
    | clear =>
      cases taken
      rfl
  exact run_invariant_of_step keeps rfl reached

/-- A key that is noticed is known exactly when it is among the latest, if the cache has room for any. -/
theorem notice_right_iff (config : EventsConfig) (calls : List Call) (key : String) :
    (∃ cache after, run call (new config) calls = some cache ∧
      cache.notice key =
        some (decide (key ∈ (recent calls).take (config.contextKeysCacheCapacity.getD 0)), after) ∧
      after.map = after.list.toFinset ∧ after.list.Nodup ∧
      after.list.length ≤ config.contextKeysCacheCapacity.getD 0) ↔
      0 < config.contextKeysCacheCapacity.getD 0 := by
  unfold new
  cases config.contextKeysCacheCapacity.getD 0 with
  | zero =>
    refine iff_of_false ?_ (Nat.lt_irrefl 0)
    rintro ⟨cache, after, reached, noticed, _⟩
    rw [run_of_zero reached] at noticed
    cases noticed
  | succ room =>
    refine iff_of_true ⟨_, _, run_holding room calls, notice_holding (nodup_recent calls) room key, rfl, ?_, ?_⟩
      (Nat.succ_pos room)
    · have distinct := nodup_recent (calls ++ [.notice key])
      rw [recent_notice] at distinct
      exact distinct.sublist (List.take_sublist _ _)
    · exact List.length_take_le _ _

/-- The builder accepts a cache without room and one without a capacity, and neither can notice a key. -/
theorem notice_undefined : ∃ zero unset, EventsConfig.build 1 (some 0) = some zero ∧
    EventsConfig.build 1 none = some unset ∧ (new zero).notice "a" = none ∧ (new unset).notice "a" = none :=
  ⟨_, _, rfl, rfl, rfl, rfl⟩

end LRUCache

end FlagSdk.Events
