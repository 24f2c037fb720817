import FlagSdk.Notifier.Replacement

/-! The memory store under whole histories of calls. Of the change sets that it is given, only the last full one and the
partial ones after it matter. -/

namespace FlagSdk.Data.MemoryStore
open Notifier Dependencies ChangeNotifier

inductive Write where
  | init (dataSet : SDKDataSet)
  | upsert (change : ItemChange)
  | removeFlag (key : String)
  | removeSegment (key : String)
  | apply (changeSet : ChangeSet)

def write (store : MemoryStore) : Write → MemoryStore
  | .init dataSet => store.init dataSet
  | .upsert change => store.upsert change
  | .removeFlag key => store.removeFlag key
  | .removeSegment key => store.removeSegment key
  | .apply changeSet => store.apply changeSet

def Write.initializes : Write → Bool
  | .init _ => true
  | .apply changeSet => changeSet.type = .kFull
  | _ => false

variable (store : MemoryStore)

theorem initialized_write (call : Write) :
    (store.write call).initialized = (call.initializes || store.initialized) := by
  cases call with
  | init | removeFlag | removeSegment => rfl
  | upsert change => exact initialized_upsert store change
  | apply changeSet => exact initialized_apply store changeSet

theorem initialized_writes (calls : List Write) :
    (calls.foldl write store).initialized = true ↔
      store.initialized = true ∨ ∃ call ∈ calls, call.initializes = true := by
  induction calls generalizing store with
  | nil => simp
  | cons call calls ih =>
    rw [List.foldl_cons, ih, initialized_write, Bool.or_eq_true, List.exists_mem_cons_iff, or_assoc, or_left_comm]

/-- The last full change set and the partial ones after it. -/
def effective (changeSets : List ChangeSet) : List ChangeSet :=
  changeSets.foldl (fun kept changeSet =>
    match changeSet.type with
    | .kNone => kept
    | .kPartial => kept ++ [changeSet]
    | .kFull => [changeSet]) []

theorem foldl_apply_effective (changeSets : List ChangeSet) :
    changeSets.foldl apply store = (effective changeSets).foldl apply store := by
  induction changeSets using List.reverseRecOn with
  | nil => rfl
  | append_singleton changeSets changeSet ih =>
    rw [effective, List.foldl_append, List.foldl_append, ← effective, ih]
    simp only [List.foldl_cons, List.foldl_nil]
    cases type : changeSet.type with
    | kNone => simp [apply, type]
    | kPartial => simp
    | kFull => simp [apply, type]

theorem storedItem_apply_full (data : List ItemChange) (selector : Selector) (item : Item) :
    storedItem (store.apply ⟨.kFull, data, selector⟩) item = History.latest data item := by
  rw [apply, storedItem_foldl_upsert, empty, storedItem_empty, Option.or_none]

/-- A full change set fills the store like `Init` with the last change of each item, a partial one like its changes one
by one, and the store is initialized by nothing but `Init` and full change sets. -/
theorem changeSets_applied (store : MemoryStore) :
    (∀ data selector, ∃ dataSet : SDKDataSet,
      (∀ item, storedItem ⟨dataSet.flags, dataSet.segments, true⟩ item = History.latest data item) ∧
        store.apply ⟨.kFull, data, selector⟩ = store.init dataSet) ∧
    (∀ data selector, store.apply ⟨.kPartial, data, selector⟩ = data.foldl upsert store) ∧
    (∀ data selector, store.apply ⟨.kNone, data, selector⟩ = store) ∧
    (∀ changeSets : List ChangeSet, changeSets.foldl apply store = (effective changeSets).foldl apply store) ∧
    ∀ calls : List Write, (calls.foldl write empty).initialized = true ↔ ∃ call ∈ calls, call.initializes = true := by
  refine ⟨fun data selector => ?_, fun _ _ => rfl, fun _ _ => rfl, foldl_apply_effective store, fun calls => ?_⟩
  · have initialized : (store.apply ⟨.kFull, data, selector⟩).initialized = true := by
      rw [initialized_apply, decide_eq_true rfl, Bool.true_or]
    have items := storedItem_apply_full store data selector
    generalize store.apply ⟨.kFull, data, selector⟩ = full at initialized items
    obtain ⟨flags, segments, _⟩ := full
    cases initialized
    exact ⟨⟨flags, segments⟩, items, by rw [init, Lib.OrdMap.ofEntries_entries, Lib.OrdMap.ofEntries_entries]⟩
  · rw [initialized_writes]
    exact or_iff_right Bool.false_ne_true

end FlagSdk.Data.MemoryStore
