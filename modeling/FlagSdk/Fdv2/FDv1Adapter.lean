import FlagSdk.Fdv2.System
import FlagSdk.Lib.Newest
import FlagSdk.Notifier.Ordering

/-! An FDv1 source behind the FDv2 interface. The adapter turns every call that the source makes on its destination
into a change set, and a change set is applied without a look at versions. The background-sync system hands the same
calls to the change notifier, which ignores an upsert that is not newer than what is stored. -/

namespace FlagSdk.Fdv2.FDv1AdapterSynchronizer
open Lib Lib.Newest Data Dependencies Notifier

inductive DestinationCall where
  | init (dataSet : SDKDataSet)
  | upsert (change : ItemChange)
  deriving DecidableEq

namespace ConvertingDestination

/-- The flags come before the segments. -/
def init (dataSet : SDKDataSet) : FDv2SourceResult where
  value := .changeSet {
    type := .kFull
    data := (dataSet.flags.entries.map fun entry => .flag entry.1 entry.2) ++
      dataSet.segments.entries.map fun entry => .segment entry.1 entry.2
    selector := ⟨none⟩ }
  fdv1Fallback := none

def upsert (change : ItemChange) : FDv2SourceResult where
  value := .changeSet { type := .kPartial, data := [change], selector := ⟨none⟩ }
  fdv1Fallback := none

def convert : DestinationCall → FDv2SourceResult
  | .init dataSet => init dataSet
  | .upsert change => upsert change

end ConvertingDestination

variable (notifier : ChangeNotifier)

/-- A result reaches the notifier when it is a change set. -/
def applyResult (result : FDv2SourceResult) : ChangeNotifier :=
  match result.value with
  | .changeSet changeSet => notifier.apply changeSet
  | _ => notifier

def DestinationCall.direct : DestinationCall → ChangeNotifier
  | .init dataSet => notifier.init dataSet
  | .upsert change => notifier.upsert change

def DestinationCall.replaces : DestinationCall → Bool
  | .init _ => true
  | .upsert _ => false

def directStore (calls : List DestinationCall) : MemoryStore :=
  (calls.foldl DestinationCall.direct notifier).store

def adaptedStore (calls : List DestinationCall) : MemoryStore :=
  ((calls.map ConvertingDestination.convert).foldl applyResult notifier).store

def rank (change : ItemChange) : Nat := (version change).toNat

/-- A call adds to the descriptors that an item is given, or starts them anew. -/
def give (item : Item) (given : List ItemChange) : DestinationCall → List ItemChange
  | .init dataSet => ((ChangeNotifier.Replacement.init dataSet).last item).toList
  | .upsert change => if itemOf change = item then given ++ [change] else given

/-- The descriptors that an item is given from the last replacement of all data on, after the one it has then. -/
def given (store : MemoryStore) (calls : List DestinationCall) (item : Item) : List ItemChange :=
  calls.foldl (give item) (storedItem store item).toList

theorem given_append_singleton (store : MemoryStore) (calls : List DestinationCall) (call : DestinationCall)
    (item : Item) : given store (calls ++ [call]) item = give item (given store calls item) call := by
  rw [given, List.foldl_append]
  rfl

theorem getLast?_toList (held : Option ItemChange) : held.toList.getLast? = held := by
  cases held <;> rfl

variable (change : ItemChange)

theorem any_rank_eq_stale :
    (storedItem notifier.store (itemOf change)).any (rank change ≤ rank ·) = notifier.stale change := by
  rw [ChangeNotifier.stale, ← ChangeNotifier.map_version_storedItem, Option.any_map]
  rfl

variable (item : Item)

theorem storedItem_upsert_direct :
    storedItem (notifier.upsert change).store item =
      if itemOf change = item then keepNewer rank (storedItem notifier.store item) change
      else storedItem notifier.store item := by
  cases outdated : notifier.stale change with
  | true =>
    rw [ChangeNotifier.upsert_of_stale outdated]
    split
    · rename_i same
      rw [← same, keepNewer, any_rank_eq_stale, outdated, if_pos rfl]
    · rfl
  | false =>
    have stored := (ChangeNotifier.callNotifications_upsert outdated).2
    rw [ChangeNotifier.call] at stored
    rw [stored, ChangeNotifier.storedItem_upsert]
    split
    · rename_i same
      rw [← same, keepNewer, any_rank_eq_stale, outdated, if_neg Bool.false_ne_true]
    · rfl

theorem applyResult_upsert_store :
    (applyResult notifier (ConvertingDestination.upsert change)).store = notifier.store.upsert change := by
  show (notifier.apply ⟨.kPartial, [change], ⟨none⟩⟩).store = _
  rw [ChangeNotifier.apply, if_neg (by simp), ChangeNotifier.store_notifyOf]
  rfl

variable (calls : List DestinationCall)

theorem storedItem_directStore :
    storedItem (directStore notifier calls) item = newest rank (given notifier.store calls item) := by
  induction calls using List.reverseRecOn with
  | nil => exact (newest_toList rank _).symm
  | append_singleton calls call ih =>
    rw [given_append_singleton, directStore, List.foldl_append]
    cases call with
    | init dataSet =>
      rw [give, newest_toList]
      exact ChangeNotifier.storedItem_call _ (.init dataSet) item
    | upsert change =>
      refine (storedItem_upsert_direct _ change item).trans ?_
      rw [directStore] at ih
      rw [ih, give]
      split
      · rw [newest_append_singleton]
      · rfl

theorem storedItem_adaptedStore :
    storedItem (adaptedStore notifier calls) item = (given notifier.store calls item).getLast? := by
  induction calls using List.reverseRecOn with
  | nil => exact (getLast?_toList _).symm
  | append_singleton calls call ih =>
    rw [given_append_singleton, adaptedStore, List.map_append, List.foldl_append]
    cases call with
    | init dataSet =>
      rw [give, getLast?_toList]
      exact ChangeNotifier.storedItem_call _ (.apply (ChangeNotifier.Replacement.init dataSet).changes ⟨none⟩) item
    | upsert change =>
      refine (congrArg (storedItem · item) (applyResult_upsert_store _ change)).trans ?_
      rw [adaptedStore] at ih
      rw [ChangeNotifier.storedItem_upsert, ih, give]
      split
      · rw [List.getLast?_concat]
      · rfl

variable (call : DestinationCall)

theorem initialized_direct :
    (call.direct notifier).store.initialized = (call.replaces || notifier.store.initialized) := by
  cases call with
  | init dataSet =>
    rw [DestinationCall.direct, ChangeNotifier.init, ChangeNotifier.store_notifyOf]
    rfl
  | upsert change =>
    show (notifier.upsert change).store.initialized = notifier.store.initialized
    cases outdated : notifier.stale change with
    | true => rw [ChangeNotifier.upsert_of_stale outdated]
    | false =>
      rw [← MemoryStore.initialized_upsert notifier.store change]
      exact congrArg MemoryStore.initialized (ChangeNotifier.callNotifications_upsert outdated).2

theorem initialized_applyResult :
    (applyResult notifier (ConvertingDestination.convert call)).store.initialized =
      (call.replaces || notifier.store.initialized) := by
  cases call with
  | init dataSet =>
    show (notifier.apply ⟨.kFull, (ChangeNotifier.Replacement.init dataSet).changes, ⟨none⟩⟩).store.initialized = true
    rw [ChangeNotifier.apply, if_neg (by simp), ChangeNotifier.store_notifyOf]
    exact MemoryStore.initialized_foldl_upsert _ _
  | upsert change =>
    rw [ConvertingDestination.convert, applyResult_upsert_store, MemoryStore.initialized_upsert]
    rfl

theorem initialized_adaptedStore :
    (adaptedStore notifier calls).initialized = (directStore notifier calls).initialized := by
  induction calls using List.reverseRecOn with
  | nil => rfl
  | append_singleton calls call ih =>
    rw [adaptedStore, List.map_append, List.foldl_append, directStore, List.foldl_append]
    refine (initialized_applyResult _ call).trans ((initialized_direct _ call).trans ?_).symm
    rw [adaptedStore, directStore] at ih
    rw [ih]

theorem store_ext {first second : MemoryStore} (initialized : first.initialized = second.initialized)
    (items : ∀ item, storedItem first item = storedItem second item) : first = second := by
  have flags : first.flags = second.flags := by
    apply OrdMap.ext_find
    intro key
    exact Option.map_injective (fun _ _ same => (ItemChange.flag.inj same).2) (items (.flag, key))
  have segments : first.segments = second.segments := by
    apply OrdMap.ext_find
    intro key
    exact Option.map_injective (fun _ _ same => (ItemChange.segment.inj same).2) (items (.segment, key))
  cases first
  cases second
  cases flags
  cases segments
  cases initialized
  rfl

/-- The adapter leaves the store that the direct calls leave exactly when the last descriptor that each item is given
has the highest version and is the first that has it. -/
theorem adaptedStore_eq_iff (notifier : ChangeNotifier) (calls : List DestinationCall) :
    adaptedStore notifier calls = directStore notifier calls ↔
      ∀ item, ∀ last ∈ (given notifier.store calls item).getLast?,
        Tops rank (given notifier.store calls item) last := by
  have item_iff (item : Item) :
      storedItem (adaptedStore notifier calls) item = storedItem (directStore notifier calls) item ↔
        ∀ last ∈ (given notifier.store calls item).getLast?, Tops rank (given notifier.store calls item) last := by
    rw [storedItem_adaptedStore, storedItem_directStore, eq_comm, newest_eq_getLast?_iff]
  constructor
  · intro same item
    rw [← item_iff, same]
  · intro topped
    apply store_ext (initialized_adaptedStore notifier calls)
    intro item
    rw [item_iff]
    exact topped item

/-- An update that comes late takes the place of a newer one when it goes through the adapter. -/
theorem adaptedStore_of_late_update : ¬ ∀ notifier calls, adaptedStore notifier calls = directStore notifier calls := by
  intro same
  have late := same {} [.upsert (ChangeNotifier.plainFlag "base" 2 []), .upsert (ChangeNotifier.plainFlag "base" 1 [])]
  exact absurd late (by decide)

end FlagSdk.Fdv2.FDv1AdapterSynchronizer
