import FlagSdk.Fdv2.FDv1Adapter

/-! Upserts converge. The notifier lets through what is newer than the stored item, so after any upserts each item is
the newest of what it was given. The order of the upserts does not matter, as long as no two of them give an item
the same version. -/

namespace FlagSdk.Notifier
open Lib.Newest Data Dependencies
open Fdv2.FDv1AdapterSynchronizer

/-- Different updates of one item have different versions. -/
def VersionsDiffer (updates : List ItemChange) : Prop :=
  ∀ change ∈ updates, ∀ other ∈ updates, itemOf change = itemOf other → version change = version other → change = other
  deriving Decidable

/-- One of the candidates, of a version that none exceeds, or nothing if there are none. -/
def Highest (candidates : List ItemChange) : Option ItemChange → Prop
  | none => candidates = []
  | some held => held ∈ candidates ∧ ∀ other ∈ candidates, version other ≤ version held

namespace ChangeNotifier

def upserts (notifier : ChangeNotifier) (updates : List ItemChange) : ChangeNotifier := updates.foldl upsert notifier

def candidates (notifier : ChangeNotifier) (updates : List ItemChange) (item : Item) : List ItemChange :=
  (storedItem notifier.store item).toList ++ updates.filter (itemOf · = item)

variable (notifier : ChangeNotifier)

section
variable (updates : List ItemChange)

theorem storedItem_upserts (item : Item) :
    storedItem (notifier.upserts updates).store item = newest rank (notifier.candidates updates item) := by
  induction updates using List.reverseRecOn with
  | nil => rw [candidates, List.filter_nil, List.append_nil, newest_toList, upserts, List.foldl_nil]
  | append_singleton updates change ih =>
    rw [upserts, List.foldl_append, List.foldl_cons, List.foldl_nil, storedItem_upsert_direct]
    rw [upserts] at ih
    rw [ih, candidates, candidates, List.filter_append, List.filter_singleton]
    by_cases same : itemOf change = item
    · rw [if_pos same, decide_eq_true same, cond_true, ← List.append_assoc, newest_append_singleton]
    · rw [if_neg same, decide_eq_false same, cond_false, List.append_nil]

theorem initialized_upserts : (notifier.upserts updates).store.initialized = notifier.store.initialized := by
  induction updates generalizing notifier with
  | nil => rfl
  | cons change updates ih => exact (ih (notifier.upsert change)).trans (initialized_direct notifier (.upsert change))

theorem highest_upserts (item : Item) :
    Highest (notifier.candidates updates item) (storedItem (notifier.upserts updates).store item) := by
  rw [storedItem_upserts]
  cases held : newest rank (notifier.candidates updates item) with
  | none => exact (newest_eq_none_iff rank).1 held
  | some top =>
    obtain ⟨bound, found⟩ := tops_newest rank _ top held
    exact ⟨List.mem_of_find?_eq_some found, bound⟩

theorem version_le_upserts {item : Item} {held : ItemChange} (stored : held ∈ storedItem notifier.store item) :
    ∃ later ∈ storedItem (notifier.upserts updates).store item, version held ≤ version later := by
  have candidate : held ∈ notifier.candidates updates item :=
    List.mem_append_left _ (Option.mem_toList.2 stored)
  have highest := notifier.highest_upserts updates item
  cases later : storedItem (notifier.upserts updates).store item with
  | none =>
    rw [later] at highest
    rw [show notifier.candidates updates item = [] from highest] at candidate
    cases candidate
  | some later' =>
    rw [later] at highest
    exact ⟨later', rfl, highest.2 held candidate⟩

end

theorem store_upserts_congr {first second : List ItemChange} (differ : VersionsDiffer first)
    (same : ∀ change, change ∈ first ↔ change ∈ second) :
    (notifier.upserts first).store = (notifier.upserts second).store := by
  apply store_ext
  · rw [initialized_upserts, initialized_upserts]
  · intro item
    rw [storedItem_upserts, storedItem_upserts]
    apply newest_append_congr
    · intro change member other otherMember ranked
      obtain ⟨member, ofItem⟩ := List.mem_filter.1 member
      obtain ⟨otherMember, otherOfItem⟩ := List.mem_filter.1 otherMember
      apply differ change member other otherMember
      · rw [of_decide_eq_true ofItem, of_decide_eq_true otherOfItem]
      · exact UInt64.toNat_inj.1 ranked
    · intro change
      rw [List.mem_filter, List.mem_filter, same]

/-- Upserts in any order and with any repetitions leave the same store, with the newest of what each item was given.
The version of an item never goes down on the way, and a stale update does nothing. -/
theorem upserts_converge (notifier : ChangeNotifier) {first second : List ItemChange} (differ : VersionsDiffer first)
    (same : ∀ change, change ∈ first ↔ change ∈ second) :
    (notifier.upserts first).store = (notifier.upserts second).store ∧
      (∀ item, Highest (notifier.candidates first item) (storedItem (notifier.upserts first).store item)) ∧
      (∀ earlier later, first = earlier ++ later → ∀ item, ∀ held ∈ storedItem (notifier.upserts earlier).store item,
        ∃ final ∈ storedItem (notifier.upserts first).store item, version held ≤ version final) ∧
      ∀ change, (∃ held ∈ storedItem notifier.store (itemOf change), version change ≤ version held) →
        (notifier.upsert change).store = notifier.store ∧ (notifier.upsert change).tracker = notifier.tracker ∧
          notifier.callNotifications (.upsert change) = [] := by
  refine ⟨notifier.store_upserts_congr differ same, notifier.highest_upserts first, ?_, ?_⟩
  · intro earlier later split item held stored
    rw [split, upserts, List.foldl_append]
    exact version_le_upserts _ later stored
  · intro change outdated
    have stale : notifier.stale change = true := by
      rw [← any_rank_eq_stale, Option.any_eq_true]
      obtain ⟨held, stored, older⟩ := outdated
      exact ⟨held, stored, decide_eq_true older⟩
    rw [callNotifications, call, upsert_of_stale stale, List.drop_length]
    exact ⟨rfl, rfl, rfl⟩

/-- A flag and its deletion, in both orders. -/
theorem upserts_converge_deletion :
    VersionsDiffer [plainFlag "base" 1 [], .flag "base" (.tombstone 2)] ∧
      (upserts {} [plainFlag "base" 1 [], .flag "base" (.tombstone 2)]).store =
        (upserts {} [.flag "base" (.tombstone 2), plainFlag "base" 1 [], .flag "base" (.tombstone 2)]).store :=
  ⟨by decide, (upserts_converge {} (by decide) (by
    intro change
    simp only [List.mem_cons, List.not_mem_nil, or_false]
    tauto)).1⟩

end ChangeNotifier

end FlagSdk.Notifier
