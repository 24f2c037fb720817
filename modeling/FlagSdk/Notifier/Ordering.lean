import FlagSdk.Lib.Runs
import FlagSdk.Notifier.Replacement

/-! When the listeners are called. A replacement and a change set are in the store by then, and an upserted item is
not. -/

namespace FlagSdk.Notifier.ChangeNotifier
open Lib Lib.Runs Data Dependencies

variable (notifier : ChangeNotifier)

/-- Whenever the listeners are called, the store has the data of the call. -/
def Informed (call : Call) : Prop :=
  ∀ notification ∈ notifier.callNotifications call, notification.store = (notifier.call call).store

/-- The stored item is as new as the one that is given. -/
def stale (change : ItemChange) : Bool :=
  (notifier.existingVersion change).any (version change ≤ ·)

/-- Somebody listens to an upsert that is not stale, of a flag or of something that a flag depends on. -/
def Early : Call → Prop
  | .upsert change =>
    notifier.stale change = false ∧ notifier.hasListeners = true ∧
      ∃ key, Search.Reaches (notifier.tracker.apply (.update change)).affectedItems (itemOf change) (.flag, key)
  | _ => False

variable {notifier} {call : Call}

theorem informed_of_notifyOf {before : ChangeNotifier} {changes : Option DependencySet}
    (called : notifier.call call = before.notifyOf changes)
    (kept : before.notifications = notifier.notifications) : notifier.Informed call := by
  intro notification member
  rw [callNotifications, called, notifications_notifyOf, kept, List.drop_left] at member
  rw [called, store_notifyOf]
  cases changes with
  | none => cases member
  | some changes =>
    rw [Option.elim_some, reported] at member
    split at member
    · cases member
    · rw [List.mem_singleton.1 member]

theorem informed_of_same
    (kept : (notifier.call call).notifications = notifier.notifications) : notifier.Informed call := by
  intro notification member
  rw [callNotifications, kept, List.drop_length] at member
  cases member

theorem informed_apply (notifier : ChangeNotifier) (changeSet : ChangeSet) : notifier.Informed (.apply changeSet) := by
  by_cases nothing : changeSet.type = .kNone
  · exact informed_of_same (by rw [call, apply, if_pos nothing])
  · apply informed_of_notifyOf
    · rw [call, apply, if_neg nothing]
    · rfl

section
variable {change : ItemChange}

theorem upsert_of_stale (stale : notifier.stale change = true) : notifier.upsert change = notifier := if_pos stale

theorem map_version_storedItem (notifier : ChangeNotifier) (change : ItemChange) :
    (storedItem notifier.store (itemOf change)).map version = notifier.existingVersion change := by
  cases change with
  | flag key flag => exact map_version_storedItem_flag notifier.store key
  | segment key segment => exact map_version_storedItem_segment notifier.store key

theorem upsert_ne_store (fresh : notifier.stale change = false) : notifier.store.upsert change ≠ notifier.store := by
  intro same
  have stored := storedItem_upsert notifier.store change (itemOf change)
  rw [same, if_pos rfl] at stored
  have existing := map_version_storedItem notifier change
  rw [stored] at existing
  rw [stale, ← existing] at fresh
  simp at fresh

theorem callNotifications_upsert (fresh : notifier.stale change = false) :
    notifier.callNotifications (.upsert change) =
        (if notifier.hasListeners then
          reported notifier.store
            ((notifier.tracker.apply (.update change)).changesInto .empty (itemOf change).1 (itemOf change).2)
        else []) ∧
      (notifier.call (.upsert change)).store = notifier.store.upsert change := by
  have accepted : ¬ (notifier.existingVersion change).any (version change ≤ ·) = true := by
    rw [← stale, fresh]
    exact Bool.false_ne_true
  rw [callNotifications, call, upsert, if_neg accepted]
  simp only [notifications_notifyOf, store_notifyOf, List.drop_left, and_true]
  split <;> rfl

theorem exists_flag_iff (changes : DependencySet) :
    changes.flag ≠ .empty ↔ ∃ key, changes.contains .flag key = true := by
  rw [Ne, not_iff_comm, not_exists]
  constructor
  · intro none
    apply OrdMap.ext_find
    intro key
    have absent := none key
    simpa [DependencySet.contains, ByKind.data] using absent
  · intro empty key
    simp [DependencySet.contains, ByKind.data, empty]

theorem informed_upsert_iff (fresh : notifier.stale change = false) (listening : notifier.hasListeners = true) :
    notifier.Informed (.upsert change) ↔ ¬ ∃ key,
      Search.Reaches (notifier.tracker.apply (.update change)).affectedItems (itemOf change) (.flag, key) := by
  obtain ⟨notifications, store⟩ := callNotifications_upsert fresh
  rw [if_pos listening] at notifications
  have flags := exists_flag_iff
    ((notifier.tracker.apply (.update change)).changesInto .empty (itemOf change).1 (itemOf change).2)
  have reached (key : String) := DependencyTracker.contains_changesInto
    (notifier.tracker.apply (.update change)).closed_empty (itemOf change) (.flag, key)
  simp only [DependencySet.contains_empty, Bool.false_eq_true, false_or] at reached
  simp only [reached] at flags
  rw [← flags, not_ne_iff, Informed, notifications, store, reported]
  split
  · rename_i none
    simp [none]
  · rename_i some
    simp [some, (upsert_ne_store fresh).symm]

end

theorem informed_iff (notifier : ChangeNotifier) (call : Call) : notifier.Informed call ↔ ¬ notifier.Early call := by
  cases call with
  | init dataSet => exact iff_of_true (informed_of_notifyOf rfl rfl) not_false
  | apply changeSet => exact iff_of_true (notifier.informed_apply changeSet) not_false
  | onFlagChange | disconnect => exact iff_of_true (informed_of_same rfl) not_false
  | upsert change =>
    cases outdated : notifier.stale change with
    | true =>
      refine iff_of_true (informed_of_same ?_) fun early => ?_
      · rw [call, upsert_of_stale outdated]
      · rw [Early, outdated] at early
        exact Bool.noConfusion early.1
    | false =>
      cases listening : notifier.hasListeners with
      | true => simp [Early, outdated, listening, informed_upsert_iff outdated listening]
      | false =>
        refine iff_of_true ?_ fun early => ?_
        · intro notification member
          rw [(callNotifications_upsert outdated).1, listening] at member
          cases member
        · rw [Early, listening] at early
          exact Bool.noConfusion early.2.1

/-- In a run the listeners always find the data of the call exactly when no upsert is told to them. -/
theorem informed_along_iff (notifier : ChangeNotifier) (calls : List Call) :
    Along (fun notifier call => some (notifier.call call)) Informed notifier calls ↔
      Along (fun notifier call => some (notifier.call call)) (fun notifier call => ¬ notifier.Early call) notifier
        calls := by
  have same : Informed = fun notifier call => ¬ notifier.Early call := by
    funext notifier call
    exact propext (notifier.informed_iff call)
  rw [same]

/-- A listener that is told of a flag reads the descriptor that it had before. -/
theorem uninformed_upsert :
    ¬ ∀ calls, Along (fun notifier call => some (ChangeNotifier.call notifier call)) Informed {} calls := by
  intro always
  have along := always [.upsert (plainFlag "base" 1 []), .onFlagChange, .upsert (plainFlag "base" 2 [])]
  have informed := ((((along _ rfl).2 _ rfl).2) _ rfl).1
  have outdated := congrArg (·.getFlag "base") (informed _ List.mem_cons_self)
  exact absurd outdated (by decide)

end FlagSdk.Notifier.ChangeNotifier
