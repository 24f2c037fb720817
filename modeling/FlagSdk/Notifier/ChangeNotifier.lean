import FlagSdk.Dependencies.Exactness

/-! The change notifier of the server. It stands before the store, keeps the dependency tracker in step with what
goes into the store, and tells its listeners which flags are affected. A notification is kept with the store as the
listeners find it. -/

namespace FlagSdk.Notifier
open Lib Data Dependencies

/-- What the listeners are called with, and the store that they can read then. -/
structure Notification where
  changes : OrdMap String Unit
  store : MemoryStore
  deriving DecidableEq

def version : ItemChange → UInt64
  | .flag _ descriptor => descriptor.version
  | .segment _ descriptor => descriptor.version

structure ChangeNotifier where
  store : MemoryStore := .empty
  tracker : DependencyTracker := .empty
  listeners : Nat := 0
  notifications : List Notification := []
  deriving DecidableEq

namespace ChangeNotifier

variable (notifier : ChangeNotifier)

def onFlagChange : ChangeNotifier := { notifier with listeners := notifier.listeners + 1 }

def disconnect : ChangeNotifier := { notifier with listeners := notifier.listeners - 1 }

def hasListeners : Bool := notifier.listeners ≠ 0

/-- Nobody is called for a set without flags. -/
def notifyChanges (changes : DependencySet) : ChangeNotifier :=
  if changes.flag = .empty then notifier
  else { notifier with notifications := notifier.notifications ++ [⟨changes.flag, notifier.store⟩] }

/-- An item of one collection is skipped when both have it and the new one has no higher version. -/
def calculateChanges {Storage : Type} (tracker : DependencyTracker) (kind : DataKind)
    (existing new : OrdMap String (ItemDescriptor Storage)) (updatedItems : DependencySet) : DependencySet :=
  let updatedItems := existing.entries.foldl (fun updatedItems old =>
    if (new.find old.1).any (·.version ≤ old.2.version) then updatedItems
    else tracker.changesInto updatedItems kind old.1) updatedItems
  new.entries.foldl (fun updatedItems item =>
    if (existing.find item.1).any (item.2.version ≤ ·.version) then updatedItems
    else tracker.changesInto updatedItems kind item.1) updatedItems

variable (flags : OrdMap String (ItemDescriptor Flag)) (segments : OrdMap String (ItemDescriptor Segment))

/-- The changes of both kinds, or nothing when nobody listens. -/
def replacementChanges : DependencySet :=
  calculateChanges notifier.tracker .segment notifier.store.segments segments
    (calculateChanges notifier.tracker .flag notifier.store.flags flags .empty)

def notifyOf : Option DependencySet → ChangeNotifier
  | some changes => notifier.notifyChanges changes
  | none => notifier

def init (dataSet : SDKDataSet) : ChangeNotifier :=
  let changeNotifications :=
    if notifier.hasListeners then some (notifier.replacementChanges dataSet.flags dataSet.segments) else none
  let tracker := dataSet.flags.entries.foldl (fun tracker flag => tracker.updateFlag flag.1 flag.2)
    notifier.tracker.clear
  let tracker := dataSet.segments.entries.foldl (fun tracker segment => tracker.updateSegment segment.1 segment.2)
    tracker
  { notifier with tracker, store := notifier.store.init dataSet }.notifyOf changeNotifications

def existingVersion : ItemChange → Option UInt64
  | .flag key _ => (notifier.store.getFlag key).map (·.version)
  | .segment key _ => (notifier.store.getSegment key).map (·.version)

/-- The listeners are called before the store is written. -/
def upsert (change : ItemChange) : ChangeNotifier :=
  if (notifier.existingVersion change).any (version change ≤ ·) then notifier
  else
    let tracker := notifier.tracker.apply (.update change)
    let changeNotifications :=
      if notifier.hasListeners then some (tracker.changesInto .empty (itemOf change).1 (itemOf change).2) else none
    let notifier := { notifier with tracker }.notifyOf changeNotifications
    { notifier with store := notifier.store.upsert change }

def addFlag : ItemChange → OrdMap String (ItemDescriptor Flag)
  | .flag key flag => flags.emplace key flag
  | .segment _ _ => flags

def addSegment : ItemChange → OrdMap String (ItemDescriptor Segment)
  | .flag _ _ => segments
  | .segment key segment => segments.emplace key segment

variable (changes : List ItemChange)

/-- The flags of a change set, each key with its first descriptor. -/
def newFlags : OrdMap String (ItemDescriptor Flag) := changes.foldl addFlag .empty

def newSegments : OrdMap String (ItemDescriptor Segment) :=
  changes.foldl addSegment .empty

/-- Every item of a partial change set counts as a change. -/
def partialChanges : DependencySet :=
  changes.foldl (fun affected change => notifier.tracker.changesInto affected (itemOf change).1 (itemOf change).2)
    .empty

def apply (changeSet : ChangeSet) : ChangeNotifier :=
  if changeSet.type = .kNone then notifier
  else
    let changeNotifications :=
      if notifier.hasListeners then
        some (if changeSet.type = .kFull then
          notifier.replacementChanges (newFlags changeSet.data) (newSegments changeSet.data)
        else notifier.partialChanges changeSet.data)
      else none
    let tracker := if changeSet.type = .kFull then notifier.tracker.clear else notifier.tracker
    let tracker := changeSet.data.foldl (fun tracker change => tracker.apply (.update change)) tracker
    { notifier with tracker, store := notifier.store.apply changeSet }.notifyOf changeNotifications

inductive Call where
  | init (dataSet : SDKDataSet)
  | upsert (change : ItemChange)
  | apply (changeSet : ChangeSet)
  | onFlagChange
  | disconnect
  deriving DecidableEq

def call : Call → ChangeNotifier
  | .init dataSet => notifier.init dataSet
  | .upsert change => notifier.upsert change
  | .apply changeSet => notifier.apply changeSet
  | .onFlagChange => notifier.onFlagChange
  | .disconnect => notifier.disconnect

def callNotifications (call : Call) : List Notification :=
  (notifier.call call).notifications.drop notifier.notifications.length

theorem store_notifyChanges (changes : DependencySet) : (notifier.notifyChanges changes).store = notifier.store := by
  unfold notifyChanges
  split <;> rfl

variable (changes : Option DependencySet)

theorem store_notifyOf : (notifier.notifyOf changes).store = notifier.store := by
  cases changes with
  | none => rfl
  | some changes => exact notifier.store_notifyChanges changes

def reported (store : MemoryStore) (changes : DependencySet) : List Notification :=
  if changes.flag = .empty then [] else [⟨changes.flag, store⟩]

theorem notifications_notifyChanges (changes : DependencySet) :
    (notifier.notifyChanges changes).notifications = notifier.notifications ++ reported notifier.store changes := by
  unfold notifyChanges reported
  split
  · exact (List.append_nil _).symm
  · rfl

theorem notifications_notifyOf :
    (notifier.notifyOf changes).notifications =
      notifier.notifications ++ changes.elim [] (reported notifier.store) := by
  cases changes with
  | none => exact (List.append_nil _).symm
  | some changes => exact notifier.notifications_notifyChanges changes

end ChangeNotifier

end FlagSdk.Notifier
