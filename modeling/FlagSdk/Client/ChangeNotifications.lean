import FlagSdk.Client.FlagManager
import FlagSdk.Lib.Runs

/-! What listeners are told about a flag, compared with what became of its value. A call that touches a flag can tell
its listeners although the value stays, and data that comes into an empty store is not compared with anything. -/

namespace FlagSdk.Client
open Lib Lib.Runs Data Persistence

inductive UpdaterCall where
  | init (data : Flags)
  | upsert (key : String) (descriptor : ItemDescriptor EvaluationResult)

def visible (store : Flags) (key : String) : Value := ((store.find key).map getValue).getD .null

def live (store : Flags) (key : String) : Bool := ((store.find key).bind fun descriptor => descriptor.item).isSome

def expectedEvent (before after : Flags) (key : String) : Option FlagValueChangeEvent :=
  if visible before key ≠ visible after key then
    some ⟨key, visible after key, visible before key, live before key && !live after key⟩
  else none

variable {descriptor : ItemDescriptor EvaluationResult}

theorem isSome_item (something : getValue descriptor ≠ .null) : descriptor.item.isSome = true := by
  unfold getValue at something
  cases item : descriptor.item with
  | none => simp [item] at something
  | some result => rfl

namespace FlagUpdater

def call (updater : FlagUpdater) : UpdaterCall → FlagUpdater × List FlagValueChangeEvent
  | .init data => updater.init data
  | .upsert key descriptor => updater.upsert key descriptor

def Listens (updater : FlagUpdater) (key : String) (listeners : Nat) : Prop :=
  updater.signals.find key = some (listeners + 1)

def Exact (key : String) (listeners : Nat) (updater : FlagUpdater) (call : UpdaterCall) : Prop :=
  (updater.call call).2.filter (fun event => event.flagName = key) =
    (expectedEvent updater.flagStore (updater.call call).1.flagStore key).toList.flatMap
      (List.replicate (listeners + 1))

instance (key : String) (listeners : Nat) (updater : FlagUpdater) (call : UpdaterCall) :
    Decidable (Exact key listeners updater call) :=
  inferInstanceAs (Decidable (_ = _))

def announcedByInit : Option (ItemDescriptor EvaluationResult) → Option (ItemDescriptor EvaluationResult) → Bool
  | none, none => false
  | some _, some descriptor => descriptor.item.isNone
  | _, _ => true

/-- A call whose events are not those that its effect on the flag asks for: the listeners are told although the value
stays, or the store was empty and they are not told that the flag has a value. -/
def Misreports (key : String) (updater : FlagUpdater) : UpdaterCall → Prop
  | .init data =>
    if updater.flagStore.entries.isEmpty then visible data key ≠ .null
    else visible updater.flagStore key = visible data key ∧
      announcedByInit (updater.flagStore.find key) (data.find key) = true
  | .upsert name descriptor =>
    name = key ∧ updater.outdated name descriptor = false ∧ visible updater.flagStore key = getValue descriptor ∧
      (descriptor.item.isSome || live updater.flagStore key) = true

instance (key : String) (updater : FlagUpdater) : (call : UpdaterCall) → Decidable (Misreports key updater call)
  | .init _ =>
    inferInstanceAs (Decidable (if updater.flagStore.entries.isEmpty = true then _ ≠ _ else _ ∧ _))
  | .upsert _ _ => inferInstanceAs (Decidable (_ ∧ _))

section
variable {updater : FlagUpdater} {key : String} {listeners : Nat}

section
variable (listens : updater.Listens key listeners)
include listens

theorem Listens.dispatchEvent (event : FlagValueChangeEvent) :
    (updater.dispatchEvent event).1.Listens key listeners := by
  unfold FlagUpdater.dispatchEvent
  split
  case h_1 => exact listens
  case h_2 none =>
    have other : key ≠ event.flagName := by
      rintro rfl
      cases listens.symm.trans none
    rw [Listens, OrdMap.find_erase, if_neg other]
    exact listens
  case h_3 => exact listens

theorem Listens.dispatchEvents (events : List FlagValueChangeEvent) :
    (updater.dispatchEvents events).1.Listens key listeners ∧
      (updater.dispatchEvents events).2.filter (fun event => event.flagName = key) =
        (events.filter fun event => event.flagName = key).flatMap (List.replicate (listeners + 1)) := by
  induction events generalizing updater with
  | nil => exact ⟨listens, rfl⟩
  | cons event events ih =>
    obtain ⟨still, rest⟩ := ih (listens.dispatchEvent event)
    refine ⟨still, ?_⟩
    have first : (updater.dispatchEvent event).2.filter (fun event => event.flagName = key) =
        ([event].filter fun event => event.flagName = key).flatMap (List.replicate (listeners + 1)) := by
      unfold FlagUpdater.dispatchEvent
      by_cases same : event.flagName = key
      · simp only [same, show updater.signals.find key = some (listeners + 1) from listens]
        simp [same]
      · split <;> simp [same]
    rw [show updater.dispatchEvents (event :: events) =
        ((updater.dispatchEvent event).1.dispatchEvents events |>.1,
          (updater.dispatchEvent event).2 ++ ((updater.dispatchEvent event).1.dispatchEvents events).2) from rfl,
      List.filter_append, first, rest, ← List.flatMap_append, ← List.filter_append]
    rfl

theorem Listens.hasListeners : updater.hasListeners = true := by
  unfold FlagUpdater.hasListeners
  cases entries : updater.signals.entries with
  | nil =>
    rw [Listens, OrdMap.find, entries] at listens
    cases listens
  | cons entry rest => rfl

end

theorem told_inj {first second : Option FlagValueChangeEvent} :
    first.toList.flatMap (List.replicate (listeners + 1)) = second.toList.flatMap (List.replicate (listeners + 1)) ↔
      first = second := by
  constructor
  · intro same
    cases first with
    | none => cases second with
      | none => rfl
      | some event => simp [List.replicate_succ] at same
    | some event => cases second with
      | none => simp [List.replicate_succ] at same
      | some other =>
        have heads : event = other ∧ (listeners = 0 ∨ event = other) := by simpa [List.replicate_succ] using same
        rw [heads.1]
  · intro same
    rw [same]

end

def eventOfInit (store data : Flags) (key : String) : Option FlagValueChangeEvent :=
  ((data.find key).bind (eventOfNew store key)).or ((store.find key).bind (eventOfOld data key))

theorem filter_changeEvents (store data : Flags) (key : String) :
    (changeEvents store data).filter (fun event => event.flagName = key) = (eventOfInit store data key).toList := by
  have new : ∀ key descriptor event, eventOfNew store key descriptor = some event → event.flagName = key := by
    intro key descriptor event made
    unfold eventOfNew at made
    split at made
    · split_ifs at made <;> cases made <;> rfl
    · cases made
      rfl
  have old : ∀ key descriptor event, eventOfOld data key descriptor = some event → event.flagName = key := by
    intro key descriptor event made
    unfold eventOfOld at made
    split_ifs at made
    cases made
    rfl
  rw [changeEvents, List.filter_append, OrdMap.filter_filterMap _ new, OrdMap.filter_filterMap _ old, eventOfInit]
  cases here : data.find key with
  | none => rfl
  | some descriptor =>
    have kept : (store.find key).bind (eventOfOld data key) = none := by
      cases store.find key with
      | none => rfl
      | some existing => simp [eventOfOld, here]
    rw [kept, Option.or_none]
    exact List.append_nil _

variable {updater : FlagUpdater} {key : String} {listeners : Nat}

theorem Listens.init (listens : updater.Listens key listeners) (data : Flags) :
    (updater.init data).1.Listens key listeners ∧
      (updater.init data).2.filter (fun event => event.flagName = key) =
        (if updater.flagStore.entries.isEmpty then none
          else eventOfInit updater.flagStore data key).toList.flatMap (List.replicate (listeners + 1)) := by
  have replaced : Listens { updater with flagStore := data } key listeners := listens
  obtain ⟨still, heard⟩ := replaced.dispatchEvents
    (if !updater.flagStore.entries.isEmpty && updater.hasListeners then changeEvents updater.flagStore data else [])
  refine ⟨still, heard.trans ?_⟩
  rw [listens.hasListeners, Bool.and_true]
  cases updater.flagStore.entries.isEmpty with
  | true => rfl
  | false => exact congrArg (List.flatMap _) (filter_changeEvents updater.flagStore data key)

theorem eventOfUpsert_flagName {existing : Option (ItemDescriptor EvaluationResult)} {name : String}
    {event : FlagValueChangeEvent} (made : eventOfUpsert existing name descriptor = some event) :
    event.flagName = name := by
  unfold eventOfUpsert at made
  split at made
  · cases made
    rfl
  · cases made
    rfl
  · split_ifs at made
    cases made
    rfl
  · cases made

theorem Listens.upsert (listens : updater.Listens key listeners) (name : String)
    (descriptor : ItemDescriptor EvaluationResult) :
    (updater.upsert name descriptor).1.Listens key listeners ∧
      (updater.upsert name descriptor).2.filter (fun event => event.flagName = key) =
        (if updater.outdated name descriptor = false ∧ name = key then
            eventOfUpsert (updater.flagStore.find key) key descriptor
          else none).toList.flatMap (List.replicate (listeners + 1)) := by
  unfold FlagUpdater.upsert FlagUpdater.write
  cases outdated : updater.outdated name descriptor with
  | true => exact ⟨listens, rfl⟩
  | false =>
    have updated : Listens { updater with flagStore := updater.flagStore.insert name descriptor } key listeners :=
      listens
    obtain ⟨still, heard⟩ := updated.dispatchEvents (eventOfUpsert (updater.flagStore.find name) name descriptor).toList
    simp only [listens.hasListeners, Bool.false_eq_true, if_true, if_false, true_and]
    refine ⟨still, heard.trans (congrArg (List.flatMap _) ?_)⟩
    cases made : eventOfUpsert (updater.flagStore.find name) name descriptor with
    | none =>
      split_ifs with same
      · rw [← same, made]
        rfl
      · rfl
    | some event =>
      have named := eventOfUpsert_flagName made
      split_ifs with same
      · rw [← same, made]
        simp [named]
      · simp [named, same]

variable {store : Flags}

theorem visible_of_find (found : store.find key = some descriptor) :
    visible store key = getValue descriptor ∧ live store key = descriptor.item.isSome := by
  simp [visible, live, found]

theorem visible_of_absent (absent : store.find key = none) : visible store key = .null ∧ live store key = false := by
  simp [visible, live, absent]

theorem eventOfInit_eq_expected_iff {data : Flags} :
    eventOfInit store data key = expectedEvent store data key ↔
      ¬(visible store key = visible data key ∧ announcedByInit (store.find key) (data.find key) = true) := by
  unfold eventOfInit expectedEvent
  cases old : store.find key with
  | none =>
    obtain ⟨oldValue, oldLive⟩ := visible_of_absent old
    cases new : data.find key with
    | none => simp [oldValue, visible_of_absent new, announcedByInit]
    | some descriptor =>
      obtain ⟨newValue, newLive⟩ := visible_of_find new
      rw [oldValue, newValue, oldLive, newLive]
      by_cases same : Value.null = getValue descriptor
      · simp [eventOfNew, old, announcedByInit, same]
      · simp [eventOfNew, old, announcedByInit, same, FlagValueChangeEvent.changed]
  | some existing =>
    obtain ⟨oldValue, oldLive⟩ := visible_of_find old
    cases new : data.find key with
    | none =>
      obtain ⟨newValue, newLive⟩ := visible_of_absent new
      rw [oldValue, newValue, oldLive, newLive]
      by_cases same : getValue existing = .null
      · simp [eventOfOld, new, announcedByInit, same]
      · simp [eventOfOld, new, announcedByInit, same, FlagValueChangeEvent.gone, isSome_item same]
    | some descriptor =>
      obtain ⟨newValue, newLive⟩ := visible_of_find new
      rw [oldValue, newValue, oldLive, newLive]
      have kept : (some existing).bind (eventOfOld data key) = none := by
        simp [eventOfOld, new]
      rw [kept, Option.or_none, Option.bind_some]
      cases item : descriptor.item with
      | some result =>
        by_cases same : getValue existing = getValue descriptor
        · simp [eventOfNew, old, announcedByInit, item, same]
        · simp [eventOfNew, old, announcedByInit, item, same, Ne.symm same, FlagValueChangeEvent.changed]
      | none =>
        have nothing : getValue descriptor = .null := by simp [getValue, item]
        rw [nothing]
        by_cases same : getValue existing = .null
        · simp [eventOfNew, old, announcedByInit, item, same]
        · simp [eventOfNew, old, announcedByInit, item, same, FlagValueChangeEvent.gone, isSome_item same]

theorem exact_init_iff (listens : updater.Listens key listeners) (data : Flags) :
    Exact key listeners updater (.init data) ↔ ¬Misreports key updater (.init data) := by
  have heard : (updater.call (.init data)).2.filter (fun event => event.flagName = key) = _ := (listens.init data).2
  have store : (updater.call (.init data)).1.flagStore = data := flagStore_init updater data
  rw [Exact, heard, store, told_inj, Misreports]
  split
  case isTrue empty =>
    have absent : updater.flagStore.find key = none := by
      rw [OrdMap.find, List.isEmpty_iff.1 empty]
      rfl
    rw [expectedEvent, (visible_of_absent absent).1]
    split_ifs with something <;> simp [something, eq_comm]
  case isFalse => exact eventOfInit_eq_expected_iff

theorem eventOfUpsert_eq_expected_iff :
    eventOfUpsert (store.find key) key descriptor = expectedEvent store (store.insert key descriptor) key ↔
      ¬(visible store key = getValue descriptor ∧ (descriptor.item.isSome || live store key) = true) := by
  have new : (store.insert key descriptor).find key = some descriptor := by rw [OrdMap.find_insert, if_pos rfl]
  obtain ⟨newValue, newLive⟩ := visible_of_find new
  rw [expectedEvent, newValue, newLive]
  cases old : store.find key with
  | none =>
    obtain ⟨oldValue, oldLive⟩ := visible_of_absent old
    rw [oldValue, oldLive]
    cases item : descriptor.item with
    | none => simp [eventOfUpsert, item, getValue]
    | some result =>
      have value : getValue descriptor = result.detail.value := by simp [getValue, item]
      by_cases same : Value.null = result.detail.value
      · simp [eventOfUpsert, item, value, same]
      · simp [eventOfUpsert, item, value, same, FlagValueChangeEvent.changed]
  | some existing =>
    obtain ⟨oldValue, oldLive⟩ := visible_of_find old
    rw [oldValue, oldLive]
    cases item : descriptor.item with
    | some result =>
      by_cases same : getValue existing = getValue descriptor
      · simp [eventOfUpsert, item, same]
      · simp [eventOfUpsert, item, same, FlagValueChangeEvent.changed]
    | none =>
      have nothing : getValue descriptor = .null := by simp [getValue, item]
      rw [nothing]
      by_cases same : getValue existing = .null
      · cases living : existing.item.isSome <;> simp [eventOfUpsert, item, same, living]
      · simp [eventOfUpsert, item, same, FlagValueChangeEvent.gone, isSome_item same]

section
variable (listens : updater.Listens key listeners)
include listens

theorem exact_upsert_iff (name : String) (descriptor : ItemDescriptor EvaluationResult) :
    Exact key listeners updater (.upsert name descriptor) ↔ ¬Misreports key updater (.upsert name descriptor) := by
  have heard : (updater.call (.upsert name descriptor)).2.filter (fun event => event.flagName = key) = _ :=
    (listens.upsert name descriptor).2
  have store : (updater.call (.upsert name descriptor)).1.flagStore = _ := flagStore_upsert updater name descriptor
  rw [Exact, heard, store, told_inj, Misreports]
  cases outdated : updater.outdated name descriptor with
  | true => simp [expectedEvent]
  | false =>
    by_cases same : name = key
    · subst same
      simpa using eventOfUpsert_eq_expected_iff
    · have untouched : visible (updater.flagStore.insert name descriptor) key = visible updater.flagStore key := by
        rw [visible, OrdMap.find_insert, if_neg (Ne.symm same)]
        rfl
      simp [same, expectedEvent, untouched]

theorem exact_iff (call : UpdaterCall) : Exact key listeners updater call ↔ ¬Misreports key updater call := by
  cases call with
  | init data => exact exact_init_iff listens data
  | upsert name descriptor => exact exact_upsert_iff listens name descriptor

theorem Listens.call (call : UpdaterCall) : (updater.call call).1.Listens key listeners := by
  cases call with
  | init data => exact (listens.init data).1
  | upsert name descriptor => exact (listens.upsert name descriptor).1

end

def step (updater : FlagUpdater) (call : UpdaterCall) : Option FlagUpdater := some (updater.call call).1

/-- In every sequence of calls, the listeners of a flag are told exactly how its value changes if and only if no call
touches the flag without a change of its value, and none brings a value for it into an empty store. -/
theorem notified_exactly_iff (updater : FlagUpdater) (key : String) (listeners : Nat)
    (listens : updater.signals.find key = some (listeners + 1)) (calls : List UpdaterCall) :
    Along step (Exact key listeners) updater calls ↔
      Along step (fun updater call => ¬Misreports key updater call) updater calls :=
  along_iff_of_invariant (fun listens _ taken => Option.some.inj taken ▸ Listens.call listens _)
    (fun listens _ => exact_iff listens _) listens

def flagWith (version : UInt64) (value : Value) : ItemDescriptor EvaluationResult :=
  .ofResult ⟨version, none, false, false, none, ⟨value, none, none⟩, none⟩

def listening : FlagUpdater := ⟨OrdMap.empty.insert "beta" (flagWith 1 (.bool true)), OrdMap.empty.insert "beta" 1⟩

def changes : List UpdaterCall :=
  [.upsert "beta" (flagWith 2 (.bool false)), .upsert "other" (flagWith 1 .null), .upsert "beta" (.tombstone 3),
    .init (OrdMap.empty.insert "beta" (flagWith 4 (.bool true)))]

theorem notified_exactly_of_changes : Along step (Exact "beta" 0) listening changes :=
  (notified_exactly_iff listening "beta" 0 (by decide) changes).2 (by decide)

/-- The listener is told of a new version with the same value and of a flag that stays deleted, and it is not told
when the flag comes back after all flags were gone. -/
theorem notified_inexactly :
    ¬Along step (Exact "beta" 0) listening [.upsert "beta" (flagWith 2 (.bool true))] ∧
      ¬Along step (Exact "beta" 0) listening
        [.upsert "beta" (.tombstone 2), .init (OrdMap.empty.insert "other" (flagWith 1 .null))] ∧
      ¬Along step (Exact "beta" 0) listening
        [.init .empty, .init (OrdMap.empty.insert "beta" (flagWith 2 (.bool true)))] := by
  refine ⟨?_, ?_, ?_⟩
  · decide
  · decide
  · decide

end FlagUpdater

end FlagSdk.Client
