import FlagSdk.Notifier.ChangeNotifier

/-! What the listeners hear of a replacement of all data. The changes are found by comparing versions, and the store
takes what it is given whatever its version. So a change is missed when its version is not higher, unless what it
affects is affected by something else that is announced. -/

namespace FlagSdk.Notifier
open Relation
open Lib Data Dependencies
open DependencyTracker (plainDescriptor)

variable (store : MemoryStore)

def storedItem : Item → Option ItemChange
  | (.flag, key) => (store.getFlag key).map (.flag key)
  | (.segment, key) => (store.getSegment key).map (.segment key)

def Depends (item dep : Item) : Prop := ∃ change ∈ storedItem store item, DependsOn change dep

/-- The item and what depends on it, directly or through others. -/
def Affects : Item → Item → Prop :=
  ReflTransGen fun dep dependent => Depends store dependent dep

/-- The tracker returns exactly all transitive dependents. -/
def Exact (tracker : DependencyTracker) (store : MemoryStore) : Prop :=
  ∀ item other : Item,
    (tracker.changesInto .empty item.1 item.2).contains other.1 other.2 = true ↔ Affects store item other

theorem affects_before {before after : MemoryStore} {item other : Item}
    (changed : storedItem before item ≠ storedItem after item) (affects : Affects after item other) :
    ∃ source, storedItem before source ≠ storedItem after source ∧ Affects before source other := by
  induction affects with
  | refl => exact ⟨item, changed, .refl⟩
  | @tail dep dependent _ depends ih =>
    by_cases same : storedItem before dependent = storedItem after dependent
    · obtain ⟨source, differs, path⟩ := ih
      have edge : Depends before dependent dep := by
        unfold Depends
        rw [same]
        exact depends
      exact ⟨source, differs, path.tail edge⟩
    · exact ⟨dependent, same, .refl⟩

def Announces : Option UInt64 → Option UInt64 → Prop
  | some old, some new => old < new
  | none, none => False
  | _, _ => True

namespace ChangeNotifier

theorem announces_of_existing {old : UInt64} {new : Option UInt64} :
    new.any (· ≤ old) = false ↔ Announces (some old) new := by
  cases new with
  | none => exact iff_of_true rfl trivial
  | some new =>
    rw [Option.any_some, decide_eq_false_iff_not]
    exact UInt64.not_le

theorem announces_of_new {old : Option UInt64} {new : UInt64} :
    old.any (new ≤ ·) = false ↔ Announces old (some new) := by
  cases old with
  | none => exact iff_of_true rfl trivial
  | some old =>
    rw [Option.any_some, decide_eq_false_iff_not]
    exact UInt64.not_le

section
variable {Storage : Type} {tracker : DependencyTracker} (kind : DataKind)
  (existing new : OrdMap String (ItemDescriptor Storage)) {updatedItems : DependencySet}

theorem exists_entries_iff (P : String → Prop) :
    ((∃ old ∈ existing.entries, (new.find old.1).any (·.version ≤ old.2.version) = false ∧ P old.1) ∨
        ∃ item ∈ new.entries, (existing.find item.1).any (item.2.version ≤ ·.version) = false ∧ P item.1) ↔
      ∃ key, Announces ((existing.find key).map (·.version)) ((new.find key).map (·.version)) ∧ P key := by
  have compares (old : ItemDescriptor Storage) (key : String) :
      (new.find key).any (·.version ≤ old.version) = false ↔
        Announces (some old.version) ((new.find key).map (·.version)) := by
    rw [← announces_of_existing, Option.any_map]
  have compared (item : ItemDescriptor Storage) (key : String) :
      (existing.find key).any (item.version ≤ ·.version) = false ↔
        Announces ((existing.find key).map (·.version)) (some item.version) := by
    rw [← announces_of_new, Option.any_map]
  constructor
  · intro either
    obtain ⟨⟨key, old⟩, member, newer, holds⟩ | ⟨⟨key, item⟩, member, newer, holds⟩ := either
    · refine ⟨key, ?_, holds⟩
      rw [(existing.find_eq_some_iff).2 member]
      exact (compares old key).1 newer
    · refine ⟨key, ?_, holds⟩
      rw [(new.find_eq_some_iff).2 member]
      exact (compared item key).1 newer
  · intro announced
    obtain ⟨key, newer, holds⟩ := announced
    cases found : existing.find key with
    | some old =>
      rw [found] at newer
      exact .inl ⟨(key, old), (existing.find_eq_some_iff).1 found, (compares old key).2 newer, holds⟩
    | none =>
      cases given : new.find key with
      | some item =>
        rw [given] at newer
        exact .inr ⟨(key, item), (new.find_eq_some_iff).1 given, (compared item key).2 newer, holds⟩
      | none =>
        rw [found, given] at newer
        cases newer

theorem contains_calculateChanges (closed : tracker.Closed updatedItems) :
    tracker.Closed (calculateChanges tracker kind existing new updatedItems) ∧
      ∀ other : Item,
        (calculateChanges tracker kind existing new updatedItems).contains other.1 other.2 = true ↔
          updatedItems.contains other.1 other.2 = true ∨
            ∃ key, Announces ((existing.find key).map (·.version)) ((new.find key).map (·.version)) ∧
              Search.Reaches tracker.affectedItems (kind, key) other := by
  obtain ⟨between, first⟩ := DependencyTracker.foldl_changesInto
    (fun old : String × ItemDescriptor Storage => (new.find old.1).any (·.version ≤ old.2.version))
    (fun old => (kind, old.1)) existing.entries closed
  obtain ⟨after, second⟩ := DependencyTracker.foldl_changesInto
    (fun item : String × ItemDescriptor Storage => (existing.find item.1).any (item.2.version ≤ ·.version))
    (fun item => (kind, item.1)) new.entries between
  refine ⟨after, fun other => ?_⟩
  rw [← exists_entries_iff, ← or_assoc, ← first]
  exact second other

end

inductive Replacement where
  | init (dataSet : SDKDataSet)
  | apply (data : List ItemChange) (selector : Selector)
  deriving DecidableEq

namespace Replacement

def call : Replacement → Call
  | .init dataSet => .init dataSet
  | .apply data selector => .apply ⟨.kFull, data, selector⟩

def changes : Replacement → List ItemChange
  | .init dataSet =>
    (dataSet.flags.entries.map fun entry => .flag entry.1 entry.2) ++
      dataSet.segments.entries.map fun entry => .segment entry.1 entry.2
  | .apply data _ => data

variable (replacement : Replacement)

/-- The first descriptor of an item, which the changes are found from. -/
def first (item : Item) : Option ItemChange :=
  replacement.changes.find? fun change => itemOf change = item

/-- The last descriptor of an item, which is stored. -/
def last (item : Item) : Option ItemChange := History.latest replacement.changes item

/-- The item is new, is dropped, or comes with a higher version than the stored one. -/
def Announced (store : MemoryStore) (item : Item) : Prop :=
  Announces ((storedItem store item).map version) ((replacement.first item).map version)

end Replacement

variable (changes : List ItemChange) (store : MemoryStore)

section

theorem storedItem_upsert (change : ItemChange) (item : Item) :
    storedItem (store.upsert change) item = if itemOf change = item then some change else storedItem store item := by
  obtain ⟨kind, key⟩ := item
  cases change with
  | flag name flag =>
    cases kind with
    | flag =>
      simp only [storedItem, MemoryStore.getFlag, MemoryStore.upsert, OrdMap.find_insert, itemOf, Prod.mk.injEq,
        true_and]
      by_cases same : key = name
      · simp [same]
      · simp [same, Ne.symm same]
    | segment => simp [storedItem, MemoryStore.getSegment, MemoryStore.upsert, itemOf]
  | segment name segment =>
    cases kind with
    | flag => simp [storedItem, MemoryStore.getFlag, MemoryStore.upsert, itemOf]
    | segment =>
      simp only [storedItem, MemoryStore.getSegment, MemoryStore.upsert, OrdMap.find_insert, itemOf, Prod.mk.injEq,
        true_and]
      by_cases same : key = name
      · simp [same]
      · simp [same, Ne.symm same]

theorem storedItem_empty (initialized : Bool) (item : Item) : storedItem ⟨.empty, .empty, initialized⟩ item = none := by
  obtain ⟨kind, key⟩ := item
  cases kind <;> rfl

theorem storedItem_foldl_upsert (item : Item) :
    storedItem (changes.foldl MemoryStore.upsert store) item =
      (History.latest changes item).or (storedItem store item) := by
  induction changes generalizing store with
  | nil => rfl
  | cons change changes ih =>
    rw [List.foldl_cons, ih, storedItem_upsert, History.latest, History.latest, List.reverse_cons, List.find?_append,
      Option.or_assoc]
    by_cases same : itemOf change = item <;> simp [same]

variable (flags : OrdMap String (ItemDescriptor Flag)) (segments : OrdMap String (ItemDescriptor Segment))

theorem storedItem_add (initialized : Bool) (change : ItemChange) (item : Item) :
    storedItem ⟨addFlag flags change, addSegment segments change, initialized⟩ item =
      (storedItem ⟨flags, segments, initialized⟩ item).or (if itemOf change = item then some change else none) := by
  obtain ⟨kind, key⟩ := item
  cases change with
  | flag name flag =>
    cases kind with
    | flag =>
      simp only [storedItem, MemoryStore.getFlag, addFlag, OrdMap.find_emplace, itemOf, Prod.mk.injEq, true_and,
        Option.map_or]
      by_cases same : key = name
      · simp [same]
      · simp [same, Ne.symm same]
    | segment => simp [storedItem, MemoryStore.getSegment, addSegment, itemOf]
  | segment name segment =>
    cases kind with
    | flag => simp [storedItem, MemoryStore.getFlag, addFlag, itemOf]
    | segment =>
      simp only [storedItem, MemoryStore.getSegment, addSegment, OrdMap.find_emplace, itemOf, Prod.mk.injEq, true_and,
        Option.map_or]
      by_cases same : key = name
      · simp [same]
      · simp [same, Ne.symm same]

theorem storedItem_foldl_add (initialized : Bool) (item : Item) :
    storedItem ⟨changes.foldl addFlag flags, changes.foldl addSegment segments, initialized⟩ item =
      (storedItem ⟨flags, segments, initialized⟩ item).or (changes.find? fun change => itemOf change = item) := by
  induction changes generalizing flags segments with
  | nil => simp
  | cons change changes ih =>
    rw [List.foldl_cons, List.foldl_cons, ih, storedItem_add, Option.or_assoc]
    by_cases same : itemOf change = item <;> simp [same]

theorem itemOf_of_storedItem {store : MemoryStore} {item : Item} {change : ItemChange}
    (stored : storedItem store item = some change) : itemOf change = item := by
  obtain ⟨kind, key⟩ := item
  cases kind with
  | flag =>
    obtain ⟨flag, _, rfl⟩ := Option.map_eq_some_iff.1 stored
    rfl
  | segment =>
    obtain ⟨segment, _, rfl⟩ := Option.map_eq_some_iff.1 stored
    rfl

theorem find?_eq_storedItem {changes : List ItemChange} {store : MemoryStore}
    (mem : ∀ change, change ∈ changes ↔ storedItem store (itemOf change) = some change) (item : Item) :
    changes.find? (fun change => itemOf change = item) = storedItem store item := by
  apply Option.ext
  intro change
  constructor
  · intro found
    have same : itemOf change = item := by simpa using List.find?_some found
    rw [← same]
    exact (mem change).1 (List.mem_of_find?_eq_some found)
  · intro stored
    have same := itemOf_of_storedItem stored
    have member : change ∈ changes := (mem change).2 (same ▸ stored)
    cases found : changes.find? fun change => itemOf change = item with
    | none =>
      have absent := List.find?_eq_none.1 found change member
      simp [same] at absent
    | some other =>
      have named : itemOf other = item := by simpa using List.find?_some found
      have also := (mem other).1 (List.mem_of_find?_eq_some found)
      rw [named, stored] at also
      exact also.symm

theorem mem_changes_init (dataSet : SDKDataSet) (initialized : Bool) (change : ItemChange) :
    change ∈ (Replacement.init dataSet).changes ↔
      storedItem ⟨dataSet.flags, dataSet.segments, initialized⟩ (itemOf change) = some change := by
  cases change with
  | flag key flag =>
    simp [Replacement.changes, storedItem, itemOf, MemoryStore.getFlag, OrdMap.find_eq_some_iff]
  | segment key segment =>
    simp [Replacement.changes, storedItem, itemOf, MemoryStore.getSegment, OrdMap.find_eq_some_iff]

end

def Delivers (notifier : ChangeNotifier) (call : Call) (key : String) : Prop :=
  ∃ notification ∈ notifier.callNotifications call, (notification.changes.find key).isSome = true
  deriving Decidable

/-- The listeners hear of every flag that is affected, before or after the call, by an item of which the stored
descriptor differs. -/
def Complete (notifier : ChangeNotifier) (call : Call) : Prop :=
  ∀ (item : Item) (key : String), storedItem notifier.store item ≠ storedItem (notifier.call call).store item →
    Affects notifier.store item (.flag, key) ∨ Affects (notifier.call call).store item (.flag, key) →
      notifier.Delivers call key

section
variable (notifier : ChangeNotifier)

/-- The collections that are compared with the store. -/
def Replacement.compared : Replacement → MemoryStore
  | .init dataSet => ⟨dataSet.flags, dataSet.segments, true⟩
  | .apply data _ => ⟨newFlags data, newSegments data, true⟩

variable (replacement : Replacement)

theorem storedItem_compared (item : Item) :
    storedItem replacement.compared item = replacement.first item := by
  cases replacement with
  | init dataSet => exact (find?_eq_storedItem (mem_changes_init dataSet true) item).symm
  | apply data selector =>
    have found := storedItem_foldl_add data .empty .empty true item
    rw [storedItem_empty, Option.none_or] at found
    exact found

theorem storedItem_call (item : Item) :
    storedItem (notifier.call replacement.call).store item = replacement.last item := by
  cases replacement with
  | init dataSet =>
    have copied : (notifier.init dataSet).store = ⟨dataSet.flags, dataSet.segments, true⟩ := by
      rw [init, store_notifyOf]
      simp only [MemoryStore.init, OrdMap.ofEntries_entries]
    have mem (change : ItemChange) : change ∈ (Replacement.init dataSet).changes.reverse ↔
        storedItem (notifier.init dataSet).store (itemOf change) = some change := by
      rw [List.mem_reverse, copied]
      exact mem_changes_init dataSet true change
    exact (find?_eq_storedItem mem item).symm
  | apply data selector =>
    have applied : (notifier.apply ⟨.kFull, data, selector⟩).store =
        data.foldl MemoryStore.upsert ⟨.empty, .empty, true⟩ := by
      rw [apply, if_neg (by simp), store_notifyOf]
      rfl
    rw [Replacement.call, call, applied, storedItem_foldl_upsert, storedItem_empty, Option.or_none]
    rfl

theorem map_version_storedItem_flag (key : String) :
    (storedItem store (.flag, key)).map version = (store.flags.find key).map (·.version) := by
  rw [storedItem, Option.map_map]
  rfl

theorem map_version_storedItem_segment (key : String) :
    (storedItem store (.segment, key)).map version = (store.segments.find key).map (·.version) := by
  rw [storedItem, Option.map_map]
  rfl

theorem reaches_iff_affects {tracker : DependencyTracker} {store : MemoryStore} (exact : Exact tracker store)
    (item other : Item) :
    Search.Reaches tracker.affectedItems item other ↔ Affects store item other := by
  rw [← exact, DependencyTracker.contains_changesInto tracker.closed_empty, DependencySet.contains_empty]
  simp

theorem contains_replacementChanges (other : Item) :
    (notifier.replacementChanges replacement.compared.flags replacement.compared.segments).contains other.1 other.2 =
        true ↔
      ∃ item, replacement.Announced notifier.store item ∧
        Search.Reaches notifier.tracker.affectedItems item other := by
  obtain ⟨closed, flags⟩ := contains_calculateChanges .flag notifier.store.flags replacement.compared.flags
    notifier.tracker.closed_empty
  obtain ⟨_, segments⟩ := contains_calculateChanges .segment notifier.store.segments
    replacement.compared.segments closed
  unfold replacementChanges
  rw [segments, flags, DependencySet.contains_empty]
  simp only [Replacement.Announced, ← storedItem_compared, Bool.false_eq_true, false_or, Prod.exists]
  constructor
  · intro either
    obtain ⟨key, announced, path⟩ | ⟨key, announced, path⟩ := either
    · refine ⟨.flag, key, ?_, path⟩
      rw [map_version_storedItem_flag, map_version_storedItem_flag]
      exact announced
    · refine ⟨.segment, key, ?_, path⟩
      rw [map_version_storedItem_segment, map_version_storedItem_segment]
      exact announced
  · intro both
    obtain ⟨kind, key, announced, path⟩ := both
    cases kind with
    | flag =>
      rw [map_version_storedItem_flag, map_version_storedItem_flag] at announced
      exact .inl ⟨key, announced, path⟩
    | segment =>
      rw [map_version_storedItem_segment, map_version_storedItem_segment] at announced
      exact .inr ⟨key, announced, path⟩

variable {notifier} (listening : notifier.hasListeners = true)
include listening

theorem callNotifications_replacement :
    notifier.callNotifications replacement.call =
      reported (notifier.call replacement.call).store
        (notifier.replacementChanges replacement.compared.flags replacement.compared.segments) := by
  cases replacement with
  | init dataSet =>
    rw [callNotifications, Replacement.call, call, init, notifications_notifyOf, store_notifyOf, if_pos listening,
      List.drop_left]
    rfl
  | apply data selector =>
    rw [callNotifications, Replacement.call, call, apply, if_neg (by simp), notifications_notifyOf, store_notifyOf,
      if_pos listening, List.drop_left, if_pos rfl]
    rfl

theorem delivers_replacement_iff (key : String) :
    notifier.Delivers replacement.call key ↔
      ∃ item, replacement.Announced notifier.store item ∧
        Search.Reaches notifier.tracker.affectedItems item (.flag, key) := by
  rw [← contains_replacementChanges notifier replacement (.flag, key), Delivers,
    callNotifications_replacement _ listening]
  generalize notifier.replacementChanges replacement.compared.flags replacement.compared.segments = changes
  by_cases none : changes.flag = .empty
  · simp [reported, none, DependencySet.contains, ByKind.data]
  · simp [reported, none, DependencySet.contains, ByKind.data]

/-- A replacement is reported completely exactly when every flag that is affected by a change of which the version
is not higher is affected as well by a change that is announced. -/
theorem complete_replacement_iff (exact : Exact notifier.tracker notifier.store) (replacement : Replacement) :
    notifier.Complete replacement.call ↔
      ∀ (item : Item) (key : String), storedItem notifier.store item ≠ replacement.last item →
        ¬ replacement.Announced notifier.store item → Affects notifier.store item (.flag, key) →
          ∃ other, replacement.Announced notifier.store other ∧ Affects notifier.store other (.flag, key) := by
  have delivers (key : String) : notifier.Delivers replacement.call key ↔
      ∃ item, replacement.Announced notifier.store item ∧ Affects notifier.store item (.flag, key) := by
    simp only [delivers_replacement_iff _ listening, reaches_iff_affects exact]
  constructor
  · intro complete item key changed _ affects
    rw [← storedItem_call] at changed
    exact (delivers key).1 (complete item key changed (.inl affects))
  · intro covered item key changed affects
    have before : ∃ source,
        storedItem notifier.store source ≠ storedItem (notifier.call replacement.call).store source ∧
          Affects notifier.store source (.flag, key) := by
      cases affects with
      | inl before => exact ⟨item, changed, before⟩
      | inr after => exact affects_before changed after
    obtain ⟨source, differs, path⟩ := before
    rw [storedItem_call] at differs
    apply (delivers key).2
    by_cases announced : replacement.Announced notifier.store source
    · exact ⟨source, announced, path⟩
    · exact covered source key differs announced path

end

/-- The notifier after some items were given to it, with one listener. -/
def holding : ChangeNotifier where
  store := changes.foldl MemoryStore.upsert .empty
  tracker := (changes.map Operation.update).foldl DependencyTracker.apply .empty
  listeners := 1

theorem storedItem_holding (item : Item) :
    storedItem (holding changes).store item = History.latest changes item := by
  have stored := storedItem_foldl_upsert changes ⟨.empty, .empty, false⟩ item
  rw [storedItem_empty, Option.or_none] at stored
  exact stored

theorem foldl_record_update (changes history : List ItemChange) :
    (changes.map Operation.update).foldl History.record history = history ++ changes := by
  induction changes generalizing history with
  | nil => exact (List.append_nil history).symm
  | cons change changes ih =>
    rw [List.map_cons, List.foldl_cons, ih]
    exact List.append_assoc history [change] changes

theorem exact_holding {changes : List ItemChange}
    (one : DependencyTracker.OneDependent (changes.map Operation.update)) :
    Exact (holding changes).tracker (holding changes).store := by
  have represents := DependencyTracker.represents_foldl (changes.map Operation.update)
  intro item other
  rw [DependencyTracker.contains_changesInto (DependencyTracker.closed_empty _), DependencySet.contains_empty,
    or_iff_right Bool.false_ne_true]
  rw [foldl_record_update, List.nil_append] at represents
  rw [holding, represents.reaches_eq]
  unfold History.FirstChain Affects
  have same : (fun dep dependent => History.firstDependent changes dep = some dependent) =
      fun dep dependent => Depends (holding changes).store dependent dep := by
    funext dep dependent
    have edge := one dependent dep
    rw [foldl_record_update, List.nil_append] at edge
    rw [Depends, storedItem_holding]
    exact propext edge.symm
  rw [same]
  rfl

variable (key : String) (version : UInt64) (prerequisites : List String)

def plainFlag : ItemChange :=
  .flag key (plainDescriptor key version prerequisites)

theorem dependsOn_plainFlag (dep : Item) :
    DependsOn (plainFlag key version prerequisites) dep ↔ dep.1 = .flag ∧ dep.2 ∈ prerequisites := by
  obtain ⟨kind, name⟩ := dep
  simp only [plainFlag, plainDescriptor, bareFlag, Dependencies.DependsOn, ItemDescriptor.ofFlag, Option.some.injEq,
    exists_eq_left', List.not_mem_nil, false_and, exists_false, or_false, List.mem_map, Prod.mk.injEq]
  constructor
  · intro given
    obtain ⟨_, ⟨name, member, rfl⟩, rfl, rfl⟩ := given
    exact ⟨rfl, member⟩
  · intro given
    obtain ⟨rfl, member⟩ := given
    exact ⟨_, ⟨name, member, rfl⟩, rfl, rfl⟩

theorem exact_prerequisite :
    Exact (holding [plainFlag "base" version [], plainFlag "top" 1 ["base"]]).tracker
      (holding [plainFlag "base" version [], plainFlag "top" 1 ["base"]]).store := by
  apply exact_holding
  intro item dep
  have base : itemOf (plainFlag "base" version []) = (.flag, "base") := rfl
  have top : itemOf (plainFlag "top" 1 ["base"]) = (.flag, "top") := rfl
  have listed : DependsOn (plainFlag "top" 1 ["base"]) dep ↔ dep = (.flag, "base") := by
    rw [dependsOn_plainFlag, List.mem_singleton, Prod.ext_iff]
  have nothing : ¬ DependsOn (plainFlag "base" version []) dep := by
    simp [dependsOn_plainFlag]
  have depends : History.Depends [plainFlag "base" version [], plainFlag "top" 1 ["base"]] item dep ↔
      (.flag, "top") = item ∧ dep = (.flag, "base") := by
    unfold History.Depends History.latest
    by_cases isTop : (.flag, "top") = item
    · simp [top, isTop, listed]
    · by_cases isBase : (.flag, "base") = item
      · simp [top, base, isTop, isBase, nothing]
      · simp [top, base, isTop, isBase]
  have first : History.firstDependent [plainFlag "base" version [], plainFlag "top" 1 ["base"]] dep = some item ↔
      (.flag, "top") = item ∧ dep = (.flag, "base") := by
    unfold History.firstDependent
    by_cases isBase : dep = (.flag, "base")
    · have lists := listed.2 isBase
      rw [and_iff_left isBase]
      simp [nothing, lists, top]
    · simp [nothing, listed, isBase]
  exact depends.trans first.symm

/-- The prerequisite comes with a higher version, and the flag that has it as it was. -/
theorem complete_upgrade :
    (holding [plainFlag "base" 1 [], plainFlag "top" 1 ["base"]]).Complete
      (Replacement.apply [plainFlag "base" 2 [], plainFlag "top" 1 ["base"]] ⟨none⟩).call := by
  apply (complete_replacement_iff rfl (exact_prerequisite 1) _).2
  intro item key changed silent _
  by_cases isBase : item = (.flag, "base")
  · subst isBase
    exact absurd (show (1 : UInt64) < 2 by decide) silent
  · have base (version : UInt64) : itemOf (plainFlag "base" version []) ≠ item := fun same => isBase same.symm
    rw [storedItem_holding] at changed
    refine absurd ?_ changed
    unfold Replacement.last Replacement.changes History.latest
    by_cases isTop : itemOf (plainFlag "top" 1 ["base"]) = item
    · simp [isTop]
    · simp [isTop, base]

def upgraded : ChangeNotifier := holding [plainFlag "base" 2 [], plainFlag "top" 1 ["base"]]

/-- A lower version, another descriptor of the same version, and a change set in which a lower version comes first
are stored and not reported. -/
theorem incomplete_silentReplacements :
    Exact upgraded.tracker upgraded.store ∧ upgraded.hasListeners = true ∧
      ¬ upgraded.Complete (Replacement.init ⟨.ofEntries [("base", plainDescriptor "base" 1 []),
        ("top", plainDescriptor "top" 1 ["base"])], .empty⟩).call ∧
      ¬ upgraded.Complete (Replacement.init ⟨.ofEntries [("base", .tombstone 2),
        ("top", plainDescriptor "top" 1 ["base"])], .empty⟩).call ∧
      ¬ upgraded.Complete (Replacement.apply [plainFlag "base" 1 [], plainFlag "top" 1 ["base"],
        plainFlag "base" 3 []] ⟨none⟩).call := by
  refine ⟨exact_prerequisite 2, rfl, fun complete => ?_, fun complete => ?_, fun complete => ?_⟩
  · exact absurd (complete (.flag, "base") "base" (by decide) (.inl .refl)) (by decide)
  · exact absurd (complete (.flag, "base") "base" (by decide) (.inl .refl)) (by decide)
  · exact absurd (complete (.flag, "base") "base" (by decide) (.inl .refl)) (by decide)

end ChangeNotifier

end FlagSdk.Notifier
