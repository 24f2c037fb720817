import FlagSdk.Data.Model
import FlagSdk.Lib.Search

/-! The dependency tracker of the server. It remembers which flags and segments an item depends on and,
for each of those, which items depend on it, so that a change of one item can be told to everything it
affects. -/

namespace FlagSdk.Dependencies
open Lib Data

inductive DataKind where
  | flag
  | segment
  deriving DecidableEq, Repr

abbrev Item := DataKind × String

structure ByKind (Storage : Type) where
  flag : Storage
  segment : Storage
  deriving DecidableEq

namespace ByKind
variable {Storage : Type}

variable (storages : ByKind Storage)

def data : DataKind → Storage
  | .flag => storages.flag
  | .segment => storages.segment

def modify (kind : DataKind) (change : Storage → Storage) : ByKind Storage :=
  match kind with
  | .flag => { storages with flag := change storages.flag }
  | .segment => { storages with segment := change storages.segment }

theorem data_modify (kind other : DataKind) (change : Storage → Storage) :
    (storages.modify kind change).data other =
      if other = kind then change (storages.data other) else storages.data other := by
  cases kind <;> cases other <;> rfl

end ByKind

abbrev DependencySet := ByKind (OrdMap String Unit)

variable {item : Item}

namespace DependencySet

def empty : DependencySet := ⟨.empty, .empty⟩

variable (deps : DependencySet) (kind : DataKind) (key : String)

def set : DependencySet :=
  deps.modify kind fun keys => keys.emplace key ()

def remove : DependencySet :=
  deps.modify kind fun keys => keys.erase key

def contains : Bool := ((deps.data kind).find key).isSome

def items : List Item :=
  (deps.flag.entries.map fun entry => (.flag, entry.1)) ++ deps.segment.entries.map fun entry => (.segment, entry.1)

@[simp] theorem contains_empty : empty.contains kind key = false := by
  cases kind <;> rfl

theorem contains_set (kind other : DataKind) (key wanted : String) :
    (deps.set kind key).contains other wanted = true ↔
      (other, wanted) = (kind, key) ∨ deps.contains other wanted = true := by
  unfold contains set
  rw [ByKind.data_modify, Prod.mk.injEq]
  by_cases sameKind : other = kind
  · rw [if_pos sameKind, OrdMap.find_emplace, Option.isSome_or]
    by_cases sameKey : wanted = key <;> simp [sameKind, sameKey]
  · simp [sameKind]

theorem mem_items {deps : DependencySet} : item ∈ deps.items ↔ deps.contains item.1 item.2 = true := by
  obtain ⟨kind, key⟩ := item
  have present (keys : OrdMap String Unit) : (keys.find key).isSome = true ↔ ∃ value, (key, value) ∈ keys.entries := by
    simp only [Option.isSome_iff_exists, OrdMap.find_eq_some_iff]
  cases kind with
  | flag => simpa [items, contains, ByKind.data] using (present deps.flag).symm
  | segment => simpa [items, contains, ByKind.data] using (present deps.segment).symm

def seenSet : Search.SeenSet Item DependencySet where
  contains deps item := deps.contains item.1 item.2
  add deps item := deps.set item.1 item.2
  contains_add deps item other := contains_set deps item.1 other.1 item.2 other.2

end DependencySet

abbrev DependencyMap := ByKind (OrdMap String DependencySet)

namespace DependencyMap

def empty : DependencyMap := ⟨.empty, .empty⟩

variable (map : DependencyMap) (kind : DataKind) (key : String)

/-- Keeps the set that a key already has. -/
def set (deps : DependencySet) : DependencyMap :=
  map.modify kind fun sets => sets.emplace key deps

/-- The set that is returned is a copy. -/
def get : Option DependencySet := (map.data kind).find key

def clear : DependencyMap := (map.modify .flag fun _ => .empty).modify .segment fun _ => .empty

@[simp] theorem get_empty : empty.get kind key = none := by
  cases kind <;> rfl

theorem get_set (kind other : DataKind) (key wanted : String) (deps : DependencySet) :
    (map.set kind key deps).get other wanted =
      (map.get other wanted).or (if (other, wanted) = (kind, key) then some deps else none) := by
  unfold get set
  rw [ByKind.data_modify]
  by_cases sameKind : other = kind
  · rw [if_pos sameKind, OrdMap.find_emplace]
    simp [sameKind]
  · simp [sameKind]

end DependencyMap

def calculateClauseDeps (deps : DependencySet) (clauses : List Clause) : DependencySet :=
  clauses.foldl (fun deps clause =>
    if clause.op = .segmentMatch then
      clause.values.foldl (fun deps value => deps.set .segment value.asString) deps
    else deps) deps

def flagDependencies (flag : ItemDescriptor Flag) : DependencySet :=
  match flag.item with
  | none => .empty
  | some flag =>
    let deps := flag.prerequisites.foldl (fun deps prereq => deps.set .flag prereq.key) DependencySet.empty
    flag.rules.foldl (fun deps rule => calculateClauseDeps deps rule.clauses) deps

def segmentDependencies (segment : ItemDescriptor Segment) : DependencySet :=
  match segment.item with
  | none => .empty
  | some segment => segment.rules.foldl (fun deps rule => calculateClauseDeps deps rule.clauses) .empty

structure DependencyTracker where
  dependenciesFrom : DependencyMap
  dependenciesTo : DependencyMap
  deriving DecidableEq

namespace DependencyTracker

def empty : DependencyTracker := ⟨.empty, .empty⟩

variable (tracker : DependencyTracker) (key : String)

/-- The removal is made on the copy that `get` returns, and is lost with it. -/
def forgetDependent (dep : Item) : DependencyTracker :=
  let _removed := (tracker.dependenciesTo.get dep.1 dep.2).map fun dependents => dependents.remove dep.1 key
  tracker

/-- Only the first dependent is recorded; a later one is added to the copy that `get` returns. -/
def addDependent (kind : DataKind) (key : String) (tracker : DependencyTracker) (dep : Item) : DependencyTracker :=
  match tracker.dependenciesTo.get dep.1 dep.2 with
  | none =>
    { tracker with dependenciesTo := tracker.dependenciesTo.set dep.1 dep.2 (DependencySet.empty.set kind key) }
  | some dependents =>
    let _added := dependents.set kind key
    tracker

def updateDependencies (kind : DataKind) (key : String) (deps : DependencySet) : DependencyTracker :=
  let tracker :=
    match tracker.dependenciesFrom.get kind key with
    | none => tracker
    | some currentDeps => currentDeps.items.foldl (fun tracker dep => tracker.forgetDependent key dep) tracker
  let tracker := { tracker with dependenciesFrom := tracker.dependenciesFrom.set kind key deps }
  deps.items.foldl (addDependent kind key) tracker

def updateFlag (flag : ItemDescriptor Flag) : DependencyTracker :=
  tracker.updateDependencies .flag key (flagDependencies flag)

def updateSegment (segment : ItemDescriptor Segment) : DependencyTracker :=
  tracker.updateDependencies .segment key (segmentDependencies segment)

def clear : DependencyTracker :=
  ⟨tracker.dependenciesFrom.clear, tracker.dependenciesTo.clear⟩

/-- Without fuel there is no answer. -/
def calculateChanges (tracker : DependencyTracker) :
    Nat → DependencySet → DataKind → String → Option DependencySet
  | 0, _, _, _ => none
  | fuel + 1, changes, kind, key =>
    if changes.contains kind key then some changes
    else
      let changes := changes.set kind key
      match tracker.dependenciesTo.get kind key with
      | none => some changes
      | some affectedItems =>
        affectedItems.items.foldlM (fun changes item => calculateChanges tracker fuel changes item.1 item.2) changes

def affectedItems (item : Item) : List Item :=
  (tracker.dependenciesTo.get item.1 item.2).elim [] DependencySet.items

theorem calculateChanges_eq_visit (fuel : Nat) (changes : DependencySet)
    (kind : DataKind) (key : String) :
    tracker.calculateChanges fuel changes kind key =
      Search.visit DependencySet.seenSet tracker.affectedItems fuel changes (kind, key) := by
  induction fuel generalizing changes kind key with
  | zero => rfl
  | succ fuel ih =>
    have same : (fun changes (item : Item) => tracker.calculateChanges fuel changes item.1 item.2) =
        Search.visit DependencySet.seenSet tracker.affectedItems fuel := by
      funext changes item
      exact ih changes item.1 item.2
    rw [calculateChanges, Search.visit, same]
    apply if_congr Iff.rfl rfl
    unfold affectedItems
    cases tracker.dependenciesTo.get kind key <;> rfl

def dependents : List Item :=
  (tracker.dependenciesTo.flag.entries ++ tracker.dependenciesTo.segment.entries).flatMap fun entry => entry.2.items

def changesInto (changes : DependencySet) (kind : DataKind) (key : String) : DependencySet :=
  (tracker.calculateChanges (tracker.dependents.length + 2) changes kind key).getD changes

theorem mem_dependents {next : Item} (edge : next ∈ tracker.affectedItems item) : next ∈ tracker.dependents := by
  obtain ⟨kind, key⟩ := item
  unfold affectedItems at edge
  cases found : tracker.dependenciesTo.get kind key with
  | none =>
    rw [found] at edge
    cases edge
  | some affected =>
    rw [found] at edge
    have stored : (key, affected) ∈ tracker.dependenciesTo.flag.entries ++ tracker.dependenciesTo.segment.entries := by
      cases kind with
      | flag => exact List.mem_append_left _ ((OrdMap.find_eq_some_iff _).1 found)
      | segment => exact List.mem_append_right _ ((OrdMap.find_eq_some_iff _).1 found)
    exact List.mem_flatMap.2 ⟨_, stored, edge⟩

/-- Fuel for each dependent and for each of the seeds is enough to call for all of them. -/
theorem exists_explores (changes : DependencySet) (seeds : List Item) {fuel : Nat}
    (enough : seeds.length + tracker.dependents.length < fuel) :
    ∃ result, seeds.foldlM (fun changes seed => tracker.calculateChanges fuel changes seed.1 seed.2) changes =
        some result ∧ Search.Explores DependencySet.seenSet tracker.affectedItems seeds changes result := by
  let domain : Finset Item := (seeds ++ tracker.dependents).toFinset
  have closed : ∀ node ∈ domain, ∀ next ∈ tracker.affectedItems node, next ∈ domain := by
    intro node _ next edge
    exact List.mem_toFinset.2 (List.mem_append_right _ (tracker.mem_dependents edge))
  have few : (Search.unseen DependencySet.seenSet domain changes).card < fuel := by
    have all := Finset.card_filter_le domain fun node => ¬ DependencySet.seenSet.contains changes node = true
    have size : domain.card ≤ _ := List.toFinset_card_le _
    rw [List.length_append] at size
    exact (all.trans size).trans_lt enough
  have inside : ∀ seed ∈ seeds, seed ∈ domain := fun seed member => List.mem_toFinset.2 (List.mem_append_left _ member)
  simp only [calculateChanges_eq_visit]
  obtain ⟨result, found⟩ := Search.foldlM_succeeds Search.visit_explores (Search.visit_succeeds closed) inside few
  exact ⟨result, found, Search.foldlM_explores Search.visit_explores found⟩

/-- The fuel is enough, so the changes that were given are never taken for the answer. -/
theorem changesInto_explores (changes : DependencySet) (item : Item) :
    tracker.calculateChanges (tracker.dependents.length + 2) changes item.1 item.2 =
        some (tracker.changesInto changes item.1 item.2) ∧
      Search.Explores DependencySet.seenSet tracker.affectedItems [item] changes
        (tracker.changesInto changes item.1 item.2) := by
  have enough : [item].length + tracker.dependents.length < tracker.dependents.length + 2 := by
    rw [List.length_singleton]
    omega
  obtain ⟨result, found, explores⟩ := tracker.exists_explores changes [item] enough
  simp only [List.foldlM_cons, List.foldlM_nil, bind_pure] at found
  rw [changesInto, found]
  exact ⟨rfl, explores⟩

def Closed (changes : DependencySet) : Prop :=
  ∀ item : Item, changes.contains item.1 item.2 = true →
    ∀ next ∈ tracker.affectedItems item, changes.contains next.1 next.2 = true

theorem closed_empty : tracker.Closed .empty := by
  intro item member
  rw [DependencySet.contains_empty] at member
  cases member

variable {tracker}

section
variable {changes : DependencySet} (closed : tracker.Closed changes)
include closed

theorem contains_changesInto (item other : Item) :
    (tracker.changesInto changes item.1 item.2).contains other.1 other.2 = true ↔
      changes.contains other.1 other.2 = true ∨ Search.Reaches tracker.affectedItems item other := by
  simpa [DependencySet.seenSet] using (tracker.changesInto_explores changes item).2.contains_iff closed other

theorem closed_changesInto (item : Item) : tracker.Closed (tracker.changesInto changes item.1 item.2) := by
  intro old member next edge
  rw [contains_changesInto closed] at member ⊢
  cases member with
  | inl before => exact .inl (closed old before next edge)
  | inr path => exact .inr (path.tail edge)

end

theorem foldl_changesInto {Element : Type} (skip : Element → Bool)
    (item : Element → Item) (elements : List Element) {changes : DependencySet} (closed : tracker.Closed changes) :
    let result := elements.foldl (fun changes element =>
      if skip element then changes else tracker.changesInto changes (item element).1 (item element).2) changes
    tracker.Closed result ∧ ∀ other : Item, result.contains other.1 other.2 = true ↔
      changes.contains other.1 other.2 = true ∨
        ∃ element ∈ elements, skip element = false ∧ Search.Reaches tracker.affectedItems (item element) other := by
  induction elements generalizing changes with
  | nil => exact ⟨closed, fun other => by simp⟩
  | cons element elements ih =>
    cases skipped : skip element with
    | true =>
      obtain ⟨closed, contains⟩ := ih closed
      simp only [List.foldl_cons, skipped, if_true, List.exists_mem_cons_iff, Bool.true_eq_false, false_and, false_or]
      exact ⟨closed, contains⟩
    | false =>
      obtain ⟨after, contains⟩ := ih (closed_changesInto closed (item element))
      simp only [List.foldl_cons, skipped, Bool.false_eq_true, if_false, List.exists_mem_cons_iff, true_and]
      refine ⟨after, fun other => ?_⟩
      rw [contains, contains_changesInto closed, or_assoc]

/-- With enough fuel, calls for the seeds, in whatever order, add what can be reached from them. -/
def Accumulates (tracker : DependencyTracker) (changes : DependencySet) (seeds : List Item) : Prop :=
  ∃ enough, ∀ fuel ≥ enough, ∀ order : List Item, order.Perm seeds →
    ∃ result, order.foldlM (fun changes seed => tracker.calculateChanges fuel changes seed.1 seed.2) changes =
        some result ∧
      ∀ item : Item, result.contains item.1 item.2 = true ↔
        changes.contains item.1 item.2 = true ∨ ∃ seed ∈ seeds, Search.Reaches tracker.affectedItems seed item

theorem changes_accumulate (tracker : DependencyTracker) {changes : DependencySet} (closed : tracker.Closed changes)
    (seeds : List Item) : tracker.Accumulates changes seeds := by
  refine ⟨seeds.length + tracker.dependents.length + 1, fun fuel enough order same => ?_⟩
  obtain ⟨result, found, explores⟩ := tracker.exists_explores changes order (by rwa [same.length_eq])
  refine ⟨result, found, fun item => ?_⟩
  have reached := explores.contains_iff closed item
  simp only [same.mem_iff] at reached
  exact reached

/-- Two flags that depend on each other. -/
theorem changes_accumulate_cycle :
    Accumulates ⟨.empty, (DependencyMap.empty.set .flag "a" (DependencySet.empty.set .flag "b")).set .flag "b"
      (DependencySet.empty.set .flag "a")⟩ .empty [(.flag, "a"), (.flag, "b")] :=
  changes_accumulate _ (closed_empty _) _

end DependencyTracker

end FlagSdk.Dependencies
