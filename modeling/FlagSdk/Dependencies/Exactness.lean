import FlagSdk.Dependencies.Tracker

/-! What the dependency tracker is for, and what its maps hold instead. After any operations the reverse
map gives each dependency one dependent, the first item that listed it since the last clear; the tracker
is exact when that is what the latest descriptors say as well. -/

namespace FlagSdk.Dependencies
open Relation
open Lib Data

variable (dep : Item)

section

def ClausesMatch (clauses : List Clause) (dep : Item) : Prop :=
  ∃ clause ∈ clauses, clause.op = .segmentMatch ∧ ∃ value ∈ clause.values, dep = (.segment, value.asString)

def DependsOn : ItemChange → Item → Prop
  | .flag _ descriptor, dep =>
    ∃ flag, descriptor.item = some flag ∧
      ((∃ prereq ∈ flag.prerequisites, dep = (.flag, prereq.key)) ∨ ∃ rule ∈ flag.rules, ClausesMatch rule.clauses dep)
  | .segment _ descriptor, dep =>
    ∃ segment, descriptor.item = some segment ∧ ∃ rule ∈ segment.rules, ClausesMatch rule.clauses dep

def itemOf : ItemChange → Item
  | .flag key _ => (.flag, key)
  | .segment key _ => (.segment, key)

def dependenciesOf : ItemChange → DependencySet
  | .flag _ descriptor => flagDependencies descriptor
  | .segment _ descriptor => segmentDependencies descriptor

theorem contains_foldl {Element : Type} {add : DependencySet → Element → DependencySet} {adds : Element → Prop}
    (one : ∀ deps element, (add deps element).contains dep.1 dep.2 = true ↔
      adds element ∨ deps.contains dep.1 dep.2 = true)
    (elements : List Element) (deps : DependencySet) :
    (elements.foldl add deps).contains dep.1 dep.2 = true ↔
      (∃ element ∈ elements, adds element) ∨ deps.contains dep.1 dep.2 = true := by
  induction elements generalizing deps with
  | nil => simp
  | cons element elements ih =>
    rw [List.foldl_cons, ih, one, List.exists_mem_cons_iff, or_assoc, or_left_comm]

theorem contains_calculateClauseDeps (clauses : List Clause) (deps : DependencySet) :
    (calculateClauseDeps deps clauses).contains dep.1 dep.2 = true ↔
      ClausesMatch clauses dep ∨ deps.contains dep.1 dep.2 = true := by
  apply contains_foldl dep
  intro deps clause
  by_cases segmentMatch : clause.op = .segmentMatch
  · simp only [segmentMatch, if_true, true_and]
    exact contains_foldl dep (fun deps value => deps.contains_set .segment dep.1 value.asString dep.2) _ _
  · simp [segmentMatch]

theorem contains_dependenciesOf (change : ItemChange) (dep : Item) :
    (dependenciesOf change).contains dep.1 dep.2 = true ↔ DependsOn change dep := by
  cases change with
  | flag key descriptor =>
    simp only [dependenciesOf, flagDependencies, DependsOn]
    cases descriptor.item with
    | none => simp
    | some flag =>
      rw [contains_foldl dep fun deps (rule : Flag.Rule) => contains_calculateClauseDeps dep rule.clauses deps,
        contains_foldl dep fun deps prereq => deps.contains_set .flag dep.1 prereq.key dep.2]
      simp [or_comm]
  | segment key descriptor =>
    simp only [dependenciesOf, segmentDependencies, DependsOn]
    cases descriptor.item with
    | none => simp
    | some segment =>
      rw [contains_foldl dep fun deps (rule : Segment.Rule) => contains_calculateClauseDeps dep rule.clauses deps]
      simp

instance (change : ItemChange) (dep : Item) : Decidable (DependsOn change dep) :=
  decidable_of_iff _ (contains_dependenciesOf change dep)

end

inductive Operation where
  | update (change : ItemChange)
  | clear
  deriving DecidableEq

abbrev History := List ItemChange

namespace History
variable (history : History)

def record : Operation → History
  | .update change => history ++ [change]
  | .clear => []

def latest (item : Item) : Option ItemChange := history.reverse.find? fun change => itemOf change = item

def Depends (item dep : Item) : Prop := ∃ change ∈ history.latest item, DependsOn change dep

/-- The item with the first descriptor that lists the dependency. -/
def firstDependent (dep : Item) : Option Item := (history.find? fun change => DependsOn change dep).map itemOf

/-- The item and what depends on it, directly or through others. -/
def Affected (item other : Item) : Prop := ReflTransGen (fun dep dependent => history.Depends dependent dep) item other

/-- The item, its first dependent, the first dependent of that one, and so on. -/
def FirstChain (item other : Item) : Prop :=
  ReflTransGen (fun dep dependent => history.firstDependent dep = some dependent) item other

end History

namespace DependencyTracker

def apply (tracker : DependencyTracker) : Operation → DependencyTracker
  | .update (.flag key descriptor) => tracker.updateFlag key descriptor
  | .update (.segment key descriptor) => tracker.updateSegment key descriptor
  | .clear => tracker.clear

/-- Each map keeps what came first: the forward map the first descriptor of an item, the reverse map the
first dependent of a dependency. -/
structure Represents (tracker : DependencyTracker) (history : History) : Prop where
  forward : ∀ item : Item, tracker.dependenciesFrom.get item.1 item.2 =
    (history.find? fun change => itemOf change = item).map dependenciesOf
  reverse : ∀ dep : Item, tracker.dependenciesTo.get dep.1 dep.2 =
    (history.firstDependent dep).map fun item => DependencySet.empty.set item.1 item.2

section
variable (tracker : DependencyTracker) (kind : DataKind) (key : String)

theorem dependenciesFrom_addDependent :
    (tracker.addDependent kind key dep).dependenciesFrom = tracker.dependenciesFrom := by
  unfold addDependent
  cases tracker.dependenciesTo.get dep.1 dep.2 <;> rfl

theorem dependenciesTo_addDependent (dep other : Item) :
    (tracker.addDependent kind key dep).dependenciesTo.get other.1 other.2 =
      (tracker.dependenciesTo.get other.1 other.2).or
        (if other = dep then some (DependencySet.empty.set kind key) else none) := by
  unfold addDependent
  cases present : tracker.dependenciesTo.get dep.1 dep.2 with
  | none => exact DependencyMap.get_set _ _ _ _ _ _
  | some dependents =>
    by_cases same : other = dep
    · rw [same, present, Option.some_or]
    · rw [if_neg same, Option.or_none]

variable (deps : List Item)

theorem dependenciesFrom_foldl_addDependent :
    (deps.foldl (addDependent kind key) tracker).dependenciesFrom = tracker.dependenciesFrom := by
  induction deps generalizing tracker with
  | nil => rfl
  | cons dep deps ih => rw [List.foldl_cons, ih, dependenciesFrom_addDependent]

theorem dependenciesTo_foldl_addDependent (other : Item) :
    (deps.foldl (addDependent kind key) tracker).dependenciesTo.get other.1 other.2 =
      (tracker.dependenciesTo.get other.1 other.2).or
        (if other ∈ deps then some (DependencySet.empty.set kind key) else none) := by
  induction deps generalizing tracker with
  | nil => simp
  | cons dep deps ih =>
    rw [List.foldl_cons, ih, dependenciesTo_addDependent, Option.or_assoc]
    by_cases here : other = dep
    · simp [here]
    · simp [here]

theorem foldl_forgetDependent :
    deps.foldl (fun tracker dep => tracker.forgetDependent key dep) tracker = tracker := by
  induction deps with
  | nil => rfl
  | cons dep deps ih => exact ih

theorem updateDependencies_eq (deps : DependencySet) :
    tracker.updateDependencies kind key deps =
      deps.items.foldl (addDependent kind key)
        { tracker with dependenciesFrom := tracker.dependenciesFrom.set kind key deps } := by
  unfold updateDependencies
  cases tracker.dependenciesFrom.get kind key with
  | none => rfl
  | some current => simp only [foldl_forgetDependent]

end

theorem apply_update (tracker : DependencyTracker) (change : ItemChange) :
    tracker.apply (.update change) =
      tracker.updateDependencies (itemOf change).1 (itemOf change).2 (dependenciesOf change) := by
  cases change <;> rfl

theorem represents_empty : empty.Represents [] where
  forward _ := DependencyMap.get_empty _ _
  reverse _ := DependencyMap.get_empty _ _

variable {tracker : DependencyTracker} {history : History}

theorem Represents.update (represents : tracker.Represents history)
    (change : ItemChange) : (tracker.apply (.update change)).Represents (history.record (.update change)) := by
  rw [apply_update, updateDependencies_eq]
  constructor
  · intro item
    rw [dependenciesFrom_foldl_addDependent, DependencyMap.get_set, represents.forward, History.record,
      List.find?_append, Option.map_or]
    by_cases same : itemOf change = item
    · simp [same]
    · simp [same, Ne.symm same]
  · intro dep
    rw [dependenciesTo_foldl_addDependent, represents.reverse, History.record, History.firstDependent,
      History.firstDependent, List.find?_append, Option.map_or, Option.map_or]
    simp only [DependencySet.mem_items, contains_dependenciesOf]
    by_cases lists : DependsOn change dep <;> simp [lists]

theorem Represents.apply (represents : tracker.Represents history)
    (operation : Operation) : (tracker.apply operation).Represents (history.record operation) := by
  cases operation with
  | update change => exact represents.update change
  | clear => exact represents_empty

theorem represents_foldl (operations : List Operation) :
    (operations.foldl apply empty).Represents (operations.foldl History.record []) :=
  List.foldl_rel (r := Represents) represents_empty fun operation _ _ _ represents => represents.apply operation

section
variable (represents : tracker.Represents history)
include represents

theorem Represents.mem_affectedItems (dep item : Item) :
    item ∈ tracker.affectedItems dep ↔ history.firstDependent dep = some item := by
  unfold affectedItems
  rw [represents.reverse]
  cases history.firstDependent dep with
  | none => simp
  | some first =>
    rw [Option.map_some, Option.elim_some, DependencySet.mem_items, DependencySet.contains_set,
      DependencySet.contains_empty, Option.some.injEq]
    exact ⟨fun either => (either.resolve_right Bool.false_ne_true).symm, fun same => .inl same.symm⟩

theorem Represents.reaches_eq : Search.Reaches tracker.affectedItems = history.FirstChain := by
  unfold Search.Reaches History.FirstChain
  congr 1
  funext dep item
  exact propext (represents.mem_affectedItems dep item)

theorem Represents.calculateChanges (kind : DataKind) (key : String) :
    ∃ enough, ∀ fuel ≥ enough, ∃ changes, tracker.calculateChanges fuel .empty kind key = some changes ∧
      ∀ item : Item, changes.contains item.1 item.2 = true ↔ history.FirstChain (kind, key) item := by
  refine ⟨[(kind, key)].length + tracker.dependents.length + 1, fun fuel enough => ?_⟩
  obtain ⟨changes, found, explores⟩ := tracker.exists_explores .empty [(kind, key)] enough
  simp only [List.foldlM_cons, List.foldlM_nil, bind_pure] at found
  refine ⟨changes, found, fun item => ?_⟩
  have reached := explores.contains_iff tracker.closed_empty item
  simpa [represents.reaches_eq, DependencySet.seenSet] using reached

end

section
variable (operations : List Operation)

/-- With enough fuel, the changes are an item and everything it affects. -/
def ChangesExact : Prop :=
  ∀ kind key, ∃ enough, ∀ fuel ≥ enough, ∃ changes,
    (operations.foldl apply empty).calculateChanges fuel .empty kind key = some changes ∧
      ∀ item : Item, changes.contains item.1 item.2 = true ↔
        (operations.foldl History.record []).Affected (kind, key) item

def ReverseExact : Prop :=
  ∀ item dep : Item,
    (∃ dependents, (operations.foldl apply empty).dependenciesTo.get dep.1 dep.2 = some dependents ∧
        dependents.contains item.1 item.2 = true) ↔
      (operations.foldl History.record []).Depends item dep

/-- Each dependency is listed, in the latest descriptors, by the item that was the first to list it and
by no other. -/
def OneDependent : Prop :=
  ∀ item dep : Item, (operations.foldl History.record []).Depends item dep ↔
    (operations.foldl History.record []).firstDependent dep = some item

theorem changesExact_iff : ChangesExact operations ↔ ∀ item other,
    (operations.foldl History.record []).FirstChain item other ↔
      (operations.foldl History.record []).Affected item other := by
  have represents := represents_foldl operations
  constructor
  · rintro exact ⟨kind, key⟩ other
    obtain ⟨enough, run⟩ := represents.calculateChanges kind key
    obtain ⟨enoughExact, runExact⟩ := exact kind key
    obtain ⟨changes, found, chain⟩ := run (max enough enoughExact) (le_max_left _ _)
    obtain ⟨same, foundExact, affected⟩ := runExact (max enough enoughExact) (le_max_right _ _)
    cases found.symm.trans foundExact
    exact (chain other).symm.trans (affected other)
  · intro same kind key
    obtain ⟨enough, run⟩ := represents.calculateChanges kind key
    refine ⟨enough, fun fuel within => ?_⟩
    obtain ⟨changes, found, chain⟩ := run fuel within
    exact ⟨changes, found, fun item => (chain item).trans (same _ item)⟩

theorem reverseExact_iff : ReverseExact operations ↔ OneDependent operations := by
  apply forall₂_congr
  intro item dep
  have affected := (represents_foldl operations).mem_affectedItems dep item
  have present : item ∈ (operations.foldl apply empty).affectedItems dep ↔
      ∃ dependents, (operations.foldl apply empty).dependenciesTo.get dep.1 dep.2 = some dependents ∧
        dependents.contains item.1 item.2 = true := by
    unfold affectedItems
    cases (operations.foldl apply empty).dependenciesTo.get dep.1 dep.2 <;> simp [DependencySet.mem_items]
  rw [← present, affected]
  exact iff_comm

theorem changesExact_of_oneDependent (one : OneDependent operations) : ChangesExact operations := by
  apply (changesExact_iff operations).2
  intro item other
  have same : (fun dep dependent => (operations.foldl History.record []).firstDependent dep = some dependent) =
      fun dep dependent => (operations.foldl History.record []).Depends dependent dep := by
    funext dep dependent
    exact propext (one dependent dep).symm
  unfold History.FirstChain History.Affected
  rw [same]

/-- The tracker is exact when each dependency has one dependent, the first one. The changes alone are exact
when the chains of first dependents happen to meet everything that is affected. -/
theorem tracker_exact_iff :
    (ChangesExact operations ∧ ReverseExact operations ↔ OneDependent operations) ∧
      (ChangesExact operations ↔ ∀ item other,
        (operations.foldl History.record []).FirstChain item other ↔
          (operations.foldl History.record []).Affected item other) := by
  refine ⟨⟨fun exact => (reverseExact_iff operations).1 exact.2, fun one => ?_⟩, changesExact_iff operations⟩
  exact ⟨changesExact_of_oneDependent operations one, (reverseExact_iff operations).2 one⟩

end

def plainDescriptor (key : String) (version : UInt64) (prerequisites : List String) : ItemDescriptor Flag :=
  .ofFlag { bareFlag key version with
    on := true
    fallthrough := .variation (some 0)
    variations := [.bool true]
    prerequisites := prerequisites.map fun prerequisite => ⟨prerequisite, 0⟩ }

/-- Of two flags with the same prerequisite, the second one is not affected by it. -/
theorem shared_prerequisite_lost : ¬∀ operations, ChangesExact operations := by
  intro exact
  let sharing (key : String) : Operation := .update (.flag key (plainDescriptor key 1 ["shared"]))
  let operations := [sharing "first", sharing "second"]
  have affected : (operations.foldl History.record []).Affected (.flag, "shared") (.flag, "second") :=
    .single ⟨_, rfl, by decide⟩
  have chain := ((changesExact_iff operations).1 (exact operations) _ _).2 affected
  rcases chain.cases_head with same | ⟨dependent, first, rest⟩
  · exact absurd same (by decide)
  · have toFirst : some (DataKind.flag, "first") = some dependent := first
    cases toFirst
    rcases rest.cases_head with same | ⟨dependent, second, -⟩
    · exact absurd same (by decide)
    · have nothing : none = some dependent := second
      cases nothing

end DependencyTracker

end FlagSdk.Dependencies
