import Mathlib.Data.Int.ModEq

/-! The list of synchronizer factories, of which some are available and some blocked, and the cyclic
search for the next one. -/

namespace FlagSdk.Fdv2

inductive SourceManager.State where
  | available
  | blocked
  deriving DecidableEq, Repr

structure SynchronizerFactoryWithState where
  state : SourceManager.State
  isFdv1Fallback : Bool
  deriving DecidableEq, Repr

/-- The two indices are −1 when there is none. -/
structure SourceManager where
  synchronizers : List SynchronizerFactoryWithState
  synchronizerIndex : Int
  currentFactoryIndex : Int
  deriving DecidableEq, Repr

namespace SourceManager

/-- One factory for each entry, which says whether it is an FDv1 fallback. -/
def ofFactories (factories : List Bool) : SourceManager where
  synchronizers := factories.map fun isFdv1Fallback =>
    ⟨if isFdv1Fallback then .blocked else .available, isFdv1Fallback⟩
  synchronizerIndex := -1
  currentFactoryIndex := -1

variable (manager : SourceManager)

def entryAt (index : Int) : Option SynchronizerFactoryWithState :=
  if 0 ≤ index then manager.synchronizers[index.toNat]? else none

def availableAt (index : Int) : Bool :=
  (manager.entryAt index).any (·.state = .available)

/-- The search over the factories not visited yet: the one found, and where the cursor stops. -/
def searchNext (manager : SourceManager) : Nat → Int → Option Int × Int
  | 0, index => (none, index)
  | left + 1, index =>
    let index := (index + 1) % manager.synchronizers.length
    if manager.availableAt index then (some index, index) else manager.searchNext left index

/-- The index of the factory from which the next synchronizer is built, if there is one. -/
def nextSynchronizer : Option Int × SourceManager :=
  let (found, cursor) := manager.searchNext manager.synchronizers.length manager.synchronizerIndex
  (found, { manager with synchronizerIndex := cursor, currentFactoryIndex := found.getD (-1) })

def blockCurrentSynchronizer : SourceManager :=
  if 0 ≤ manager.currentFactoryIndex then
    { manager with
      synchronizers := manager.synchronizers.modify manager.currentFactoryIndex.toNat
        (fun entry => { entry with state := .blocked }) }
  else manager

def resetSourceIndex : SourceManager :=
  { manager with synchronizerIndex := -1 }

def switchToFDv1Fallback : SourceManager :=
  { manager with
    synchronizers := manager.synchronizers.map fun entry =>
      { entry with state := if entry.isFdv1Fallback then .available else .blocked }
    synchronizerIndex := -1 }

def switchBackToFDv2 : SourceManager :=
  { manager with
    synchronizers := manager.synchronizers.map fun entry =>
      { entry with state := if entry.isFdv1Fallback then .blocked else .available }
    synchronizerIndex := -1 }

def isPrimeSynchronizer : Bool :=
  match manager.synchronizers.findIdx? (·.state = .available) with
  | some first => manager.synchronizerIndex = first
  | none => false

def availableSynchronizerCount : Nat :=
  manager.synchronizers.countP (·.state = .available)

def synchronizerCount : Nat := manager.synchronizers.length

def isCurrentSynchronizerFDv1Fallback : Bool :=
  (manager.entryAt manager.currentFactoryIndex).any (·.isFdv1Fallback)

variable {manager}

theorem searchNext_fst (left : Nat) (index : Int) :
    (manager.searchNext left index).1 =
      ((List.range left).map fun steps : ℕ => (index + 1 + steps) % manager.synchronizers.length).find?
        manager.availableAt := by
  induction left generalizing index with
  | zero => rfl
  | succ left ih =>
    have later : ((List.range left).map fun steps : ℕ =>
          (index + 1 + (steps + 1 : ℕ)) % manager.synchronizers.length) =
        (List.range left).map fun steps : ℕ =>
          ((index + 1) % manager.synchronizers.length + 1 + steps) % manager.synchronizers.length := by
      apply List.map_congr_left
      intro steps _
      rw [add_assoc ((index + 1) % _), Int.emod_add_emod, Nat.cast_succ, add_comm (steps : Int)]
    rw [searchNext, List.range_succ_eq_map, List.map_cons, List.map_map]
    simp only [Function.comp_def, Nat.succ_eq_add_one, later, Nat.cast_zero, add_zero]
    cases here : manager.availableAt ((index + 1) % manager.synchronizers.length) with
    | true => rw [if_pos rfl, List.find?_cons_of_pos here]
    | false =>
      rw [if_neg Bool.false_ne_true, List.find?_cons_of_neg (by rw [here]; exact Bool.false_ne_true)]
      exact ih _

theorem nextSynchronizer_none (none : manager.nextSynchronizer.1 = none) :
    manager.availableSynchronizerCount = 0 := by
  have unavailable := List.find?_eq_none.1 ((searchNext_fst _ _).symm.trans none)
  apply List.countP_eq_zero.2
  intro entry member available
  obtain ⟨position, bound, found⟩ := List.getElem_of_mem member
  -- The position is reached after as many steps as it lies behind the cursor, modulo the length.
  have positive : (0 : Int) < manager.synchronizers.length := by omega
  have steps := Int.emod_nonneg (position - (manager.synchronizerIndex + 1)) positive.ne'
  have few := Int.emod_lt_of_pos (position - (manager.synchronizerIndex + 1)) positive
  have seen := unavailable _ (List.mem_map_of_mem (List.mem_range.2 (Int.toNat_lt steps |>.2 few)))
  rw [Int.toNat_of_nonneg steps, Int.add_emod_emod, add_sub_cancel,
    Int.emod_eq_of_lt (by omega) (by omega)] at seen
  simp [availableAt, entryAt, bound, found] at seen
  simp [seen] at available

end SourceManager

end FlagSdk.Fdv2
