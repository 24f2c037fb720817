import FlagSdk.Fdv2.SourceManager
import FlagSdk.Lib.Cycle
import Mathlib.Data.List.Count

/-! Which synchronizer is built next, over all sequences of calls of the source manager. -/

namespace FlagSdk.Fdv2.SourceManager
open Lib.Cycle

inductive Call where
  | nextSynchronizer
  | blockCurrentSynchronizer
  | resetSourceIndex
  | switchToFDv1Fallback
  | switchBackToFDv2
  deriving DecidableEq, Repr

variable (manager : SourceManager)

def call : Call → SourceManager
  | .nextSynchronizer => manager.nextSynchronizer.2
  | .blockCurrentSynchronizer => manager.blockCurrentSynchronizer
  | .resetSourceIndex => manager.resetSourceIndex
  | .switchToFDv1Fallback => manager.switchToFDv1Fallback
  | .switchBackToFDv2 => manager.switchBackToFDv2

/-- The manager with what its calls did: the position built last since the search was sent back to the start, and
whether the last switch was to the fallback. -/
structure History where
  manager : SourceManager
  previous : Option Int
  fallback : Bool

namespace History

def call (history : History) (call : Call) : History where
  manager := history.manager.call call
  previous :=
    match call with
    | .nextSynchronizer => history.manager.nextSynchronizer.1.or history.previous
    | .blockCurrentSynchronizer => history.previous
    | .resetSourceIndex | .switchToFDv1Fallback | .switchBackToFDv2 => none
  fallback :=
    match call with
    | .switchToFDv1Fallback => true
    | .switchBackToFDv2 => false
    | .nextSynchronizer | .blockCurrentSynchronizer | .resetSourceIndex => history.fallback

def start (factories : List Bool) : History := ⟨ofFactories factories, none, false⟩

def after (factories : List Bool) (calls : List Call) : History := calls.foldl call (start factories)

end History

def Call.resets : Call → Bool
  | .resetSourceIndex | .switchToFDv1Fallback | .switchBackToFDv2 => true
  | .nextSynchronizer | .blockCurrentSynchronizer => false

def positions : List Int := (List.range manager.synchronizers.length).map Nat.cast

/-- The positions of the available synchronizers, in the order of the list. -/
def available : List Int := manager.positions.filter manager.availableAt

def builds (manager : SourceManager) : Nat → List (Option Int)
  | 0 => []
  | count + 1 => manager.nextSynchronizer.1 :: manager.nextSynchronizer.2.builds count

variable {position found : Int}

section
variable {manager}

/-- The cursor is at a position, or before the first. -/
def InRange (manager : SourceManager) : Prop :=
  -1 ≤ manager.synchronizerIndex ∧ manager.synchronizerIndex < manager.synchronizers.length

theorem availableAt_comp_cast :
    (manager.availableAt ∘ Nat.cast) =
      fun position => (manager.synchronizers[position]?).any (·.state = .available) := by
  funext position
  simp [availableAt, entryAt]

theorem mem_positions :
    position ∈ manager.positions ↔ 0 ≤ position ∧ position < manager.synchronizers.length := by
  rw [positions, List.mem_map]
  constructor
  · rintro ⟨value, below, rfl⟩
    rw [List.mem_range] at below
    omega
  · intro bounds
    exact ⟨position.toNat, List.mem_range.2 (by omega), by omega⟩

theorem pairwise_available (manager : SourceManager) : manager.available.Pairwise (· < ·) := by
  apply List.Pairwise.filter
  rw [positions, List.pairwise_map]
  exact List.pairwise_lt_range.imp fun less => Int.ofNat_lt.2 less

theorem nonneg_of_mem_available (member : position ∈ manager.available) : 0 ≤ position :=
  (mem_positions.1 (List.mem_filter.1 member).1).1

theorem countP_range_getElem? {Entry : Type} (keep : Entry → Bool) (entries : List Entry) :
    (List.range entries.length).countP (fun position => (entries[position]?).any keep) = entries.countP keep := by
  induction entries with
  | nil => rfl
  | cons entry entries ih =>
    rw [List.length_cons, List.range_succ_eq_map, List.countP_cons, List.countP_map, List.countP_cons, ← ih]
    simp [Function.comp_def]

theorem length_available (manager : SourceManager) :
    manager.available.length = manager.availableSynchronizerCount := by
  rw [available, ← List.countP_eq_length_filter, positions, List.countP_map, availableAt_comp_cast,
    countP_range_getElem?]
  rfl

theorem head?_available (manager : SourceManager) :
    manager.available.head? = (manager.synchronizers.findIdx? (·.state = .available)).map Nat.cast := by
  rw [available, List.head?_filter, positions, List.find?_map, availableAt_comp_cast]
  congr 1
  apply Option.ext
  intro position
  rw [List.find?_range_eq_some, List.findIdx?_eq_some_iff_getElem]
  constructor
  · rintro ⟨here, bound, before⟩
    rw [List.mem_range] at bound
    refine ⟨bound, by simpa [bound] using here, fun other less => ?_⟩
    simpa [less.trans bound] using before other less
  · rintro ⟨bound, here, before⟩
    refine ⟨by simpa [bound] using here, List.mem_range.2 bound, fun other less => ?_⟩
    simpa [less.trans bound] using before other less

theorem searchNext_snd (left : Nat) (index : Int) :
    (manager.searchNext left index).2 =
      (manager.searchNext left index).1.getD
        (if left = 0 then index else (index + left) % manager.synchronizers.length) := by
  induction left generalizing index with
  | zero => rfl
  | succ left ih =>
    rw [searchNext]
    cases manager.availableAt ((index + 1) % manager.synchronizers.length) with
    | true => rfl
    | false =>
      simp only [Bool.false_eq_true, if_false, ih, Nat.add_eq_zero_iff, one_ne_zero, and_false]
      congr 1
      by_cases last : left = 0
      · simp [last]
      · rw [if_neg last, Int.emod_add_emod, Nat.cast_succ, add_assoc, add_comm (1 : Int)]

theorem nextSynchronizer_fst (inRange : manager.InRange) :
    manager.nextSynchronizer.1 = (round manager.synchronizerIndex manager.available).head? := by
  have visited := @searchNext_fst manager manager.synchronizers.length manager.synchronizerIndex
  rw [map_emod_eq_round inRange.1 inRange.2, ← List.head?_filter, filter_round] at visited
  exact visited

theorem nextSynchronizer_index (manager : SourceManager) :
    manager.nextSynchronizer.2.synchronizerIndex =
      manager.nextSynchronizer.1.getD
        (if manager.synchronizers.length = 0 then manager.synchronizerIndex
        else (manager.synchronizerIndex + manager.synchronizers.length) % manager.synchronizers.length) :=
  searchNext_snd _ _

theorem available_nextSynchronizer (manager : SourceManager) :
    manager.nextSynchronizer.2.available = manager.available := rfl

theorem mem_available_of_next (inRange : manager.InRange)
    (next : manager.nextSynchronizer.1 = some found) : found ∈ manager.available := by
  rw [nextSynchronizer_fst inRange] at next
  exact (perm_round _ _).mem_iff.1 (List.mem_of_mem_head? next)

theorem InRange.nextSynchronizer (inRange : manager.InRange) : manager.nextSynchronizer.2.InRange := by
  have index := nextSynchronizer_index manager
  have same : manager.nextSynchronizer.2.synchronizers = manager.synchronizers := rfl
  rw [InRange, index, same]
  cases next : manager.nextSynchronizer.1 with
  | some found =>
    have bounds := mem_positions.1 (List.mem_filter.1 (mem_available_of_next inRange next)).1
    exact ⟨by simp only [Option.getD_some]; omega, bounds.2⟩
  | none =>
    split
    · exact inRange
    · rename_i nonempty
      have positive : (0 : Int) < manager.synchronizers.length := by omega
      exact ⟨(show (-1 : Int) ≤ 0 by decide).trans (Int.emod_nonneg _ positive.ne'), Int.emod_lt_of_pos _ positive⟩

theorem builds_eq_take (inRange : manager.InRange) {count : Nat} (bound : count ≤ manager.available.length) :
    manager.builds count = ((round manager.synchronizerIndex manager.available).take count).map some := by
  induction count generalizing manager with
  | zero => rfl
  | succ count ih =>
    have first := nextSynchronizer_fst inRange
    have length := (perm_round manager.synchronizerIndex manager.available).length_eq
    cases turn : round manager.synchronizerIndex manager.available with
    | nil =>
      rw [turn, List.length_nil] at length
      omega
    | cons found others =>
      rw [turn, List.length_cons] at length
      rw [turn, List.head?_cons] at first
      have index := nextSynchronizer_index manager
      rw [first, Option.getD_some] at index
      have rest := ih inRange.nextSynchronizer (by rw [available_nextSynchronizer]; omega)
      rw [index, available_nextSynchronizer, round_of_round_eq_cons (pairwise_available manager) turn,
        List.take_append_of_le_length (by omega)] at rest
      rw [builds, first, rest, List.take_succ_cons, List.map_cons]

theorem isPrimeSynchronizer_of_head (first : manager.available.head? = some found)
    (index : manager.synchronizerIndex = found) : manager.isPrimeSynchronizer = true := by
  rw [head?_available] at first
  obtain ⟨position, scanned, rfl⟩ := Option.map_eq_some_iff.1 first
  rw [isPrimeSynchronizer, scanned, index]
  exact decide_eq_true rfl

end

section

structure History.Reached (factories : List Bool) (history : History) : Prop where
  inRange : history.manager.InRange
  factories : history.manager.synchronizers.map (·.isFdv1Fallback) = factories
  /-- Who finds nothing from the start of the list ends at the last position, from where the round is the same. -/
  cursor : history.manager.synchronizerIndex = history.previous.getD (-1) ∨
    history.previous = none ∧ history.manager.synchronizerIndex + 1 = history.manager.synchronizers.length
  previous : ∀ position ∈ history.previous, 0 ≤ position
  permitted : ∀ entry ∈ history.manager.synchronizers, entry.state = .available →
    entry.isFdv1Fallback = history.fallback

variable {factories : List Bool} {history : History}

theorem History.reached_start (factories : List Bool) : Reached factories (start factories) where
  inRange := ⟨le_refl _, show (-1 : Int) < _ by omega⟩
  factories := by simp [start, ofFactories, Function.comp_def]
  cursor := .inl rfl
  previous := fun _ none => absurd none (Option.not_mem_none _)
  permitted := by
    intro entry member available
    obtain ⟨isFdv1Fallback, _, rfl⟩ := List.mem_map.1 member
    cases isFdv1Fallback with
    | true => cases available
    | false => rfl

section
variable (reached : History.Reached factories history)
include reached

theorem History.Reached.switch (fallback : Bool) {state : SynchronizerFactoryWithState → State}
    (available : ∀ entry, state entry = .available → entry.isFdv1Fallback = fallback) :
    Reached factories
      ⟨{ history.manager with
          synchronizers := history.manager.synchronizers.map fun entry => { entry with state := state entry }
          synchronizerIndex := -1 }, none, fallback⟩ where
  inRange := ⟨le_refl _, show (-1 : Int) < _ by omega⟩
  factories := by
    rw [← reached.factories, List.map_map]
    rfl
  cursor := .inl rfl
  previous := fun _ none => absurd none (Option.not_mem_none _)
  permitted := by
    intro entry member isAvailable
    obtain ⟨old, _, rfl⟩ := List.mem_map.1 member
    exact available old isAvailable

theorem History.Reached.next : Reached factories (history.call .nextSynchronizer) where
  inRange := reached.inRange.nextSynchronizer
  factories := reached.factories
  cursor := by
    have index := nextSynchronizer_index history.manager
    show history.manager.nextSynchronizer.2.synchronizerIndex =
        (history.manager.nextSynchronizer.1.or history.previous).getD (-1) ∨
      history.manager.nextSynchronizer.1.or history.previous = none ∧
        history.manager.nextSynchronizer.2.synchronizerIndex + 1 = history.manager.synchronizers.length
    rw [index]
    cases history.manager.nextSynchronizer.1 with
    | some found => exact .inl rfl
    | none =>
      rw [Option.getD_none, Option.none_or]
      obtain ⟨lower, upper⟩ := reached.inRange
      split
      · exact reached.cursor
      · rw [Int.add_emod_right]
        by_cases started : 0 ≤ history.manager.synchronizerIndex
        · rw [Int.emod_eq_of_lt started upper]
          exact reached.cursor
        · -- the search began before the first position, and ends at the last one
          have unmoved : history.manager.synchronizerIndex = -1 := by omega
          have none : history.previous = none := by
            cases previous : history.previous with
            | none => rfl
            | some position =>
              have nonneg := reached.previous position previous
              have cursor := reached.cursor
              rw [previous, Option.getD_some] at cursor
              simp only [reduceCtorEq, false_and, or_false] at cursor
              omega
          refine .inr ⟨none, ?_⟩
          rw [unmoved, ← Int.add_emod_right, Int.emod_eq_of_lt (by omega) (by omega)]
          omega
  previous := by
    intro position member
    obtain next | ⟨_, previous⟩ := Option.or_eq_some_iff.1 member
    · exact nonneg_of_mem_available (mem_available_of_next reached.inRange next)
    · exact reached.previous position previous
  permitted := reached.permitted

theorem History.Reached.block : Reached factories (history.call .blockCurrentSynchronizer) := by
  have blocked : (history.call .blockCurrentSynchronizer).manager = history.manager.blockCurrentSynchronizer := rfl
  unfold blockCurrentSynchronizer at blocked
  split at blocked
  · refine ⟨?_, ?_, ?_, reached.previous, ?_⟩
    · rw [blocked, InRange, List.length_modify]
      exact reached.inRange
    · rw [blocked, ← reached.factories]
      apply List.ext_getElem?
      intro position
      simp only [List.getElem?_map, List.getElem?_modify]
      cases history.manager.synchronizers[position]? with
      | none => rfl
      | some entry => by_cases here : history.manager.currentFactoryIndex.toNat = position <;> simp [here]
    · rw [blocked, List.length_modify]
      exact reached.cursor
    · intro entry member available
      rw [blocked] at member
      obtain ⟨position, found⟩ := List.mem_iff_getElem?.1 member
      rw [List.getElem?_modify] at found
      obtain ⟨old, here, rfl⟩ := Option.map_eq_some_iff.1 found
      split at available
      · cases available
      · rename_i other
        rw [if_neg other]
        exact reached.permitted old (List.mem_of_getElem? here) available
  · have same : history.call .blockCurrentSynchronizer = history := by
      cases history
      exact congrArg (fun manager => History.mk manager _ _) blocked
    rw [same]
    exact reached

theorem History.Reached.call (call : Call) : Reached factories (history.call call) := by
  cases call with
  | nextSynchronizer => exact reached.next
  | blockCurrentSynchronizer => exact reached.block
  | resetSourceIndex =>
    exact ⟨⟨le_refl _, show (-1 : Int) < _ by omega⟩, reached.factories, .inl rfl,
      fun _ none => absurd none (Option.not_mem_none _), reached.permitted⟩
  | switchToFDv1Fallback =>
    apply reached.switch true
    intro entry available
    cases kind : entry.isFdv1Fallback with
    | true => rfl
    | false => simp [kind] at available
  | switchBackToFDv2 =>
    apply reached.switch false
    intro entry available
    cases kind : entry.isFdv1Fallback with
    | true => simp [kind] at available
    | false => rfl

end

theorem History.reached_after (factories : List Bool) (calls : List Call) :
    Reached factories (after factories calls) := by
  induction calls using List.reverseRecOn with
  | nil => exact reached_start factories
  | append_singleton calls call ih =>
    rw [after, List.foldl_append]
    exact ih.call call

theorem History.Reached.round_eq (reached : Reached factories history) :
    round history.manager.synchronizerIndex history.manager.available =
      round (history.previous.getD (-1)) history.manager.available := by
  obtain same | ⟨none, last⟩ := reached.cursor
  · rw [same]
  · rw [none, Option.getD_none, round_of_le, round_of_lt]
    · intro position member
      have nonneg := nonneg_of_mem_available member
      omega
    · intro position member
      have bounds := mem_positions.1 (List.mem_filter.1 member).1
      omega

end

structure History.Rotates (factories : List Bool) (history : History) : Prop where
  /-- A synchronizer is built whenever one is available. -/
  built_iff : history.manager.nextSynchronizer.1.isSome = true ↔
    ∃ entry ∈ history.manager.synchronizers, entry.state = .available
  /-- It is the next available one of the round from the position built last. -/
  next : history.manager.nextSynchronizer.1 =
    (round (history.previous.getD (-1)) history.manager.available).head?
  /-- As many calls as there are available ones build one after another of the round. -/
  inTurn : history.manager.builds history.manager.availableSynchronizerCount =
    (round (history.previous.getD (-1)) history.manager.available).map some
  once : ∀ position ∈ history.manager.available,
    (history.manager.builds history.manager.availableSynchronizerCount).count (some position) = 1
  /-- After a reset, the first available one is built, and is prime. -/
  reset : ∀ reset : Call, reset.resets = true →
    (history.manager.call reset).nextSynchronizer.1 = (history.manager.call reset).available.head? ∧
      ((history.manager.call reset).nextSynchronizer.1.isSome = true →
        (history.manager.call reset).nextSynchronizer.2.isPrimeSynchronizer = true)
  /-- A fallback is built between a switch to it and the switch back, and only then. -/
  permitted : ∀ found ∈ history.manager.nextSynchronizer.1, factories[found.toNat]? = some history.fallback

section
variable {factories : List Bool} {history : History} {manager}

theorem isSome_nextSynchronizer (inRange : manager.InRange) :
    manager.nextSynchronizer.1.isSome = true ↔ ∃ entry ∈ manager.synchronizers, entry.state = .available := by
  rw [nextSynchronizer_fst inRange, List.isSome_head?, ← List.length_pos_iff, (perm_round _ _).length_eq,
    length_available, availableSynchronizerCount, List.countP_pos_iff]
  simp

theorem first_after_reset (index : manager.synchronizerIndex = -1) :
    manager.nextSynchronizer.1 = manager.available.head? ∧
      (manager.nextSynchronizer.1.isSome = true → manager.nextSynchronizer.2.isPrimeSynchronizer = true) := by
  have inRange : manager.InRange := by
    rw [InRange, index]
    omega
  have first : manager.nextSynchronizer.1 = manager.available.head? := by
    rw [nextSynchronizer_fst inRange, round_of_lt]
    intro position member
    have nonneg := nonneg_of_mem_available member
    omega
  refine ⟨first, fun built => ?_⟩
  obtain ⟨found, next⟩ := Option.isSome_iff_exists.1 built
  refine isPrimeSynchronizer_of_head (?_ : _ = some found) ?_
  · rw [available_nextSynchronizer, ← first, next]
  · rw [nextSynchronizer_index, next, Option.getD_some]

theorem synchronizerIndex_call_of_resets {reset : Call} (resets : reset.resets = true) :
    (manager.call reset).synchronizerIndex = -1 := by
  cases reset with
  | nextSynchronizer | blockCurrentSynchronizer => cases resets
  | resetSourceIndex | switchToFDv1Fallback | switchBackToFDv2 => rfl

theorem History.Reached.factory_of_next (reached : Reached factories history)
    (next : history.manager.nextSynchronizer.1 = some found) : factories[found.toNat]? = some history.fallback := by
  have member := mem_available_of_next reached.inRange next
  obtain ⟨inside, isAvailable⟩ := List.mem_filter.1 member
  have nonneg := (mem_positions.1 inside).1
  rw [availableAt, entryAt, if_pos nonneg, Option.any_eq_true] at isAvailable
  obtain ⟨entry, here, state⟩ := isAvailable
  rw [← reached.factories, List.getElem?_map, here, Option.map_some,
    reached.permitted entry (List.mem_of_getElem? here) (of_decide_eq_true state)]

/-- Whatever the factories are and whatever was called, the manager goes round the available synchronizers. -/
theorem rotates_after (factories : List Bool) (calls : List Call) :
    (History.after factories calls).Rotates factories := by
  have reached := History.reached_after factories calls
  generalize History.after factories calls = history at reached
  have inTurn : history.manager.builds history.manager.availableSynchronizerCount =
      (round (history.previous.getD (-1)) history.manager.available).map some := by
    rw [← length_available, builds_eq_take reached.inRange (le_refl _), reached.round_eq]
    congr 1
    exact List.take_of_length_le (perm_round _ _).length_eq.le
  constructor
  · exact isSome_nextSynchronizer reached.inRange
  · rw [nextSynchronizer_fst reached.inRange, reached.round_eq]
  · exact inTurn
  · intro position member
    have distinct : (round (history.previous.getD (-1)) history.manager.available).Nodup :=
      (perm_round _ _).nodup_iff.2 ((pairwise_available history.manager).imp ne_of_lt)
    rw [inTurn, List.count_map_of_injective _ _ (Option.some_injective _)]
    exact List.count_eq_one_of_mem distinct ((perm_round _ _).mem_iff.2 member)
  · intro reset resets
    exact first_after_reset (synchronizerIndex_call_of_resets resets)
  · intro found next
    exact reached.factory_of_next next

end

end FlagSdk.Fdv2.SourceManager
