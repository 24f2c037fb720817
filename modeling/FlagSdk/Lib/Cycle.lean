import Mathlib.Data.Int.Cast.Basic
import Mathlib.Data.List.Rotate
import Mathlib.Order.Lattice

/-! Going round a list of positions. From a cursor, the positions after it come first and then those up to it; who
moves the cursor to the first of them goes on with the second, and meets the first one again at the end. -/

namespace FlagSdk.Lib.Cycle

section
variable {Position : Type*} [LinearOrder Position] {cursor : Position} {positions : List Position}

def round (cursor : Position) (positions : List Position) : List Position :=
  positions.filter (cursor < ·) ++ positions.filter (· ≤ cursor)

theorem filter_of_lt (above : ∀ position ∈ positions, cursor < position) :
    positions.filter (cursor < ·) = positions ∧ positions.filter (· ≤ cursor) = [] := by
  constructor
  · exact List.filter_eq_self.2 fun position member => decide_eq_true (above position member)
  · rw [List.filter_eq_nil_iff]
    intro position member
    simpa using above position member

theorem filter_of_le (behind : ∀ position ∈ positions, position ≤ cursor) :
    positions.filter (cursor < ·) = [] ∧ positions.filter (· ≤ cursor) = positions := by
  constructor
  · rw [List.filter_eq_nil_iff]
    intro position member
    simpa using behind position member
  · exact List.filter_eq_self.2 fun position member => decide_eq_true (behind position member)

theorem round_append {lower higher : List Position} (behind : ∀ position ∈ lower, position ≤ cursor)
    (above : ∀ position ∈ higher, cursor < position) : round cursor (lower ++ higher) = higher ++ lower := by
  rw [round, List.filter_append, List.filter_append, (filter_of_le behind).1, (filter_of_le behind).2,
    (filter_of_lt above).1, (filter_of_lt above).2, List.nil_append, List.append_nil]

theorem round_of_lt (above : ∀ position ∈ positions, cursor < position) : round cursor positions = positions := by
  rw [round, (filter_of_lt above).1, (filter_of_lt above).2, List.append_nil]

theorem round_of_le (behind : ∀ position ∈ positions, position ≤ cursor) : round cursor positions = positions := by
  rw [round, (filter_of_le behind).1, (filter_of_le behind).2, List.nil_append]

theorem perm_round (cursor : Position) (positions : List Position) : (round cursor positions).Perm positions := by
  have parts := List.filter_append_perm (cursor < ·) positions
  have complement : positions.filter (fun position => !decide (cursor < position)) = positions.filter (· ≤ cursor) := by
    apply List.filter_congr
    intro position _
    rw [← decide_not, decide_eq_decide, not_lt]
  rwa [complement] at parts

theorem filter_round (cursor : Position) (positions : List Position) (keep : Position → Bool) :
    (round cursor positions).filter keep = round cursor (positions.filter keep) := by
  rw [round, round, List.filter_append, List.filter_comm, List.filter_comm keep]

theorem filter_le_append_filter_lt (ascending : positions.Pairwise (· < ·)) (cursor : Position) :
    positions.filter (· ≤ cursor) ++ positions.filter (cursor < ·) = positions := by
  induction positions with
  | nil => rfl
  | cons position positions ih =>
    obtain ⟨above, rest⟩ := List.pairwise_cons.1 ascending
    by_cases here : position ≤ cursor
    · simp [here, ih rest]
    · -- everything that follows is above the cursor as well
      have later := filter_of_lt fun other member => (not_le.1 here).trans (above other member)
      simp [here, not_le.1 here, later.1, later.2]

theorem round_of_round_eq_cons (ascending : positions.Pairwise (· < ·)) {found : Position} {others : List Position}
    (next : round cursor positions = found :: others) : round found positions = others ++ [found] := by
  have parts := filter_le_append_filter_lt ascending cursor
  rw [round] at next
  cases high : positions.filter (cursor < ·) with
  | nil =>
    -- nothing is after the cursor, so the round starts from the first position of all
    rw [high, List.nil_append] at next
    rw [high, List.append_nil, next] at parts
    rw [← parts] at ascending ⊢
    show round found ([found] ++ others) = others ++ [found]
    apply round_append
    · simp
    · exact (List.pairwise_cons.1 ascending).1
  | cons first higher =>
    rw [high, List.cons_append] at next
    obtain ⟨rfl, rest⟩ := List.cons.inj next
    rw [high, List.append_cons] at parts
    rw [← parts] at ascending ⊢
    obtain ⟨lower, _, crossing⟩ := List.pairwise_append.1 ascending
    rw [round_append, ← rest, List.append_assoc]
    · intro position member
      obtain member | member := List.mem_append.1 member
      · exact ((List.pairwise_append.1 lower).2.2 position member first List.mem_cons_self).le
      · exact (List.mem_singleton.1 member).le
    · intro position member
      exact crossing first (by simp) position member

end

theorem map_emod_eq_round {length : ℕ} {cursor : ℤ} (lower : -1 ≤ cursor) (upper : cursor < length) :
    ((List.range length).map fun steps : ℕ => (cursor + 1 + steps) % length) =
      round cursor ((List.range length).map Nat.cast) := by
  obtain ⟨start, started⟩ := Int.eq_ofNat_of_zero_le (show 0 ≤ cursor + 1 by omega)
  obtain ⟨rest, rfl⟩ := Nat.exists_eq_add_of_le (show start ≤ length by omega)
  have positions : (List.range (start + rest)).map (Nat.cast : ℕ → ℤ) =
      (List.range start).map Nat.cast ++ (List.range rest).map fun steps : ℕ => (start : ℤ) + steps := by
    rw [List.range_add, List.map_append, List.map_map]
    simp
  have steps : (List.range (start + rest)).map (fun steps : ℕ => (cursor + 1 + steps) % (start + rest : ℕ)) =
      ((List.range rest).map fun steps : ℕ => (start : ℤ) + steps) ++ (List.range start).map Nat.cast := by
    rw [Nat.add_comm start rest, List.range_add, List.map_append, List.map_map]
    congr 1
    · apply List.map_congr_left
      intro steps member
      rw [List.mem_range] at member
      rw [started, Int.emod_eq_of_lt (by omega) (by omega)]
    · apply List.map_congr_left
      intro steps member
      rw [List.mem_range] at member
      have wraps : cursor + 1 + ((rest + steps : ℕ) : ℤ) = steps + (rest + start : ℕ) := by omega
      rw [Function.comp_apply, wraps, Int.add_emod_right, Int.emod_eq_of_lt (by omega) (by omega)]
  rw [steps, positions, round_append]
  · intro position member
    obtain ⟨value, below, rfl⟩ := List.mem_map.1 member
    rw [List.mem_range] at below
    omega
  · intro position member
    obtain ⟨value, _, rfl⟩ := List.mem_map.1 member
    omega

end FlagSdk.Lib.Cycle
