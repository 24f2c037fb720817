import FlagSdk.Lib.Double
import FlagSdk.Sse.FoxyClient
import Mathlib.Algebra.Order.Floor.Semifield
import Mathlib.Data.Nat.Log

/-! How long a client waits before it connects again. The exponent is bounded through a quotient of integers, which
can stop the growth short of the largest delay, and the jitter is computed with doubles. -/

namespace FlagSdk.Sse.Backoff
open FlagSdk.Lib

theorem activeSince_fail (backoff : Backoff) (now : Nat) : (backoff.fail now).activeSince = none := by
  unfold fail
  split
  · split <;> rfl
  · rfl

theorem fail_of_inactive {backoff : Backoff} (inactive : backoff.activeSince = none) (now : Nat) :
    backoff.fail now = { attempt := backoff.attempt + 1 } := by
  rw [fail, inactive]

theorem attempt_fail {attempt since now : Nat} :
    (fail { attempt, activeSince := some since } now).attempt =
      if (now - since) / 1000000 > resetInterval then 1 else attempt + 1 := by
  simp only [fail]
  split <;> rfl

inductive Report where
  | succeed (now : Nat)
  | fail (now : Nat)

def after : List Report → Backoff
  | [] => {}
  | .succeed now :: earlier => (after earlier).succeed now
  | .fail now :: earlier => (after earlier).fail now

/-- How long ago a success was reported, if that is the latest report. -/
def age (now : Nat) : List Report → Nat
  | .succeed since :: _ => now - since
  | _ => 0

def isOld (age : Nat) : Bool := resetInterval * 1000000 < age

def countsAsOld (age : Nat) : Bool := resetInterval < age / 1000000

/-- The failures since the last one that followed a success older than the interval. -/
def failuresSince : List Report → Nat
  | [] => 0
  | .succeed _ :: earlier => failuresSince earlier
  | .fail now :: earlier => if isOld (age now earlier) then 0 else failuresSince earlier + 1

/-- Since the last success that counted as old, none was older than the interval by a part of a millisecond. -/
def InWholeMilliseconds : List Report → Prop
  | [] => True
  | .succeed _ :: earlier => InWholeMilliseconds earlier
  | .fail now :: earlier =>
    countsAsOld (age now earlier) = true ∨ isOld (age now earlier) = false ∧ InWholeMilliseconds earlier

theorem isOld_of_countsAsOld {age : Nat} (counts : countsAsOld age = true) : isOld age = true := by
  have whole : resetInterval < age / 1000000 := of_decide_eq_true counts
  exact decide_eq_true ((Nat.mul_lt_mul_of_pos_right whole (by decide)).trans_le (Nat.div_mul_le_self age 1000000))

theorem attempt_after_fail (now : Nat) (earlier : List Report) : (after (.fail now :: earlier)).attempt =
    if countsAsOld (age now earlier) then 1 else (after earlier).attempt + 1 := by
  cases earlier with
  | nil => simp [after, fail, age, countsAsOld]
  | cons report earlier =>
    cases report with
    | fail before =>
      have inactive := activeSince_fail (after earlier) before
      simp [after, fail_of_inactive inactive, age, countsAsOld]
    | succeed since =>
      exact attempt_fail.trans (if_congr decide_eq_true_iff.symm rfl rfl)

theorem attempt_after_iff (reports : List Report) :
    1 ≤ (after reports).attempt ∧
      ((after reports).attempt = 1 + failuresSince reports ↔ InWholeMilliseconds reports) := by
  induction reports with
  | nil => exact ⟨le_rfl, iff_of_true rfl trivial⟩
  | cons report earlier ih =>
    cases report with
    | succeed now => exact ih
    | fail now =>
      rw [attempt_after_fail, failuresSince, InWholeMilliseconds]
      cases long : countsAsOld (age now earlier) with
      | true =>
        rw [isOld_of_countsAsOld long]
        exact ⟨le_rfl, iff_of_true rfl (.inl rfl)⟩
      | false =>
        refine ⟨Nat.succ_pos _, ?_⟩
        cases old : isOld (age now earlier) with
        | true =>
          refine iff_of_false (fun same => ?_) (by simp)
          exact absurd (Nat.succ.inj same) (Nat.ne_of_gt ih.1)
        | false =>
          simp only [Bool.false_eq_true, if_false, false_or, true_and, ← ih.2]
          omega

/-- The product is unsigned, and the delay is signed. -/
def calculateBackoff (initial attempt maxExponent : Nat) : Int :=
  Int.bmod (initial * 2 ^ min (attempt - 1) maxExponent : Nat) (2 ^ 64)

/-- The product and the difference are rounded, and the unsigned number becomes a signed one. No result stands for
undefined behavior: there is no such unsigned number. -/
def jitter (base : Int) (fraction : ℚ) : Option Int :=
  let baseAsDouble := toDouble base
  let jitteredBase := toDouble (baseAsDouble - toDouble (fraction * baseAsDouble))
  if jitteredBase ≤ -1 ∨ 2 ^ 64 ≤ jitteredBase then none else some (Int.bmod ⌊jitteredBase⌋₊ (2 ^ 64))

/-- At most half of the delay is taken away. -/
def Halves (base : Int) : Prop :=
  ∀ fraction : ℚ, 0 ≤ fraction → fraction ≤ 1 / 2 →
    ∃ delay, jitter base fraction = some delay ∧ base / 2 ≤ delay ∧ delay ≤ base

/-- As a double the delay is not larger, and smaller by one at most. -/
def Rounded (base : Nat) : Prop := (base : ℚ) - 1 ≤ toDouble base ∧ toDouble base ≤ base

section Rounding
variable {base rounded : Nat} {fraction : ℚ}

theorem jitter_eq (known : toDouble base = rounded) {jittered : ℚ}
    (result : toDouble (rounded - toDouble (fraction * rounded)) = jittered) (least : 0 ≤ jittered)
    (most : jittered < 2 ^ 64) : jitter base fraction = some (Int.bmod ⌊jittered⌋₊ (2 ^ 64)) := by
  have defined : ¬(jittered ≤ -1 ∨ 2 ^ 64 ≤ jittered) := not_or.2 ⟨by linarith, not_le.2 most⟩
  simp only [jitter, Int.cast_natCast, known, result, if_neg defined]

theorem jitter_zero (known : toDouble base = rounded) (double : toDouble (rounded : ℚ) = rounded)
    (most : rounded < 2 ^ 64) : jitter base 0 = some (Int.bmod rounded (2 ^ 64)) := by
  have result : toDouble (rounded - toDouble (0 * rounded)) = rounded := by
    rw [zero_mul, toDouble_zero, sub_zero, double]
  rw [jitter_eq known result (Nat.cast_nonneg _) (by exact_mod_cast most), Nat.floor_natCast]

theorem jitter_half (known : toDouble base = rounded) (double : toDouble (rounded / 2 : ℚ) = rounded / 2)
    (most : rounded < 2 ^ 64) : jitter base (1 / 2) = some (Int.bmod (rounded / 2 : Nat) (2 ^ 64)) := by
  have product : (1 / 2 * rounded : ℚ) = rounded / 2 := by ring
  have result : toDouble (rounded - toDouble (1 / 2 * rounded)) = (rounded / 2 : ℚ) := by
    rw [product, double, sub_half, double]
  have bound : (rounded : ℚ) < 2 ^ 64 := by exact_mod_cast most
  rw [jitter_eq known result (by positivity) (by linarith), Nat.floor_div_ofNat, Nat.floor_natCast]

theorem jitteredBase_bounds (positive : 0 < rounded) (half : IsDouble (rounded / 2)) (whole : IsDouble rounded)
    (least : 0 ≤ fraction) (most : fraction ≤ 1 / 2) :
    (rounded / 2 : ℚ) ≤ toDouble (rounded - toDouble (fraction * rounded)) ∧
      toDouble (rounded - toDouble (fraction * rounded)) ≤ rounded := by
  have cast : (0 : ℚ) < rounded := Nat.cast_pos.2 positive
  have share : 0 ≤ fraction * rounded := mul_nonneg least cast.le
  have taken : toDouble (fraction * rounded) ≤ rounded / 2 := toDouble_le share (by nlinarith) half
  have kept : 0 ≤ toDouble (fraction * rounded) := toDouble_nonneg share
  exact ⟨le_toDouble (by linarith) (by linarith) half, toDouble_le (by linarith) (by linarith) whole⟩

theorem halves_iff (positive : 0 < base) (bounded : base < 2 ^ 63) : Halves base ↔ Rounded base := by
  obtain ⟨rounded, known, even⟩ := toDouble_natCast_eq_or_even positive
  have cast : (0 : ℚ) < base := Nat.cast_pos.2 positive
  have least : 0 < rounded := by
    have one : ((1 : Nat) : ℚ) ≤ toDouble base :=
      le_toDouble cast (by exact_mod_cast positive) (isDouble_natCast (by decide))
    exact_mod_cast known ▸ one
  have most : rounded ≤ 2 ^ 63 := by
    have power : toDouble base ≤ 2 ^ (63 : ℤ) :=
      toDouble_le cast.le (by exact_mod_cast bounded.le) (isDouble_two_zpow (by decide))
    rw [known] at power
    exact_mod_cast power
  have whole : IsDouble rounded := by simpa [known] using isDouble_toDouble_mul positive 0 (by decide)
  have half : IsDouble (rounded / 2) := by
    simpa [known, div_eq_mul_inv] using isDouble_toDouble_mul positive (-1) (by decide)
  have exact : Rounded base ↔ rounded ≤ base ∧ base ≤ rounded + 1 := by
    rw [Rounded, known, sub_le_iff_le_add]
    exact_mod_cast and_comm
  rw [exact]
  constructor
  · intro halves
    obtain ⟨delay, same, low, high⟩ := halves 0 le_rfl (by norm_num)
    obtain ⟨shorter, same', low', -⟩ := halves (1 / 2) (by norm_num) le_rfl
    rw [jitter_zero known (whole.toDouble_eq (by exact_mod_cast least)) (by omega), Option.some_inj] at same
    rw [jitter_half known (half.toDouble_eq (by positivity)) (by omega), Option.some_inj,
      Int.bmod_eq_of_le (by omega) (by omega)] at same'
    subst same same'
    -- The unsigned number is at most the first one that becomes negative.
    rw [Int.bmod] at low high
    omega
  · rintro ⟨above, below⟩ fraction low high
    obtain ⟨lower, upper⟩ := jitteredBase_bounds least half whole low high
    have range : (rounded : ℚ) < 2 ^ 64 := by exact_mod_cast (show rounded < 2 ^ 64 by omega)
    have nonneg : (0 : ℚ) ≤ rounded / 2 := by positivity
    have floor := Nat.floor_mono lower
    have ceiling := Nat.floor_mono upper
    rw [Nat.floor_div_ofNat, Nat.floor_natCast] at floor
    rw [Nat.floor_natCast] at ceiling
    refine ⟨_, jitter_eq known rfl (nonneg.trans lower) (upper.trans_lt range), ?_⟩
    rw [Int.bmod_eq_of_le (by omega) (by omega)]
    omega
end Rounding

/-- In milliseconds, as signed numbers of 64 bits. -/
structure Delays where
  initial : Nat
  max : Nat
  positive : 1 ≤ initial
  ordered : initial ≤ max
  bounded : max < 2 ^ 63

namespace Delays
variable (delays : Delays)

def maxExponent : Nat := Nat.clog 2 (delays.max / Nat.max 1 delays.initial)

def constrainedBackoff (attempt : Nat) : Int :=
  min (calculateBackoff delays.initial attempt delays.maxExponent) delays.max

theorem largest_lt : delays.initial * 2 ^ delays.maxExponent < 2 ^ 64 := by
  obtain ⟨initial, max, positive, ordered, bounded⟩ := delays
  have quotient := Nat.mul_div_le max initial
  simp only [maxExponent, Nat.max_eq_right positive]
  cases known : Nat.clog 2 (max / initial) with
  | zero => omega
  | succ smaller =>
    have below : 2 ^ smaller < max / initial := Nat.pow_lt_of_lt_clog (by omega)
    have halves := Nat.mul_le_mul_left initial below.le
    rw [pow_succ, ← mul_assoc]
    omega

/-- Twice as long after each failure, up to the largest delay. -/
def expected (failures : Nat) : Nat := min delays.max (delays.initial * 2 ^ failures)

/-- The delay before the jitter doubles with each failure up to the largest one, and the jitter takes half of it
away at most. -/
def Grows (failures : Nat) : Prop :=
  let base := delays.constrainedBackoff (failures + 1)
  base = (delays.expected failures : Nat) ∧ 0 < base ∧ base ≤ delays.max ∧ Halves base

variable {delays} {failures : Nat}

theorem grows_iff : delays.Grows failures ↔
    (delays.initial * 2 ^ min failures delays.maxExponent < 2 ^ 63 ∧
      (failures ≤ delays.maxExponent ∨ delays.max ≤ delays.initial * 2 ^ delays.maxExponent)) ∧
      Rounded (delays.expected failures) := by
  have powers {less more : Nat} (within : less ≤ more) : delays.initial * 2 ^ less ≤ delays.initial * 2 ^ more :=
    Nat.mul_le_mul_left _ (Nat.pow_le_pow_right two_pos within)
  have positive : 0 < delays.initial * 2 ^ min failures delays.maxExponent :=
    Nat.mul_pos delays.positive (Nat.pow_pos two_pos)
  have below := (powers (min_le_right failures delays.maxExponent)).trans_lt delays.largest_lt
  have ordered := delays.positive.trans delays.ordered
  have bounded := delays.bounded
  unfold Grows constrainedBackoff calculateBackoff
  rw [Nat.add_sub_cancel]
  by_cases fits : delays.initial * 2 ^ min failures delays.maxExponent < 2 ^ 63
  · rw [Int.bmod_eq_of_le (by omega) (by omega), ← Nat.cast_min]
    simp only [Nat.cast_inj, fits, true_and]
    by_cases enough : failures ≤ delays.maxExponent ∨ delays.max ≤ delays.initial * 2 ^ delays.maxExponent
    · have same : min (delays.initial * 2 ^ min failures delays.maxExponent) delays.max = delays.expected failures := by
        unfold expected
        rcases le_total failures delays.maxExponent with within | beyond
        · rw [min_eq_left within, min_comm]
        · have larger := powers beyond
          rw [min_eq_right beyond]
          obtain within | reached := enough
          · rw [le_antisymm within beyond, min_comm]
          · omega
      rw [same, halves_iff (by omega) (by omega)]
      constructor
      · rintro ⟨-, -, -, rounded⟩
        exact ⟨enough, rounded⟩
      · rintro ⟨-, rounded⟩
        exact ⟨rfl, by omega, by omega, rounded⟩
    · refine iff_of_false ?_ fun fine => enough fine.1
      rintro ⟨same, -⟩
      obtain ⟨more, less⟩ := not_or.1 enough
      have doubled := powers (not_le.1 more)
      rw [min_eq_right (not_le.1 more).le] at same positive
      rw [Nat.succ_eq_add_one, pow_succ, ← mul_assoc] at doubled
      unfold expected at same
      omega
  · refine iff_of_false (fun grows => ?_) fun fine => fits fine.1.1
    have negative := grows.2.1
    rw [Int.bmod] at negative
    omega

end Delays

/-- The growth stops short exactly if the bound of the exponent is reached before the largest delay, or if the product
is too large. The jitter takes more than half away or adds to the delay exactly if the delay is not nearly a double.
The attempts are right exactly if no success was older than the interval by a part of a millisecond. -/
theorem backoff_grows_iff (delays : Delays) (failures : Nat) (reports : List Report) :
    (delays.Grows failures ↔
        (delays.initial * 2 ^ min failures delays.maxExponent < 2 ^ 63 ∧
          (failures ≤ delays.maxExponent ∨ delays.max ≤ delays.initial * 2 ^ delays.maxExponent)) ∧
          Rounded (delays.expected failures)) ∧
      ((after reports).attempt = 1 + failuresSince reports ↔ InWholeMilliseconds reports) :=
  ⟨Delays.grows_iff, (attempt_after_iff reports).2⟩

/-- From 2 to at most 3 milliseconds nothing grows, and the largest delay of all becomes negative, by the doubling as by
the rounding. A success that is older than a minute by half a millisecond does not reset the attempts. -/
theorem backoff_stops_short :
    (Delays.mk 2 3 (by decide) (by decide) (by decide)).constrainedBackoff 2 = 2 ∧
      (Delays.mk 1 (2 ^ 63 - 1) (by decide) (by decide) (by decide)).constrainedBackoff 64 = -2 ^ 63 ∧
      jitter (2 ^ 63 - 1) 0 = some (-2 ^ 63) ∧
      (after [.fail 60000500000, .succeed 0]).attempt = 2 ∧ failuresSince [.fail 60000500000, .succeed 0] = 0 :=
  ⟨by decide, by decide, by decide +kernel, by decide, by decide⟩

end FlagSdk.Sse.Backoff
