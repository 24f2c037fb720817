import Mathlib.Algebra.Order.Field.Rat
import Mathlib.Data.Int.Log
import Mathlib.Data.Rat.Floor
import Mathlib.Tactic.Linarith
import Mathlib.Tactic.NormNum

/-! Rounding to a double. A finite double is the rational it denotes; the magnitudes that occur are
below the largest finite one. -/

namespace FlagSdk.Lib

variable (value : ℚ)

/-- The nearest integer, and the even one of two that are equally near. -/
def roundEven : ℤ :=
  let below := ⌊value⌋
  let excess := value - below
  if excess < 1 / 2 then below
  else if 1 / 2 < excess then below + 1
  else if below % 2 = 0 then below
  else below + 1

/-- The double nearest to a rational: 53 significant bits, and no unit below `2 ^ (-1074)`. -/
def toDouble : ℚ :=
  if value = 0 then 0
  else
    let unit : ℚ := 2 ^ max (Int.log 2 |value| - 52) (-1074)
    roundEven (value / unit) * unit

example : toDouble 9007199254740993 = 9007199254740992 := by decide +kernel
example : toDouble (1 / 10) = 3602879701896397 / 36028797018963968 := by decide +kernel

theorem roundEven_le {value : ℚ} {bound : ℤ} (below : value ≤ bound) : roundEven value ≤ bound := by
  have floor : ⌊value⌋ ≤ bound := Int.floor_le_iff.2 (below.trans_lt (by linarith))
  -- The next integer is taken only for a value that is not an integer itself.
  have next : ¬value - ⌊value⌋ < 1 / 2 → ⌊value⌋ + 1 ≤ bound := by
    intro half
    have proper : (⌊value⌋ : ℚ) < bound := by linarith
    exact Int.add_one_le_iff.2 (by exact_mod_cast proper)
  unfold roundEven
  dsimp only
  split_ifs with half
  · exact floor
  · exact next half
  · exact floor
  · exact next half

theorem le_roundEven {value : ℚ} {bound : ℤ} (above : bound ≤ value) : bound ≤ roundEven value := by
  have floor : bound ≤ ⌊value⌋ := Int.le_floor.2 above
  unfold roundEven
  dsimp only
  split_ifs <;> omega

/-- The exponent of the unit in the last place. -/
def lastPlace : ℤ := max (Int.log 2 |value| - 52) (-1074)

/-- A double that is not negative: fewer than 54 bits before an exponent. -/
def IsDouble : Prop := ∃ (mantissa : ℕ) (exponent : ℤ), mantissa < 2 ^ 53 ∧ -1074 ≤ exponent ∧
  value = mantissa * 2 ^ exponent

variable {value bound : ℚ}

theorem toDouble_eq (positive : 0 < value) :
    toDouble value = roundEven (value / 2 ^ lastPlace value) * 2 ^ lastPlace value := if_neg positive.ne'

theorem two_zpow_log_le (positive : 0 < value) : 2 ^ Int.log 2 |value| ≤ value := by
  simpa [abs_of_pos positive] using Int.zpow_log_le_self one_lt_two positive

theorem IsDouble.lt {mantissa : ℕ} {exponent : ℤ} (small : mantissa < 2 ^ 53) :
    (mantissa * 2 ^ exponent : ℚ) < 2 ^ (53 + exponent) := by
  rw [zpow_add₀ two_ne_zero]
  have cast : (mantissa : ℚ) < 2 ^ (53 : ℤ) := by exact_mod_cast small
  exact mul_lt_mul_of_pos_right cast (zpow_pos two_pos _)

theorem quotient_eq {mantissa : ℕ} {exponent place : ℤ} (within : place ≤ exponent) :
    (mantissa * 2 ^ exponent : ℚ) / 2 ^ place = ((mantissa * 2 ^ (exponent - place).toNat : ℤ) : ℚ) := by
  have shift : 0 ≤ exponent - place := by omega
  rw [mul_div_assoc, ← zpow_sub₀ two_ne_zero, Int.cast_mul, Int.cast_pow, ← zpow_natCast, Int.toNat_of_nonneg shift]
  norm_num

@[simp] theorem toDouble_zero : toDouble 0 = 0 := if_pos rfl

/-- Rounding does not pass a double. -/
theorem toDouble_le (least : 0 ≤ value) (below : value ≤ bound) (double : IsDouble bound) :
    toDouble value ≤ bound := by
  obtain rfl | positive := least.eq_or_lt
  · exact toDouble_zero.trans_le below
  · obtain ⟨mantissa, exponent, small, normal, rfl⟩ := double
    have within : lastPlace value ≤ exponent := by
      have power := (two_zpow_log_le positive).trans_lt (below.trans_lt (IsDouble.lt small))
      have order := (zpow_lt_zpow_iff_right₀ one_lt_two).1 power
      exact max_le (by omega) normal
    have unit : (0 : ℚ) < 2 ^ lastPlace value := zpow_pos two_pos _
    rw [toDouble_eq positive, ← le_div_iff₀ unit, quotient_eq within, Int.cast_le]
    apply roundEven_le
    rw [← quotient_eq within]
    exact div_le_div_of_nonneg_right below unit.le

theorem le_toDouble (positive : 0 < value) (above : bound ≤ value) (double : IsDouble bound) :
    bound ≤ toDouble value := by
  obtain ⟨mantissa, exponent, small, normal, rfl⟩ := double
  have unit : (0 : ℚ) < 2 ^ lastPlace value := zpow_pos two_pos _
  rw [toDouble_eq positive, ← div_le_iff₀ unit]
  rcases le_or_gt (lastPlace value) exponent with within | beyond
  · rw [quotient_eq within, Int.cast_le]
    apply le_roundEven
    rw [← quotient_eq within]
    exact div_le_div_of_nonneg_right above unit.le
  · -- The bound has smaller places, and is below the power of two that the value is not below.
    have place : lastPlace value = Int.log 2 |value| - 52 := by
      unfold lastPlace at beyond ⊢
      omega
    have power : (2 ^ 52 : ℤ) ≤ roundEven (value / 2 ^ lastPlace value) := by
      apply le_roundEven
      rw [le_div_iff₀ unit, place]
      calc ((2 ^ 52 : ℤ) : ℚ) * 2 ^ (Int.log 2 |value| - 52) = 2 ^ Int.log 2 |value| := by
            rw [zpow_sub₀ two_ne_zero]
            norm_num
            field_simp
        _ ≤ value := two_zpow_log_le positive
    rw [div_le_iff₀ unit]
    calc (mantissa * 2 ^ exponent : ℚ) ≤ 2 ^ (53 + exponent) := (IsDouble.lt small).le
      _ ≤ 2 ^ (52 + lastPlace value) := zpow_le_zpow_right₀ one_le_two (by omega)
      _ = ((2 ^ 52 : ℤ) : ℚ) * 2 ^ lastPlace value := by
        rw [zpow_add₀ two_ne_zero]
        norm_num
      _ ≤ _ := mul_le_mul_of_nonneg_right (Int.cast_le.2 power) unit.le

theorem IsDouble.toDouble_eq (double : IsDouble value) (positive : 0 < value) : toDouble value = value :=
  le_antisymm (toDouble_le positive.le le_rfl double) (le_toDouble positive le_rfl double)

theorem isDouble_two_zpow {exponent : ℤ} (normal : -1074 ≤ exponent) : IsDouble (2 ^ exponent) :=
  ⟨1, exponent, by decide, normal, by simp⟩

theorem toDouble_nonneg (least : 0 ≤ value) : 0 ≤ toDouble value := by
  obtain rfl | positive := least.eq_or_lt
  · exact toDouble_zero.ge
  · exact le_toDouble positive positive.le ⟨0, 0, by decide, by decide, by simp⟩

section Natural
variable {number : ℕ}

theorem isDouble_natCast (small : number < 2 ^ 53) : IsDouble number := ⟨number, 0, small, by decide, by simp⟩

theorem lastPlace_natCast (number : ℕ) : lastPlace number = Nat.log 2 number - 52 := by
  rw [lastPlace, Nat.abs_cast, Int.log_natCast]
  omega

theorem toDouble_natCast (positive : 0 < number) : ∃ mantissa : ℕ, mantissa ≤ 2 ^ 53 ∧
    toDouble number = mantissa * 2 ^ (Nat.log 2 number - 52 : ℤ) := by
  have cast : (0 : ℚ) < number := Nat.cast_pos.2 positive
  have unit : (0 : ℚ) < 2 ^ lastPlace number := zpow_pos two_pos _
  have most : roundEven (number / 2 ^ lastPlace number) ≤ 2 ^ 53 := by
    apply roundEven_le
    rw [div_le_iff₀ unit, lastPlace_natCast]
    calc (number : ℚ) ≤ 2 ^ (Nat.log 2 number + 1) := by exact_mod_cast (Nat.lt_pow_succ_log_self one_lt_two _).le
      _ = ((2 ^ 53 : ℤ) : ℚ) * 2 ^ (Nat.log 2 number - 52 : ℤ) := by
        rw [zpow_sub₀ two_ne_zero, zpow_natCast, pow_succ]
        norm_num
        ring
  have least : 0 ≤ roundEven (number / 2 ^ lastPlace number) := le_roundEven (by positivity)
  refine ⟨(roundEven (number / 2 ^ lastPlace number)).toNat, by omega, ?_⟩
  rw [toDouble_eq cast, ← lastPlace_natCast, ← Int.cast_natCast (Int.toNat _), Int.toNat_of_nonneg least]

/-- The double nearest to a number stays one when its exponent changes. -/
theorem isDouble_toDouble_mul (positive : 0 < number) (shift : ℤ) (normal : -1022 ≤ shift) :
    IsDouble (toDouble number * 2 ^ shift) := by
  obtain ⟨mantissa, most, known⟩ := toDouble_natCast positive
  have shifted : toDouble number * 2 ^ shift = mantissa * 2 ^ (Nat.log 2 number - 52 + shift : ℤ) := by
    rw [known, mul_assoc, ← zpow_add₀ two_ne_zero]
  rcases most.lt_or_eq with small | rfl
  · exact ⟨mantissa, _, small, by omega, shifted⟩
  · refine ⟨2 ^ 52, Nat.log 2 number - 52 + shift + 1, by decide, by omega, shifted.trans ?_⟩
    rw [zpow_add_one₀ two_ne_zero]
    push_cast
    ring

/-- A number that is not a double has more than 53 bits, and is rounded to an even one. -/
theorem toDouble_natCast_eq_or_even (positive : 0 < number) :
    ∃ rounded : ℕ, toDouble number = rounded ∧ (rounded = number ∨ 2 ∣ rounded) := by
  rcases lt_or_ge number (2 ^ 53) with small | large
  · exact ⟨number, (isDouble_natCast small).toDouble_eq (Nat.cast_pos.2 positive), .inl rfl⟩
  · obtain ⟨mantissa, -, known⟩ := toDouble_natCast positive
    have digits : 53 ≤ Nat.log 2 number := Nat.le_log_of_pow_le one_lt_two large
    refine ⟨mantissa * 2 ^ (Nat.log 2 number - 52), ?_, .inr ?_⟩
    · rw [known, Nat.cast_mul, Nat.cast_pow, ← zpow_natCast, Nat.cast_sub (by omega)]
      norm_num
    · exact (dvd_pow_self 2 (by omega)).mul_left _

end Natural

end FlagSdk.Lib
