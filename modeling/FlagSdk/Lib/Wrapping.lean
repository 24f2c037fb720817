import Mathlib.Algebra.Ring.Int.Defs
import Mathlib.Tactic.Common

/-! Signed 64-bit integers that wrap. An integer is a number of whole turns through the range and an offset
in it; the machine keeps the offset only. Clocks count nanoseconds in them, also for durations in longer units. -/

namespace FlagSdk.Lib.Wrapping

/-- How many times the range was passed. -/
def turn (value : ℤ) : ℤ := (value + 2 ^ 63) / 2 ^ 64

/-- Where in the range the value is, from its lower end. -/
def offset (value : ℤ) : ℤ := (value + 2 ^ 63) % 2 ^ 64

variable (value : ℤ)

theorem eq_turn_offset : value = 2 ^ 64 * turn value + offset value - 2 ^ 63 := by
  unfold turn offset
  omega

theorem offset_range : 0 ≤ offset value ∧ offset value < 2 ^ 64 := by
  unfold offset
  omega

theorem toInt_ofInt_eq : (Int64.ofInt value).toInt = offset value - 2 ^ 63 := by
  have size : Int64.size = 2 ^ 64 := rfl
  rw [Int64.toInt_ofInt, size, offset, Int.bmod]
  split_ifs <;> omega

theorem toInt_ofInt_iff : (Int64.ofInt value).toInt = value ↔ -2 ^ 63 ≤ value ∧ value < 2 ^ 63 := by
  rw [toInt_ofInt_eq]
  unfold offset
  omega

theorem ofInt_lt_iff (first second : ℤ) : Int64.ofInt first < Int64.ofInt second ↔ offset first < offset second := by
  rw [Int64.lt_iff_toInt_lt, toInt_ofInt_eq, toInt_ofInt_eq]
  omega

/-- The order of two values is kept when they are in one turn, or their offsets are ordered as their turns are. -/
theorem order_kept_iff (first second : ℤ) :
    ((Int64.ofInt first < Int64.ofInt second ↔ first < second) ∧
      (Int64.ofInt second < Int64.ofInt first ↔ second < first)) ↔
    turn first = turn second ∨ (turn first < turn second ∧ offset first < offset second) ∨
      (turn second < turn first ∧ offset second < offset first) := by
  rw [ofInt_lt_iff, ofInt_lt_iff]
  have value := eq_turn_offset first
  have other := eq_turn_offset second
  have range := offset_range first
  have otherRange := offset_range second
  omega

def millisecond : Int64 := 1000000

def second : Int64 := 1000000000

/-- A duration in a longer unit, as a clock counts it. -/
def nanoseconds (unit count : Int64) : Int64 := count * unit

theorem nanoseconds_eq (unit count : Int64) : nanoseconds unit count = Int64.ofInt (count.toInt * unit.toInt) := by
  rw [Int64.ofInt_mul, Int64.ofInt_toInt, Int64.ofInt_toInt]
  rfl

theorem add_nanoseconds (start unit count : Int64) :
    start + nanoseconds unit count = Int64.ofInt (start.toInt + count.toInt * unit.toInt) := by
  rw [Int64.ofInt_add, Int64.ofInt_toInt, nanoseconds_eq]

/-- The sum is not before the exact one as long as the clock can count that far. -/
theorem le_toInt_add_nanoseconds {start unit count : Int64} (fits : start.toInt + count.toInt * unit.toInt < 2 ^ 63) :
    start.toInt + count.toInt * unit.toInt ≤ (start + nanoseconds unit count).toInt := by
  rw [add_nanoseconds, toInt_ofInt_eq, offset]
  omega

end FlagSdk.Lib.Wrapping
