import FlagSdk.Evaluation.Operators
import FlagSdk.Lib.Wrapping

/-! The operators on dates. A time point counts nanoseconds in 64 bits, which reach from 1677 to 2262; a date
outside is taken for one inside, and is compared as that one. -/

namespace FlagSdk.Evaluation
open Lib Data

/-- The instant that a value denotes, in nanoseconds and without a bound: a whole number of milliseconds
that a double can count, or a timestamp, whose seconds and nanoseconds the parser gives. -/
def instant (platform : Platform) (value : Value) : Option ℤ :=
  match value.raw with
  | .number ms => if 0 ≤ ms ∧ ms < 2 ^ 53 ∧ isIntegral ms = true then some (truncate ms * 1000000) else none
  | .string timestamp =>
    if timestamp = "" then none
    else (platform.timestampParse timestamp).map fun (sec, nsec) => sec.toInt * 1000000000 + nsec.toInt
  | _ => none

/-- Both instants are in one turn of the clock, or their order is that of their offsets in it. -/
def OrderSurvives (first second : ℤ) : Prop :=
  Wrapping.turn first = Wrapping.turn second ∨
    (Wrapping.turn first < Wrapping.turn second ∧ Wrapping.offset first < Wrapping.offset second) ∨
    (Wrapping.turn second < Wrapping.turn first ∧ Wrapping.offset second < Wrapping.offset first)

section
variable {platform : Platform}

theorem millisecondsToTimepoint_eq {ms : ℚ} (positive : 0 ≤ ms) (small : ms < 2 ^ 53)
    (integral : isIntegral ms = true) :
    platform.millisecondsToTimepoint ms = some (Int64.ofInt (truncate ms * 1000000)) := by
  have whole : (truncate ms : ℚ) = ms := of_decide_eq_true integral
  have lower : 0 ≤ truncate ms := by
    rw [← whole] at positive
    exact_mod_cast positive
  have upper : truncate ms < 2 ^ 53 := by
    rw [← whole] at small
    exact_mod_cast small
  have cast : platform.asLongLong ms = Int64.ofInt (truncate ms) := by
    unfold Platform.asLongLong
    rw [if_pos ⟨by omega, by omega⟩]
  unfold Platform.millisecondsToTimepoint
  rw [if_neg (not_lt.2 positive), if_pos integral, cast, Int64.ofInt_mul]
  rfl

theorem rfc3339ToTimepoint_eq {timestamp : String} (present : timestamp ≠ "") :
    platform.rfc3339ToTimepoint timestamp =
      (platform.timestampParse timestamp).map fun (sec, nsec) =>
        Int64.ofInt (sec.toInt * 1000000000 + nsec.toInt) := by
  unfold Platform.rfc3339ToTimepoint
  rw [if_neg present]
  congr 1
  funext pair
  obtain ⟨sec, nsec⟩ := pair
  show sec * 1000000000 + nsec = Int64.ofInt (sec.toInt * 1000000000 + nsec.toInt)
  rw [Int64.ofInt_add, Int64.ofInt_mul, Int64.ofInt_toInt, Int64.ofInt_toInt]
  rfl

theorem toTimepoint_eq {value : Value} {time : ℤ} (denotes : instant platform value = some time) :
    platform.toTimepoint value = some (Int64.ofInt time) := by
  unfold instant at denotes
  unfold Platform.toTimepoint
  cases raw : value.raw with
  | number ms =>
    rw [raw] at denotes
    dsimp only at denotes ⊢
    split_ifs at denotes with inDomain
    rw [millisecondsToTimepoint_eq inDomain.1 inDomain.2.1 inDomain.2.2, ← Option.some.inj denotes]
  | string timestamp =>
    rw [raw] at denotes
    dsimp only at denotes ⊢
    split_ifs at denotes with empty
    rw [rfc3339ToTimepoint_eq empty]
    obtain ⟨pair, parsed, rfl⟩ := Option.map_eq_some_iff.1 denotes
    rw [parsed]
    rfl
  | _ =>
    rw [raw] at denotes
    cases denotes

end

/-- Two dates are compared by their instants exactly when their order survives in the turn of the clock. -/
theorem dates_compared_iff (platform : Platform) {contextValue clauseValue : Value} {context clause : ℤ}
    (denotes : instant platform contextValue = some context)
    (alsoDenotes : instant platform clauseValue = some clause) :
    ((Operators.holds platform .before contextValue clauseValue = true ↔ context < clause) ∧
      (Operators.holds platform .after contextValue clauseValue = true ↔ clause < context)) ↔
    OrderSurvives context clause := by
  simp only [Operators.holds, Platform.timeOp, toTimepoint_eq denotes, toTimepoint_eq alsoDenotes,
    decide_eq_true_eq]
  exact Wrapping.order_kept_iff context clause

def secondPlatform : Platform where
  sha1 _ := Vector.replicate 20 0
  regexSearch _ _ := false
  timestampParse timestamp := if timestamp = "1970-01-01T00:00:01.000000001Z" then some (1, 1) else none
  castIntOverflow _ := 0
  castLongLongOverflow _ := 0

theorem dates_compared_in_range :
    Operators.holds secondPlatform .before (.number 1000) (.string "1970-01-01T00:00:01.000000001Z") = true ∧
      Operators.holds secondPlatform .after (.number 1000) (.string "1970-01-01T00:00:01.000000001Z") = false := by
  have denotes : instant secondPlatform (.number 1000) = some 1000000000 := by decide +kernel
  have alsoDenotes : instant secondPlatform (.string "1970-01-01T00:00:01.000000001Z") = some 1000000001 := by
    decide +kernel
  have compared := (dates_compared_iff secondPlatform denotes alsoDenotes).2 (.inl (by decide))
  refine ⟨compared.1.2 (by decide), ?_⟩
  rw [← Bool.not_eq_true, compared.2]
  decide

/-- The last millisecond of the clock and the one after it, in the year 2262. -/
theorem dates_compared_wrong :
    instant secondPlatform (.number 9223372036854) = some 9223372036854000000 ∧
      instant secondPlatform (.number 9223372036855) = some 9223372036855000000 ∧
      Operators.holds secondPlatform .before (.number 9223372036854) (.number 9223372036855) = false ∧
      Operators.holds secondPlatform .after (.number 9223372036854) (.number 9223372036855) = true := by
  refine ⟨?_, ?_, ?_, ?_⟩ <;> decide +kernel

end FlagSdk.Evaluation
