import Mathlib.Data.List.Induction

/-! Decimal texts and their values. A text of digits without a leading zero is the one that its value is
written as, so that two of them with one value are the same. -/

namespace FlagSdk.Lib.Decimal

theorem digitChar_of_isDigit {digit : Char} (isDigit : digit.isDigit = true) :
    digit.toNat - '0'.toNat < 10 ∧ (digit.toNat - '0'.toNat).digitChar = digit := by
  simp only [Char.isDigit, Bool.and_eq_true, decide_eq_true_eq, UInt32.le_iff_toNat_le] at isDigit
  have bounds : 48 ≤ digit.toNat ∧ digit.toNat ≤ 57 := isDigit
  have zero : '0'.toNat = 48 := rfl
  have small : digit.toNat - '0'.toNat < 10 := by omega
  have value := Nat.toNat_digitChar_of_lt_ten small
  refine ⟨small, Char.toNat_inj.1 ?_⟩
  omega

theorem toDigits_ofDigitChars {digits : List Char} (all : ∀ digit ∈ digits, digit.isDigit = true)
    (nonempty : digits ≠ []) (leading : digits.head? ≠ some '0') :
    Nat.toDigits 10 (Nat.ofDigitChars 10 digits 0) = digits ∧ 0 < Nat.ofDigitChars 10 digits 0 := by
  induction digits using List.reverseRecOn with
  | nil => exact absurd rfl nonempty
  | append_singleton digits digit ih =>
    obtain ⟨small, written⟩ := digitChar_of_isDigit (all digit List.mem_concat_self)
    have value : Nat.ofDigitChars 10 (digits ++ [digit]) 0 =
        10 * Nat.ofDigitChars 10 digits 0 + (digit.toNat - '0'.toNat) :=
      Nat.ofDigitChars_append 0
    by_cases single : digits = []
    · subst single
      have only : Nat.ofDigitChars 10 ([] ++ [digit]) 0 = digit.toNat - '0'.toNat := by
        exact Nat.zero_add _
      rw [only, Nat.toDigits_of_lt_base small, written]
      refine ⟨rfl, Nat.pos_of_ne_zero fun zero => leading ?_⟩
      rw [zero] at written
      exact congrArg some written.symm
    · have first : digits.head? ≠ some '0' := by
        intro zero
        exact leading (by rw [List.head?_append, zero, Option.some_or])
      obtain ⟨before, positive⟩ := ih (fun other member => all other (List.mem_append_left _ member)) single first
      rw [value, ← Nat.toDigits_append_toDigits (by decide) positive small, before,
        Nat.toDigits_of_lt_base small, written]
      exact ⟨rfl, by omega⟩

end FlagSdk.Lib.Decimal
