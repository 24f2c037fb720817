import Mathlib.Data.List.Infix

/-! The last occurrence of one list in another. It is at the start only when the list begins the other one and does
not occur in it again. -/

namespace FlagSdk.Lib.Occurrence

variable {α : Type*} [DecidableEq α]

def rfind (needle : List α) : List α → Option ℕ
  | [] => if needle = [] then some 0 else none
  | first :: rest =>
    match rfind needle rest with
    | some position => some (position + 1)
    | none => if needle.isPrefixOf (first :: rest) then some 0 else none

theorem rfind_eq_none_iff {needle text : List α} : rfind needle text = none ↔ ¬needle <:+: text := by
  induction text with
  | nil =>
    rw [rfind, List.infix_nil]
    split_ifs with empty
    · exact iff_of_false id (not_not_intro empty)
    · exact iff_of_true rfl empty
  | cons first rest ih =>
    rw [rfind, List.infix_cons_iff, not_or]
    cases found : rfind needle rest with
    | some position =>
      have occurs : needle <:+: rest := not_not.1 (mt ih.2 (by rw [found]; exact Option.some_ne_none _))
      exact iff_of_false (Option.some_ne_none _) fun neither => neither.2 occurs
    | none =>
      split_ifs with starts
      · exact iff_of_false id fun neither => neither.1 (List.isPrefixOf_iff_prefix.1 starts)
      · exact iff_of_true rfl ⟨mt List.isPrefixOf_iff_prefix.2 starts, ih.1 found⟩

theorem rfind_eq_zero_iff {needle text : List α} (nonempty : needle ≠ []) :
    rfind needle text = some 0 ↔ needle <+: text ∧ ¬needle <:+: text.tail := by
  cases text with
  | nil =>
    rw [rfind, if_neg nonempty]
    exact iff_of_false (Option.some_ne_none 0).symm fun both => nonempty (List.prefix_nil.1 both.1)
  | cons first rest =>
    rw [rfind, List.tail_cons, ← rfind_eq_none_iff]
    cases found : rfind needle rest with
    | some position =>
      refine iff_of_false ?_ fun both => Option.some_ne_none _ both.2
      intro zero
      exact Nat.succ_ne_zero position (Option.some.inj zero)
    | none =>
      split_ifs with starts
      · exact iff_of_true rfl ⟨List.isPrefixOf_iff_prefix.1 starts, rfl⟩
      · exact iff_of_false id fun both => starts (List.isPrefixOf_iff_prefix.2 both.1)

end FlagSdk.Lib.Occurrence
