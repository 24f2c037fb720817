import Mathlib.Data.List.Basic

/-! Lists whose entries are known by their number. An entry is added at the end or changed in place, and keeps its
number. -/

namespace FlagSdk.Lib.Numbered

variable {Entry : Type*} {entries : List Entry} {number : Nat} {entry : Entry}

theorem ne_length_of_found (found : entries[number]? = some entry) : number ≠ entries.length :=
  Nat.ne_of_lt (List.getElem?_eq_some_iff.1 found).1

theorem getElem?_add (entries : List Entry) (entry : Entry) (number : Nat) :
    (entries ++ [entry])[number]? = if number = entries.length then some entry else entries[number]? := by
  by_cases new : number = entries.length
  · rw [if_pos new, new, List.getElem?_concat_length]
  · rw [if_neg new, List.getElem?_append]
    split
    · rfl
    · rename_i beyond
      rw [List.getElem?_eq_none (Nat.not_lt.1 beyond), List.getElem?_eq_none]
      rw [List.length_singleton]
      omega

theorem getElem?_change (found : entries[number]? = some entry) (changed : Entry) (other : Nat) :
    (entries.set number changed)[other]? = if other = number then some changed else entries[other]? := by
  have inRange : number < entries.length := (List.getElem?_eq_some_iff.1 found).1
  rw [List.getElem?_set]
  by_cases same : number = other
  · rw [if_pos same, if_pos inRange, if_pos same.symm]
  · rw [if_neg same, if_neg (Ne.symm same)]

end FlagSdk.Lib.Numbered
