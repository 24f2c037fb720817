import Mathlib.Data.List.Basic

/-! Maps as lists of entries in the order of insertion, as a hash object with stable iteration
keeps them. -/

namespace FlagSdk.Lib.AssocList

variable {Key Value : Type*} [DecidableEq Key] (entries : List (Key × Value))

def emplace (key : Key) (value : Value) : List (Key × Value) :=
  if (entries.lookup key).isSome then entries else entries ++ [(key, value)]

def insertOrAssign (key : Key) (value : Value) : List (Key × Value) :=
  if (entries.lookup key).isSome then
    entries.map fun entry => if entry.1 = key then (key, value) else entry
  else entries ++ [(key, value)]

theorem lookup_singleton (key wanted : Key) (value : Value) :
    [(key, value)].lookup wanted = if wanted = key then some value else none := by
  by_cases same : wanted = key
  · simp [same]
  · simp [same, List.lookup_cons, beq_eq_false_iff_ne.2 same]

variable {entries added : List (Key × Value)} {key : Key}

theorem mem_of_lookup {value : Value} (found : entries.lookup key = some value) : (key, value) ∈ entries := by
  obtain ⟨before, after, split, _⟩ := List.lookup_eq_some_iff.1 found
  rw [split]
  exact List.mem_append_right before List.mem_cons_self

theorem lookup_emplace (entries : List (Key × Value)) (key wanted : Key) (value : Value) :
    (emplace entries key value).lookup wanted =
      (entries.lookup wanted).or (if wanted = key then some value else none) := by
  unfold emplace
  cases present : entries.lookup key with
  | none => rw [Option.isSome_none, if_neg Bool.false_ne_true, List.lookup_append, lookup_singleton]
  | some old =>
    by_cases same : wanted = key
    · simp [same, present]
    · simp [same]

theorem emplace_of_lookup_eq_none (fresh : entries.lookup key = none) (value : Value) :
    emplace entries key value = entries ++ [(key, value)] := by
  simp [emplace, fresh]

theorem mem_foldl_emplace {entry : Key × Value}
    (member : entry ∈ added.foldl (fun entries entry => emplace entries entry.1 entry.2) entries) :
    entry ∈ entries ∨ entry ∈ added := by
  induction added generalizing entries with
  | nil => exact .inl member
  | cons first added ih =>
    rcases ih member with before | after
    · simp only [emplace] at before
      split at before
      · exact .inl before
      · rcases List.mem_append.1 before with old | new
        · exact .inl old
        · exact .inr (List.mem_singleton.1 new ▸ List.mem_cons_self)
    · exact .inr (List.mem_cons_of_mem _ after)

theorem insertOrAssign_of_lookup_eq_none (fresh : entries.lookup key = none) (value : Value) :
    insertOrAssign entries key value = entries ++ [(key, value)] := by
  simp [insertOrAssign, fresh]

theorem foldl_eq_append {add : List (Key × Value) → Key → Value → List (Key × Value)}
    (appends : ∀ {entries key}, entries.lookup key = none →
      ∀ value, add entries key value = entries ++ [(key, value)])
    (distinct : added.Pairwise fun first second => first.1 ≠ second.1)
    (fresh : ∀ entry ∈ added, entries.lookup entry.1 = none) :
    added.foldl (fun entries entry => add entries entry.1 entry.2) entries = entries ++ added := by
  induction added generalizing entries with
  | nil => simp
  | cons entry added ih =>
    obtain ⟨apart, rest⟩ := List.pairwise_cons.1 distinct
    have stillFresh : ∀ other ∈ added, (entries ++ [entry]).lookup other.1 = none := by
      intro other member
      rw [List.lookup_append, fresh other (List.mem_cons_of_mem _ member), lookup_singleton,
        if_neg (apart other member).symm, Option.none_or]
    rw [List.foldl_cons, appends (fresh entry List.mem_cons_self), ih rest stillFresh,
      List.append_assoc, List.singleton_append]

end FlagSdk.Lib.AssocList
