import Mathlib.Data.List.Induction
import Mathlib.Order.Lattice

/-! A register that takes an item only when it ranks above the one that is held. What it holds after a list of items
is the first of the highest rank. -/

namespace FlagSdk.Lib.Newest

variable {Item Rank : Type*} [LinearOrder Rank] (rank : Item → Rank)

def keepNewer (held : Option Item) (item : Item) : Option Item :=
  if held.any (rank item ≤ rank ·) then held else some item

variable (items : List Item)

def newest : Option Item := items.foldl (keepNewer rank) none

@[simp] theorem newest_nil : newest rank [] = none := rfl

theorem newest_append_singleton (item : Item) :
    newest rank (items ++ [item]) = keepNewer rank (newest rank items) item := by
  rw [newest, List.foldl_append]
  rfl

theorem newest_eq_none_iff {items : List Item} : newest rank items = none ↔ items = [] := by
  constructor
  · intro none
    induction items using List.reverseRecOn with
    | nil => rfl
    | append_singleton items item _ =>
      rw [newest_append_singleton, keepNewer] at none
      split at none
      · rename_i older
        rw [none] at older
        cases older
      · cases none
  · intro empty
    rw [empty, newest_nil]

/-- The items up to some rank of which the first of that rank is the one given. -/
def Tops (top : Item) : Prop :=
  (∀ item ∈ items, rank item ≤ rank top) ∧ items.find? (rank · = rank top) = some top

variable {rank} in
theorem Tops.append {items : List Item} {top item : Item} (tops : Tops rank items top)
    (older : rank item ≤ rank top) : Tops rank (items ++ [item]) top := by
  constructor
  · intro other member
    obtain member | member := List.mem_append.1 member
    · exact tops.1 other member
    · rw [List.mem_singleton.1 member]
      exact older
  · rw [List.find?_append, tops.2, Option.some_or]

variable {rank} in
theorem tops_append_of_lt {items : List Item} {item : Item} (below : ∀ other ∈ items, rank other < rank item) :
    Tops rank (items ++ [item]) item := by
  constructor
  · intro other member
    obtain member | member := List.mem_append.1 member
    · exact (below other member).le
    · rw [List.mem_singleton.1 member]
  · have absent : items.find? (rank · = rank item) = none := by
      apply List.find?_eq_none.2
      intro other member
      simpa using (below other member).ne
    rw [List.find?_append, absent, Option.none_or, List.find?_singleton]
    simp

theorem tops_newest : ∀ top ∈ newest rank items, Tops rank items top := by
  induction items using List.reverseRecOn with
  | nil =>
    intro top held
    cases held
  | append_singleton items item ih =>
    intro top held
    rw [newest_append_singleton, keepNewer] at held
    split at held
    · rename_i older
      rw [held, Option.any_some, decide_eq_true_eq] at older
      exact (ih top held).append older
    · rename_i newer
      cases Option.mem_some_iff.1 held
      apply tops_append_of_lt
      intro other member
      cases kept : newest rank items with
      | none =>
        rw [(newest_eq_none_iff rank).1 kept] at member
        cases member
      | some best =>
        rw [kept, Option.any_some, decide_eq_true_eq, not_le] at newer
        exact lt_of_le_of_lt ((ih best kept).1 other member) newer

theorem newest_eq_some_iff {items : List Item} {top : Item} : newest rank items = some top ↔ Tops rank items top := by
  constructor
  · intro held
    exact tops_newest rank items top held
  · intro tops
    have member : top ∈ items := List.mem_of_find?_eq_some tops.2
    cases held : newest rank items with
    | none =>
      rw [(newest_eq_none_iff rank).1 held] at member
      cases member
    | some best =>
      obtain ⟨bound, first⟩ := tops_newest rank items best held
      have same : rank best = rank top :=
        le_antisymm (tops.1 best (List.mem_of_find?_eq_some first)) (bound top member)
      rw [same, tops.2] at first
      exact first.symm

/-- The register ends with the last item exactly when that item ranks highest and is the first that does. -/
theorem newest_eq_getLast?_iff :
    newest rank items = items.getLast? ↔ ∀ last ∈ items.getLast?, Tops rank items last := by
  cases final : items.getLast? with
  | none =>
    rw [List.getLast?_eq_none_iff] at final
    rw [final]
    simp
  | some last =>
    rw [newest_eq_some_iff]
    simp

theorem newest_toList (held : Option Item) : newest rank held.toList = held := by
  cases held <;> rfl

variable {rank} {initial first second : List Item}

theorem Tops.of_same_members {top : Item} (tops : Tops rank (initial ++ first) top)
    (distinct : ∀ item ∈ first, ∀ other ∈ first, rank item = rank other → item = other)
    (same : ∀ item, item ∈ first ↔ item ∈ second) : Tops rank (initial ++ second) top := by
  constructor
  · intro item member
    apply tops.1
    rw [List.mem_append, same]
    exact List.mem_append.1 member
  · have found := tops.2
    rw [List.find?_append] at found ⊢
    cases inInitial : initial.find? (rank · = rank top) with
    | some item =>
      rw [inInitial] at found
      exact found
    | none =>
      rw [inInitial, Option.none_or] at found
      have member : top ∈ first := List.mem_of_find?_eq_some found
      rw [Option.none_or]
      -- the search in the other list finds something of the same rank, and only the top has it
      cases other : second.find? (rank · = rank top) with
      | none =>
        have missing := List.find?_eq_none.1 other top ((same top).1 member)
        simp at missing
      | some item =>
        have ranked : rank item = rank top := by simpa using List.find?_some other
        rw [distinct item ((same item).2 (List.mem_of_find?_eq_some other)) top member ranked]

theorem newest_append_congr (distinct : ∀ item ∈ first, ∀ other ∈ first, rank item = rank other → item = other)
    (same : ∀ item, item ∈ first ↔ item ∈ second) :
    newest rank (initial ++ first) = newest rank (initial ++ second) := by
  cases held : newest rank (initial ++ first) with
  | none =>
    obtain ⟨none, empty⟩ := List.append_eq_nil_iff.1 ((newest_eq_none_iff rank).1 held)
    have alsoEmpty : second = [] := by
      apply List.eq_nil_iff_forall_not_mem.2
      intro item member
      have missing := (same item).2 member
      rw [empty] at missing
      cases missing
    rw [none, alsoEmpty]
    rfl
  | some top =>
    exact ((newest_eq_some_iff rank).2 (((newest_eq_some_iff rank).1 held).of_same_members distinct same)).symm

end FlagSdk.Lib.Newest
