import Mathlib.Data.Finset.Card

/-! Depth-first search with a set of seen nodes. The set may already hold nodes when a search starts; a
search into a set that is closed under successors adds exactly what can be reached. -/

namespace FlagSdk.Lib.Search
open Relation

structure SeenSet (Node Seen : Type*) where
  contains : Seen → Node → Bool
  add : Seen → Node → Seen
  contains_add : ∀ seen node other,
    contains (add seen node) other = true ↔ other = node ∨ contains seen other = true

variable {Node Seen : Type*} (set : SeenSet Node Seen) (successors : Node → List Node)

/-- Adds a node that was not seen, and after it what its successors lead to. Without fuel there is no
answer. -/
def visit : Nat → Seen → Node → Option Seen
  | 0, _, _ => none
  | fuel + 1, seen, node =>
    if set.contains seen node then some seen
    else (successors node).foldlM (visit fuel) (set.add seen node)

def Reaches : Node → Node → Prop := ReflTransGen fun node next => next ∈ successors node

/-- What searches from some nodes, one after another, add to the set of seen nodes. -/
structure Explores (starts : List Node) (seen result : Seen) : Prop where
  keeps : ∀ node, set.contains seen node = true → set.contains result node = true
  started : ∀ start ∈ starts, set.contains result start = true
  reached : ∀ node, set.contains result node = true →
    set.contains seen node = true ∨ ∃ start ∈ starts, Reaches successors start node
  closed : ∀ node, set.contains result node = true → set.contains seen node ≠ true →
    ∀ next ∈ successors node, set.contains result next = true

variable {set successors}

theorem Explores.nil (seen : Seen) : Explores set successors [] seen seen where
  keeps _ member := member
  started _ none := absurd none List.not_mem_nil
  reached _ member := .inl member
  closed _ member fresh := absurd member fresh

variable {node : Node} {seen : Seen}

theorem Explores.of_seen (member : set.contains seen node = true) : Explores set successors [node] seen seen where
  keeps _ member := member
  started _ here := List.mem_singleton.1 here ▸ member
  reached _ member := .inl member
  closed _ member fresh := absurd member fresh

variable {nodes : List Node} {fuel : Nat}

theorem Explores.cons {node : Node} {seen between result : Seen}
    (first : Explores set successors [node] seen between) (rest : Explores set successors nodes between result) :
    Explores set successors (node :: nodes) seen result where
  keeps other member := rest.keeps other (first.keeps other member)
  started := by
    intro start member
    rcases List.mem_cons.1 member with here | later
    · exact rest.keeps start (first.started start (List.mem_singleton.2 here))
    · exact rest.started start later
  reached := by
    intro other member
    rcases rest.reached other member with before | ⟨start, later, path⟩
    · rcases first.reached other before with old | ⟨start, here, path⟩
      · exact .inl old
      · exact .inr ⟨start, List.mem_cons.2 (.inl (List.mem_singleton.1 here)), path⟩
    · exact .inr ⟨start, List.mem_cons_of_mem _ later, path⟩
  closed := by
    intro other member fresh next edge
    by_cases before : set.contains between other = true
    · exact rest.keeps next (first.closed other before fresh next edge)
    · exact rest.closed other member before next edge

variable {result : Seen}

theorem Explores.of_successors (explores : Explores set successors (successors node) (set.add seen node) result) :
    Explores set successors [node] seen result where
  keeps other member := explores.keeps other ((set.contains_add _ _ _).2 (.inr member))
  started start here :=
    explores.keeps start ((set.contains_add _ _ _).2 (.inl (List.mem_singleton.1 here)))
  reached := by
    intro other member
    rcases explores.reached other member with added | ⟨next, edge, path⟩
    · rcases (set.contains_add _ _ _).1 added with rfl | old
      · exact .inr ⟨other, List.mem_singleton_self other, .refl⟩
      · exact .inl old
    · exact .inr ⟨node, List.mem_singleton_self node, .head edge path⟩
  closed := by
    intro other member fresh next edge
    by_cases here : other = node
    · exact explores.started next (here ▸ edge)
    · refine explores.closed other member (fun added => ?_) next edge
      exact ((set.contains_add _ _ _).1 added).elim here fresh

variable {search : Seen → Node → Option Seen}

theorem foldlM_explores
    (one : ∀ {seen node result}, search seen node = some result → Explores set successors [node] seen result)
    (found : nodes.foldlM search seen = some result) : Explores set successors nodes seen result := by
  induction nodes generalizing seen with
  | nil =>
    cases found
    exact .nil _
  | cons node nodes ih =>
    rw [List.foldlM_cons, Option.bind_eq_bind, Option.bind_eq_some_iff] at found
    obtain ⟨between, first, rest⟩ := found
    exact (one first).cons (ih rest)

theorem visit_explores (found : visit set successors fuel seen node = some result) :
    Explores set successors [node] seen result := by
  induction fuel generalizing seen node result with
  | zero => cases found
  | succ fuel ih =>
    rw [visit] at found
    split at found
    next member =>
      cases found
      exact .of_seen member
    next => exact (foldlM_explores ih found).of_successors

section
variable (set) (domain : Finset Node)

def unseen (seen : Seen) : Finset Node := domain.filter fun node => ¬set.contains seen node = true

variable {set}

theorem unseen_subset (keeps : ∀ node, set.contains seen node = true → set.contains result node = true) :
    unseen set domain result ⊆ unseen set domain seen := by
  intro node member
  obtain ⟨inside, fresh⟩ := Finset.mem_filter.1 member
  exact Finset.mem_filter.2 ⟨inside, fun old => fresh (keeps node old)⟩

variable {domain}

theorem card_unseen_add_lt (inside : node ∈ domain) (fresh : set.contains seen node ≠ true) :
    (unseen set domain (set.add seen node)).card < (unseen set domain seen).card := by
  apply Finset.card_lt_card
  refine (Finset.ssubset_iff_of_subset (unseen_subset domain fun other old => ?_)).2 ⟨node, ?_, ?_⟩
  · exact (set.contains_add _ _ _).2 (.inr old)
  · exact Finset.mem_filter.2 ⟨inside, fresh⟩
  · intro member
    exact (Finset.mem_filter.1 member).2 ((set.contains_add _ _ _).2 (.inl rfl))

theorem foldlM_succeeds
    (explores : ∀ {seen node result}, search seen node = some result → Explores set successors [node] seen result)
    (one : ∀ {seen node}, node ∈ domain → (unseen set domain seen).card < fuel →
      ∃ result, search seen node = some result) (inside : ∀ node ∈ nodes, node ∈ domain)
    (enough : (unseen set domain seen).card < fuel) : ∃ result, nodes.foldlM search seen = some result := by
  induction nodes generalizing seen with
  | nil => exact ⟨seen, rfl⟩
  | cons node nodes ih =>
    obtain ⟨between, first⟩ := one (inside node List.mem_cons_self) enough
    have fewer := Finset.card_le_card (unseen_subset domain (explores first).keeps)
    obtain ⟨result, rest⟩ := ih (fun other later => inside other (List.mem_cons_of_mem _ later))
      (fewer.trans_lt enough)
    exact ⟨result, by rw [List.foldlM_cons, first]; exact rest⟩

/-- Fuel for each node that may still be added, and one more, is enough. -/
theorem visit_succeeds (closed : ∀ node ∈ domain, ∀ next ∈ successors node, next ∈ domain)
    (inside : node ∈ domain) (enough : (unseen set domain seen).card < fuel) :
    ∃ result, visit set successors fuel seen node = some result := by
  induction fuel generalizing seen node with
  | zero => exact absurd enough (Nat.not_lt_zero _)
  | succ fuel ih =>
    rw [visit]
    split
    next => exact ⟨seen, rfl⟩
    next fresh =>
      have fewer := card_unseen_add_lt inside fresh
      exact foldlM_succeeds visit_explores ih (closed node inside) (by omega)

end

/-- Searches into a closed set add exactly what can be reached from their starts. -/
theorem Explores.contains_iff (explores : Explores set successors nodes seen result)
    (closed : ∀ old, set.contains seen old = true → ∀ next ∈ successors old, set.contains seen next = true)
    (other : Node) : set.contains result other = true ↔
      set.contains seen other = true ∨ ∃ start ∈ nodes, Reaches successors start other := by
  constructor
  · exact explores.reached other
  · rintro (old | ⟨start, member, path⟩)
    · exact explores.keeps other old
    · induction path with
      | refl => exact explores.started start member
      | @tail before next _ edge ih =>
        by_cases old : set.contains seen before = true
        · exact explores.keeps next (closed before old next edge)
        · exact explores.closed before ih old next edge

end FlagSdk.Lib.Search
