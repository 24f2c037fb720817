import Mathlib.Data.Finset.Card

/-! Recursion over the nodes of a graph that is stopped by a guard. The keys of the nodes on the path are
remembered, and a node whose key is among them is refused. The rules say what holds of the results, that
nothing is refused without a cycle, and that the recursion returns. -/

namespace FlagSdk.Lib.GuardedRecursion
open Relation

variable {Node Key Out : Type*}

/-- The key is reached from the root, and it is reached again from each key of the path. -/
structure OnPath (Edge : Key → Key → Prop) (root : Key) (path : Finset Key) (here : Key) : Prop where
  reached : ReflTransGen Edge root here
  before : ∀ old ∈ path, TransGen Edge old here

variable {Edge : Key → Key → Prop} {path : Finset Key} {node : Node} {fuel : Nat} {Other : Type*}

theorem OnPath.start (root : Key) : OnPath Edge root ∅ root :=
  ⟨.refl, fun old member => absurd member (Finset.notMem_empty old)⟩

/-- The calls stay inside, and follow the edges between the keys. -/
structure Follows (key : Node → Key) (Calls : Node → Node → Prop) (Inside : Node → Prop)
    (Edge : Key → Key → Prop) : Prop where
  closed : ∀ {node next}, Inside node → Calls node next → Inside next
  edge : ∀ {node next}, Inside node → Calls node next → Edge (key node) (key next)

theorem acyclic_of_rank (rank : Key → Nat)
    (rises : ∀ here next, Edge here next → rank here < rank next) (here : Key) : ¬TransGen Edge here here := by
  intro cycle
  have rising : TransGen (· < ·) (rank here) (rank here) := cycle.lift rank rises
  rw [transGen_eq_self] at rising
  exact absurd rising (lt_irrefl _)

variable [DecidableEq Key]

def guarded (key : Node → Key) (refuse : Node → Out) (body : (Node → Out) → Node → Out) (exhausted : Out) :
    Nat → Finset Key → Node → Out
  | 0, _, _ => exhausted
  | fuel + 1, path, node =>
    if key node ∈ path then refuse node
    else body (guarded key refuse body exhausted fuel (insert (key node) path)) node

variable {key : Node → Key} {refuse : Node → Out} {body : (Node → Out) → Node → Out} {exhausted : Out}
  {Calls : Node → Node → Prop}

section
variable {Inside : Node → Prop} {root : Key}

theorem OnPath.call {here next : Key} (onPath : OnPath Edge root path here)
    (edge : Edge here next) : OnPath Edge root (insert here path) next where
  reached := onPath.reached.tail edge
  before := by
    intro old member
    rcases Finset.mem_insert.1 member with same | earlier
    · exact same ▸ .single edge
    · exact (onPath.before old earlier).tail edge

/-- What the body gives from what it calls, and a refusal whenever its key is on a cycle, holds of every
result. -/
theorem guarded_induction (follows : Follows key Calls Inside Edge) (Holds : Nat → Node → Out → Prop)
    (ends : ∀ node, Holds 0 node exhausted)
    (refuses : ∀ fuel node, ReflTransGen Edge root (key node) → TransGen Edge (key node) (key node) →
      Holds (fuel + 1) node (refuse node))
    (steps : ∀ fuel node rec, Inside node → ReflTransGen Edge root (key node) →
      (∀ next, Calls node next → Holds fuel next (rec next)) → Holds (fuel + 1) node (body rec node))
    (fuel : Nat) (inside : Inside node) (onPath : OnPath Edge root path (key node)) :
    Holds fuel node (guarded key refuse body exhausted fuel path node) := by
  induction fuel generalizing path node with
  | zero => exact ends node
  | succ fuel ih =>
    rw [guarded]
    split
    next member => exact refuses fuel node onPath.reached (onPath.before _ member)
    next =>
      apply steps fuel node _ inside onPath.reached
      intro next call
      exact ih (follows.closed inside call) (onPath.call (follows.edge inside call))

theorem guarded_acyclic (start : Node) (follows : Follows key Calls Inside Edge) (Holds : Nat → Node → Out → Prop)
    (acyclic : ∀ here, ReflTransGen Edge (key start) here → ¬TransGen Edge here here)
    (ends : ∀ node, Holds 0 node exhausted)
    (steps : ∀ fuel node rec, Inside node → ReflTransGen Edge (key start) (key node) →
      (∀ next, Calls node next → Holds fuel next (rec next)) → Holds (fuel + 1) node (body rec node))
    (fuel : Nat) (inside : Inside start) : Holds fuel start (guarded key refuse body exhausted fuel ∅ start) := by
  refine guarded_induction follows Holds ends ?_ steps fuel inside (.start (key start))
  intro fuel node reached cycle
  exact absurd cycle (acyclic _ reached)

end

/-- With fuel for each key that is not on the path, and one more unit, what the body gives from what it
calls holds, also of a body that returns only if what it calls does. -/
theorem guarded_returns (Inside : Node → Prop) (Holds : Node → Out → Prop) {domain : Finset Key}
    (keys : ∀ node, Inside node → key node ∈ domain)
    (closed : ∀ node next, Inside node → Calls node next → Inside next)
    (refuses : ∀ node, Holds node (refuse node))
    (steps : ∀ node rec, (∀ next, Calls node next → Holds next (rec next)) → Holds node (body rec node))
    (inside : Inside node) (enough : (domain \ path).card < fuel) :
    Holds node (guarded key refuse body exhausted fuel path node) := by
  induction fuel generalizing path node with
  | zero => exact absurd enough (Nat.not_lt_zero _)
  | succ fuel ih =>
    rw [guarded]
    split
    next => exact refuses node
    next fresh =>
      apply steps
      intro next call
      have member : key node ∈ domain \ path := Finset.mem_sdiff.2 ⟨keys node inside, fresh⟩
      have fewer : (domain \ insert (key node) path).card < (domain \ path).card := by
        rw [Finset.sdiff_insert]
        exact Finset.card_erase_lt_of_mem member
      exact ih (closed node next inside call) (by omega)

variable {bodyOther : (Node → Other) → Node → Other} {refuseOther : Node → Other} {exhaustedOther : Other}

/-- Two recursions over the same nodes have related results, when their bodies have them from what they call. -/
theorem guarded_related (Inside : Node → Prop) (R : Node → Out → Other → Prop)
    (closed : ∀ node next, Inside node → Calls node next → Inside next)
    (ends : ∀ node, R node exhausted exhaustedOther) (refuses : ∀ node, R node (refuse node) (refuseOther node))
    (steps : ∀ node rec other, Inside node → (∀ next, Calls node next → R next (rec next) (other next)) →
      R node (body rec node) (bodyOther other node))
    (fuel : Nat) (path : Finset Key) (inside : Inside node) :
    R node (guarded key refuse body exhausted fuel path node)
      (guarded key refuseOther bodyOther exhaustedOther fuel path node) := by
  induction fuel generalizing path node with
  | zero => exact ends node
  | succ fuel ih =>
    rw [guarded, guarded]
    split
    · exact refuses node
    · exact steps node _ _ inside fun next call => ih _ (closed node next inside call)

theorem guarded_related_everywhere (R : Node → Out → Other → Prop)
    (ends : ∀ node, R node exhausted exhaustedOther) (refuses : ∀ node, R node (refuse node) (refuseOther node))
    (steps : ∀ node rec other, (∀ next, R next (rec next) (other next)) → R node (body rec node) (bodyOther other node))
    (fuel : Nat) (path : Finset Key) (node : Node) :
    R node (guarded key refuse body exhausted fuel path node)
      (guarded key refuseOther bodyOther exhaustedOther fuel path node) := by
  have anywhere : ∀ here next : Node, True → True → True := fun _ _ _ _ => trivial
  refine guarded_related (fun _ => True) R anywhere ends refuses ?_ fuel path trivial
  intro here rec other _ asked
  exact steps here rec other fun next => asked next trivial

theorem guarded_mono {other : (Node → Out) → Node → Out} (Below : Out → Out → Prop)
    (least : ∀ out, Below exhausted out) (refl : ∀ node, Below (refuse node) (refuse node))
    (steps : ∀ node rec more, (∀ next, Below (rec next) (more next)) → Below (body rec node) (other more node))
    {larger : Nat} (within : fuel ≤ larger) (path : Finset Key) (node : Node) :
    Below (guarded key refuse body exhausted fuel path node)
      (guarded key refuse other exhausted larger path node) := by
  induction fuel generalizing larger path node with
  | zero => exact least _
  | succ fuel ih =>
    obtain ⟨larger, rfl⟩ := Nat.exists_eq_add_of_le' (Nat.lt_of_lt_of_le (Nat.succ_pos fuel) within)
    rw [guarded, guarded]
    split
    · exact refl node
    · exact steps node _ _ fun next => ih (Nat.le_of_succ_le_succ within) _ next

end FlagSdk.Lib.GuardedRecursion
