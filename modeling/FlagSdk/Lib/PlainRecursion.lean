import FlagSdk.Lib.GuardedRecursion
import Mathlib.Order.WellFounded

/-! Recursion over the nodes of a graph without a guard. A node asks all the nodes that it calls, in order, before it
has a result. Where only finitely many nodes call others, the recursion returns exactly when no node that it reaches
is on a cycle. -/

namespace FlagSdk.Lib.PlainRecursion
open Relation GuardedRecursion

variable {Node Out : Type*} (calls : Node → List Node) (body : Node → List Out → Out)

def recurse : Nat → Node → Option Out
  | 0, _ => none
  | fuel + 1, node => ((calls node).mapM (recurse fuel)).map (body node)

/-- A node calls another one. -/
def Calls (here next : Node) : Prop := next ∈ calls here

variable {calls body}

theorem mapM_isSome_iff {Item : Type*} {f : Item → Option Out} {items : List Item} :
    (items.mapM f).isSome = true ↔ ∀ item ∈ items, (f item).isSome = true := by
  induction items with
  | nil => simp
  | cons item items ih =>
    rw [List.forall_mem_cons, ← ih, List.mapM_cons]
    cases f item with
    | none => simp
    | some out => cases items.mapM f <;> simp

variable {node : Node} {fuel : Nat}

theorem recurse_succ_isSome_iff :
    (recurse calls body (fuel + 1) node).isSome = true ↔
      ∀ next ∈ calls node, (recurse calls body fuel next).isSome = true := by
  rw [recurse, Option.isSome_map, mapM_isSome_iff]

theorem recurse_mono {larger : Nat} (within : fuel ≤ larger)
    (returns : (recurse calls body fuel node).isSome = true) :
    (recurse calls body larger node).isSome = true := by
  induction fuel generalizing larger node with
  | zero => cases returns
  | succ fuel ih =>
    obtain ⟨larger, rfl⟩ := Nat.exists_eq_add_of_le' (Nat.lt_of_lt_of_le (Nat.succ_pos fuel) within)
    rw [recurse_succ_isSome_iff] at returns ⊢
    intro next call
    exact ih (Nat.le_of_succ_le_succ within) (returns next call)

theorem exists_fuel {nodes : List Node}
    (returns : ∀ node ∈ nodes, ∃ fuel, (recurse calls body fuel node).isSome = true) :
    ∃ fuel, ∀ node ∈ nodes, (recurse calls body fuel node).isSome = true := by
  induction nodes with
  | nil => exact ⟨0, fun _ member => absurd member List.not_mem_nil⟩
  | cons node nodes ih =>
    obtain ⟨here, first⟩ := returns node List.mem_cons_self
    obtain ⟨fuel, rest⟩ := ih fun other member => returns other (List.mem_cons_of_mem _ member)
    refine ⟨max here fuel, fun other member => ?_⟩
    obtain rfl | behind := List.mem_cons.1 member
    · exact recurse_mono (le_max_left _ _) first
    · exact recurse_mono (le_max_right _ _) (rest other behind)

/-- The recursion returns where no infinite chain of calls begins. -/
theorem returns_iff_acc :
    (∃ fuel, (recurse calls body fuel node).isSome = true) ↔ Acc (fun next here => Calls calls here next) node := by
  constructor
  · rintro ⟨fuel, returns⟩
    induction fuel generalizing node with
    | zero => cases returns
    | succ fuel ih =>
      rw [recurse_succ_isSome_iff] at returns
      exact ⟨node, fun next call => ih (returns next call)⟩
  · intro accessible
    induction accessible with
    | intro here _ ih =>
      obtain ⟨fuel, returns⟩ := exists_fuel ih
      exact ⟨fuel + 1, recurse_succ_isSome_iff.2 returns⟩

variable {Edge : Node → Node → Prop}

theorem acc_not_cyclic (accessible : Acc (fun next here => Edge here next) node) : ¬TransGen Edge node node := by
  induction accessible with
  | intro here _ ih =>
    intro cycle
    obtain ⟨next, edge, back⟩ := TransGen.head'_iff.1 cycle
    exact ih next edge (.tail' back edge)

theorem acc_of_reaches {next : Node} (accessible : Acc (fun next here => Edge here next) node)
    (reached : ReflTransGen Edge node next) : Acc (fun next here => Edge here next) next := by
  induction reached with
  | refl => exact accessible
  | tail _ edge ih => exact ih.inv edge

variable [DecidableEq Node] {domain : Finset Node} {root : Node}

theorem acc_of_acyclic {path : Finset Node} {here : Node} (sources : ∀ node next, Edge node next → node ∈ domain)
    (acyclic : ∀ node, ReflTransGen Edge root node → ¬TransGen Edge node node)
    (onPath : OnPath Edge root path here) : Acc (fun next here => Edge here next) here := by
  -- The path grows with every call, and has only nodes of the domain that are not on it yet to grow by.
  induction size : (domain \ path).card using Nat.strong_induction_on generalizing path here with
  | _ bound ih =>
    refine ⟨here, fun next edge => ?_⟩
    have fresh : here ∉ path := fun member => acyclic here onPath.reached (onPath.before here member)
    have fewer : (domain \ insert here path).card < bound := by
      rw [← size, Finset.sdiff_insert]
      exact Finset.card_erase_lt_of_mem (Finset.mem_sdiff.2 ⟨sources here next edge, fresh⟩)
    exact ih _ fewer (onPath.call edge) rfl

theorem acc_iff_acyclic (sources : ∀ node next, Edge node next → node ∈ domain) :
    Acc (fun next here => Edge here next) root ↔ ∀ node, ReflTransGen Edge root node → ¬TransGen Edge node node := by
  constructor
  · intro accessible node reached
    exact acc_not_cyclic (acc_of_reaches accessible reached)
  · intro acyclic
    exact acc_of_acyclic sources acyclic (.start root)

end FlagSdk.Lib.PlainRecursion
