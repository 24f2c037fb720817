import Mathlib.Tactic.Common

/-! Forests of labels, and the order in which their labels are finished by a walk that goes down first. -/

namespace FlagSdk.Lib

/-- A first tree, by its label and what is below it, and the rest of the trees. -/
inductive Forest (α : Type*) where
  | nil
  | node (label : α) (below rest : Forest α)
  deriving DecidableEq

namespace Forest
variable {α : Type*}

def append : Forest α → Forest α → Forest α
  | nil, other => other
  | node label below rest, other => node label below (rest.append other)

/-- Everything below a label comes before it. -/
def postOrder : Forest α → List α
  | nil => []
  | node label below rest => below.postOrder ++ label :: rest.postOrder

@[simp] theorem nil_append (forest : Forest α) : nil.append forest = forest := rfl

@[simp] theorem node_append (label : α) (below rest other : Forest α) :
    (node label below rest).append other = node label below (rest.append other) := rfl

@[simp] theorem append_nil (forest : Forest α) : forest.append nil = forest := by
  induction forest with
  | nil => rfl
  | node label below rest _ ih => rw [node_append, ih]

theorem append_assoc (first second third : Forest α) :
    (first.append second).append third = first.append (second.append third) := by
  induction first with
  | nil => rfl
  | node label below rest _ ih => rw [node_append, node_append, node_append, ih]

@[simp] theorem postOrder_node (label : α) (below rest : Forest α) :
    (node label below rest).postOrder = below.postOrder ++ label :: rest.postOrder := rfl

theorem postOrder_append (first second : Forest α) :
    (first.append second).postOrder = first.postOrder ++ second.postOrder := by
  induction first with
  | nil => rfl
  | node label below rest _ ih => simp [ih]

end Forest

end FlagSdk.Lib
