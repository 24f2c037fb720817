import Mathlib.Data.List.Nodup

/-! Lists with positions. A position belongs to a node, and stays with it while the node is moved and others come and
go, as the iterators of a doubly linked list do. -/

namespace FlagSdk.Lib

/-- The nodes in order, each with its position. A position that was given up is not given out again. -/
@[ext] structure LinkedList (Item : Type*) where
  nodes : List (Nat × Item)
  fresh : Nat
  distinct : (nodes.map Prod.fst).Nodup
  below : ∀ node ∈ nodes, node.1 < fresh

namespace LinkedList

variable {Item : Type*}

def empty : LinkedList Item := ⟨[], 0, List.nodup_nil, fun _ member => absurd member List.not_mem_nil⟩

variable (list : LinkedList Item)

def items : List Item := list.nodes.map Prod.snd

/-- The position of the new node is the one that was fresh. -/
def pushFront (item : Item) : LinkedList Item where
  nodes := (list.fresh, item) :: list.nodes
  fresh := list.fresh + 1
  distinct := by
    refine List.nodup_cons.2 ⟨fun taken => ?_, list.distinct⟩
    obtain ⟨node, member, same⟩ := List.mem_map.1 taken
    exact absurd (list.below node member) (by omega)
  below := by
    intro node member
    obtain rfl | old := List.mem_cons.1 member
    · exact Nat.lt_succ_self _
    · exact Nat.lt_succ_of_lt (list.below node old)

def erase (position : Nat) : LinkedList Item where
  nodes := list.nodes.filter fun node => node.1 ≠ position
  fresh := list.fresh
  distinct := list.distinct.sublist (List.filter_sublist.map _)
  below node member := list.below node (List.mem_of_mem_filter member)

/-- The node at the position comes first, and the others keep their order. -/
def spliceFront (position : Nat) : LinkedList Item where
  nodes := (list.nodes.filter fun node => node.1 = position) ++ list.nodes.filter fun node => node.1 ≠ position
  fresh := list.fresh
  distinct := by
    have parts := List.filter_append_perm (fun node : Nat × Item => decide (node.1 = position)) list.nodes
    simpa using (parts.map Prod.fst).nodup_iff.2 list.distinct
  below := by
    intro node member
    obtain here | elsewhere := List.mem_append.1 member
    · exact list.below node (List.mem_of_mem_filter here)
    · exact list.below node (List.mem_of_mem_filter elsewhere)

def back : Option Item := list.items.getLast?

def popBack : LinkedList Item where
  nodes := list.nodes.dropLast
  fresh := list.fresh
  distinct := list.distinct.sublist ((List.dropLast_sublist _).map _)
  below node member := list.below node ((List.dropLast_sublist _).subset member)

def clear : LinkedList Item :=
  ⟨[], list.fresh, List.nodup_nil, fun _ member => absurd member List.not_mem_nil⟩

variable {list} {position : Nat} {item : Item}

theorem filter_position (member : (position, item) ∈ list.nodes) :
    (list.nodes.filter fun node => node.1 = position) = [(position, item)] := by
  have alone : ∀ node ∈ list.nodes.filter fun node => node.1 = position, node = (position, item) := by
    intro node found
    obtain ⟨inside, here⟩ := List.mem_filter.1 found
    exact List.inj_on_of_nodup_map list.distinct inside member (of_decide_eq_true here)
  have once : (list.nodes.filter fun node => node.1 = position).Nodup := list.distinct.of_map.filter _
  have found : (position, item) ∈ list.nodes.filter fun node => node.1 = position :=
    List.mem_filter.2 ⟨member, decide_eq_true rfl⟩
  obtain ⟨first, rest, shape⟩ := List.exists_cons_of_ne_nil (List.ne_nil_of_mem found)
  rw [shape] at alone once ⊢
  have head := alone first List.mem_cons_self
  cases rest with
  | nil => rw [head]
  | cons second rest =>
    have same := alone second (List.mem_cons_of_mem _ List.mem_cons_self)
    refine absurd ?_ (List.nodup_cons.1 once).1
    rw [head, same]
    exact List.mem_cons_self

theorem nodes_spliceFront (member : (position, item) ∈ list.nodes) :
    (list.spliceFront position).nodes = (position, item) :: (list.erase position).nodes :=
  congrArg (· ++ (list.erase position).nodes) (filter_position member)

theorem perm_spliceFront : (list.spliceFront position).nodes.Perm list.nodes := by
  simpa [spliceFront] using List.filter_append_perm (fun node : Nat × Item => decide (node.1 = position)) list.nodes

theorem mem_erase {node : Nat × Item} :
    node ∈ (list.erase position).nodes ↔ node ∈ list.nodes ∧ node.1 ≠ position := by
  simp [erase]

theorem items_erase_sublist : (list.erase position).items.Sublist list.items := List.filter_sublist.map _

theorem items_popBack : list.popBack.items = list.items.dropLast := List.map_dropLast

theorem mem_popBack (last : list.back = some item) (unique : list.items.Nodup) {node : Nat × Item} :
    node ∈ list.popBack.nodes ↔ node ∈ list.nodes ∧ node.2 ≠ item := by
  rw [back, items, List.getLast?_map] at last
  obtain ⟨final, found, rfl⟩ := Option.map_eq_some_iff.1 last
  have split : list.nodes = list.popBack.nodes ++ [final] := (List.dropLast_append_getLast? final found).symm
  rw [items, split, List.map_append, List.nodup_append] at unique
  rw [split, List.mem_append, List.mem_singleton]
  constructor
  · intro kept
    exact ⟨.inl kept, unique.2.2 node.2 (List.mem_map_of_mem kept) final.2 (List.mem_singleton.2 rfl)⟩
  · rintro ⟨kept | rfl, other⟩
    · exact kept
    · exact absurd rfl other

end LinkedList

end FlagSdk.Lib
