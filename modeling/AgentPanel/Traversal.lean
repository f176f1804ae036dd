/-!
# Visiting a tree with a stack

Components and rendered nodes are trees that are visited without recursion. The nodes that wait for
their visit are on a stack. The last one is visited next, and its children take its place in reverse
order, so that the first child comes next and its siblings after all that is below it.

What is visited in which order can be told apart by addresses: `nodeAt?` finds a node from the way
down to it, and `InAddressOrder` says that a list has the node at each address of a tree once.
-/

namespace AgentPanel

/-- The way down to a node of a tree: the index of the child to go to, step by step. -/
abbrev Address := List Nat

/-- A visit of a tree that has come so far. -/
structure Traversal (α : Type) where
  /-- the nodes that wait, the next one last -/
  waiting : List α
  /-- the nodes that were visited, in order -/
  visited : List α

namespace Traversal

variable {α : Type} (children : α → List α)

/-! ## The visit -/

/-- Before the first node. -/
def start (root : α) : Traversal α := ⟨[root], []⟩

/-- After one more node. -/
def next (t : Traversal α) : Traversal α :=
  match t.waiting.getLast? with
  | some node => ⟨t.waiting.dropLast ++ (children node).reverse, t.visited ++ [node]⟩
  | none => t

/-- After so many more nodes. -/
def after (t : Traversal α) : Nat → Traversal α
  | 0 => t
  | count + 1 => after (t.next children) count

/-- The children of a node that carries its level, with theirs. -/
def childrenBelow : α × Nat → List (α × Nat)
  | (node, level) => (children node).map (·, level + 1)

/-! ## Addresses -/

/-- The node at an address of a tree. -/
def nodeAt? (root : α) : Address → Option α
  | [] => some root
  | index :: rest => ((children root)[index]?).bind fun child => nodeAt? child rest

/-- The node at an address of a forest, which begins with the index of the tree. -/
def nodeAmong? (roots : List α) : Address → Option α
  | [] => none
  | index :: rest => (roots[index]?).bind fun root => nodeAt? children root rest

/-! ## What a visit gives -/

/-- The visit of a tree gives these nodes, one after the other, and ends behind the last one. -/
def Gives (root : α) (nodes : List α) : Prop :=
  ∀ count, ((start root).after children count).visited = nodes.take count ∧
    (((start root).after children count).waiting = [] ↔ nodes.length ≤ count)

/-- The nodes are those at the addresses that lead to a node, each address once, and in the order of
the addresses: a node before all that is below it, and all below a child before the next child. -/
def InAddressOrder (at? : Address → Option α) (nodes : List α) : Prop :=
  ∃ addresses : List Address, addresses.Pairwise (· < ·) ∧
    (∀ address, address ∈ addresses ↔ (at? address).isSome) ∧
    nodes.map some = addresses.map at?

end Traversal

end AgentPanel
