import Mathlib.Data.List.Induction
import AgentPanel.Traversal

/-!
# Trees are visited in pre-order

A pre-order is a function that lists a node before what it lists of the children, child by child
(`IsPreorder`). What waits on the stack of a visit still has its pre-orders to come, the top first.
Each step takes the first node of these and leaves the others (`next_cases`), so the visit gives the
pre-order of its tree and ends (`gives_preorder`): what gets less with each step is the number of
nodes to come, while the stack may grow.

In pre-order a tree has each of its nodes once, in the order of their addresses
(`inAddressOrder_preorder`).
-/

namespace AgentPanel

namespace Traversal

variable {α : Type} {children preorder : α → List α} {root : α}

/-- Trees are listed in pre-order: a node, and then what is listed of the children, child by
child. -/
def IsPreorder (children preorder : α → List α) : Prop :=
  ∀ node, preorder node = node :: (children node).flatMap preorder

/-! ## Visits -/

/-- The nodes to come, where trees are listed in this way. -/
def remaining (preorder : α → List α) (t : Traversal α) : List α :=
  t.waiting.reverse.flatMap preorder

/-- A visit with nothing left to do stays as it is; any other takes the first node to come. -/
theorem next_cases (h : IsPreorder children preorder) (t : Traversal α) :
    (t.waiting = [] ∧ t.remaining preorder = [] ∧ t.next children = t) ∨
      ∃ node, t.waiting ≠ [] ∧ (t.next children).visited = t.visited ++ [node] ∧
        t.remaining preorder = node :: (t.next children).remaining preorder := by
  obtain ⟨waiting, visited⟩ := t
  cases waiting using List.reverseRecOn with
  | nil => exact .inl ⟨rfl, rfl, rfl⟩
  | append_singleton others node =>
    have hnext : next children ⟨others ++ [node], visited⟩ =
        ⟨others ++ (children node).reverse, visited ++ [node]⟩ := by
      simp [next]
    refine .inr ⟨node, by simp, by rw [hnext], ?_⟩
    -- the children are on the stack in reverse, so their pre-orders come in order
    rw [hnext]
    simp [remaining, h node]

theorem waiting_eq_nil_iff (h : IsPreorder children preorder) (t : Traversal α) :
    t.waiting = [] ↔ t.remaining preorder = [] := by
  rcases next_cases h t with ⟨hwaiting, hnone, -⟩ | ⟨node, hwaiting, -, hmore⟩
  · simp [hwaiting, hnone]
  · simp [hwaiting, hmore]

theorem visited_after (h : IsPreorder children preorder) (count : Nat) (t : Traversal α) :
    (t.after children count).visited = t.visited ++ (t.remaining preorder).take count := by
  induction count generalizing t with
  | zero => simp [after]
  | succ count ih =>
    rw [after, ih]
    rcases next_cases h t with ⟨-, hnone, hsame⟩ | ⟨node, -, hvisited, hmore⟩
    · simp [hsame, hnone]
    · simp [hvisited, hmore]

theorem remaining_after (h : IsPreorder children preorder) (count : Nat) (t : Traversal α) :
    (t.after children count).remaining preorder = (t.remaining preorder).drop count := by
  induction count generalizing t with
  | zero => simp [after]
  | succ count ih =>
    rw [after, ih]
    rcases next_cases h t with ⟨-, hnone, hsame⟩ | ⟨node, -, -, hmore⟩
    · simp [hsame, hnone]
    · simp [hmore]

/-- The visit of a tree gives its pre-order. -/
theorem gives_preorder (h : IsPreorder children preorder) (root : α) :
    Gives children root (preorder root) := by
  have hstart : (start root).remaining preorder = preorder root := by
    simp [start, remaining]
  intro count
  constructor
  · rw [visited_after h, hstart]
    rfl
  · rw [waiting_eq_nil_iff h, remaining_after h, hstart]
    exact List.drop_eq_nil_iff

/-! ## Addresses -/

theorem nodeAt?_cons (children : α → List α) (root : α) (index : Nat) (rest : Address) :
    nodeAt? children root (index :: rest) = nodeAmong? children (children root) (index :: rest) :=
  rfl

/-- The addresses of a forest begin with the index of a tree. -/
theorem exists_of_isSome_nodeAmong? {roots : List α} {address : Address}
    (h : (nodeAmong? children roots address).isSome) :
    ∃ index rest, address = index :: rest ∧ index < roots.length := by
  cases address with
  | nil => cases h
  | cons index rest =>
    refine ⟨index, rest, rfl, ?_⟩
    obtain ⟨root, hroot⟩ := Option.isSome_iff_exists.mp (Option.isSome_of_isSome_bind h)
    exact (List.getElem?_eq_some_iff.mp hroot).1

theorem nodeAmong?_append_of_lt {roots : List α} {index : Nat} (h : index < roots.length)
    (last : α) (rest : Address) :
    nodeAmong? children (roots ++ [last]) (index :: rest) =
      nodeAmong? children roots (index :: rest) := by
  rw [nodeAmong?, nodeAmong?, List.getElem?_append_left h]

theorem nodeAmong?_append_length (roots : List α) (last : α) (rest : Address) :
    nodeAmong? children (roots ++ [last]) (roots.length :: rest) =
      nodeAt? children last rest := by
  rw [nodeAmong?, List.getElem?_concat_length, Option.bind_some]

/-- An address of a longer forest is one of the shorter forest, or one of the last tree. -/
theorem isSome_nodeAmong?_append {roots : List α} {last : α} {address : Address} :
    (nodeAmong? children (roots ++ [last]) address).isSome ↔
      (nodeAmong? children roots address).isSome ∨
        ∃ rest, (nodeAt? children last rest).isSome ∧ roots.length :: rest = address := by
  constructor
  · intro h
    obtain ⟨index, rest, rfl, hindex⟩ := exists_of_isSome_nodeAmong? h
    rw [List.length_append, List.length_singleton] at hindex
    rcases Nat.lt_succ_iff_lt_or_eq.mp hindex with hbefore | rfl
    · rw [nodeAmong?_append_of_lt hbefore] at h
      exact .inl h
    · rw [nodeAmong?_append_length] at h
      exact .inr ⟨rest, h, rfl⟩
  · rintro (h | ⟨rest, h, rfl⟩)
    · obtain ⟨index, rest, rfl, hindex⟩ := exists_of_isSome_nodeAmong? h
      rwa [nodeAmong?_append_of_lt hindex]
    · rwa [nodeAmong?_append_length]

/-- The addresses of a forest go through its trees in order. -/
theorem inAddressOrder_flatMap (roots : List α)
    (h : ∀ root ∈ roots, InAddressOrder (nodeAt? children root) (preorder root)) :
    InAddressOrder (nodeAmong? children roots) (roots.flatMap preorder) := by
  induction roots using List.reverseRecOn with
  | nil =>
    refine ⟨[], List.Pairwise.nil, ?_, rfl⟩
    intro address
    cases address <;> simp [nodeAmong?]
  | append_singleton roots last ih =>
    obtain ⟨before, hbefore, hmemBefore, hmapBefore⟩ := ih fun root hroot =>
      h root (List.mem_append_left [last] hroot)
    obtain ⟨inside, hinside, hmemInside, hmapInside⟩ := h last (by simp)
    refine ⟨before ++ inside.map (roots.length :: ·), ?_, ?_, ?_⟩
    · rw [List.pairwise_append, List.pairwise_map]
      refine ⟨hbefore, ?_, ?_⟩
      · apply hinside.imp
        intro a b hab
        exact List.cons_lt_cons_iff.mpr (.inr ⟨rfl, hab⟩)
      · intro a ha b hb
        obtain ⟨index, rest, rfl, hindex⟩ := exists_of_isSome_nodeAmong? ((hmemBefore a).mp ha)
        obtain ⟨rest', -, rfl⟩ := List.mem_map.mp hb
        exact List.cons_lt_cons_iff.mpr (.inl hindex)
    · intro address
      simp only [List.mem_append, List.mem_map, hmemBefore, hmemInside, isSome_nodeAmong?_append]
    · have hsame : before.map (nodeAmong? children (roots ++ [last])) =
          before.map (nodeAmong? children roots) := by
        apply List.map_congr_left
        intro address haddress
        obtain ⟨index, rest, rfl, hindex⟩ :=
          exists_of_isSome_nodeAmong? ((hmemBefore address).mp haddress)
        exact nodeAmong?_append_of_lt hindex last rest
      have hlast : (inside.map (roots.length :: ·)).map (nodeAmong? children (roots ++ [last])) =
          inside.map (nodeAt? children last) := by
        rw [List.map_map]
        exact List.map_congr_left fun rest _ => nodeAmong?_append_length roots last rest
      rw [List.flatMap_append, List.flatMap_singleton, List.map_append, List.map_append, hsame,
        hlast, hmapBefore, hmapInside]

/-- A tree has the address of its root before all that are below it. -/
theorem inAddressOrder_cons {nodes : List α}
    (h : InAddressOrder (nodeAmong? children (children root)) nodes) :
    InAddressOrder (nodeAt? children root) (root :: nodes) := by
  obtain ⟨below, hsorted, hmem, hmap⟩ := h
  have hcons : ∀ address ∈ below, ∃ index rest, address = index :: rest := by
    intro address haddress
    obtain ⟨index, rest, rfl, -⟩ := exists_of_isSome_nodeAmong? ((hmem address).mp haddress)
    exact ⟨index, rest, rfl⟩
  refine ⟨[] :: below, ?_, ?_, ?_⟩
  · refine List.pairwise_cons.mpr ⟨?_, hsorted⟩
    intro address haddress
    obtain ⟨index, rest, rfl⟩ := hcons address haddress
    exact List.nil_lt_cons index rest
  · intro address
    cases address with
    | nil => simp [nodeAt?]
    | cons index rest =>
      rw [List.mem_cons, hmem, nodeAt?_cons]
      simp
  · have hsame : below.map (nodeAt? children root) =
        below.map (nodeAmong? children (children root)) := by
      apply List.map_congr_left
      intro address haddress
      obtain ⟨index, rest, rfl⟩ := hcons address haddress
      exact nodeAt?_cons children root index rest
    rw [List.map_cons, List.map_cons, hsame, hmap]
    rfl

/-- In pre-order a tree has the node at each address once, in the order of the addresses. -/
theorem inAddressOrder_preorder (h : IsPreorder children preorder) (root : α) :
    InAddressOrder (nodeAt? children root) (preorder root) := by
  induction hlength : (preorder root).length using Nat.strongRecOn generalizing root with
  | ind length ih =>
    subst hlength
    have hroot := h root
    rw [hroot]
    apply inAddressOrder_cons
    apply inAddressOrder_flatMap
    intro child hchild
    -- what is listed of a child is listed of the root, behind the root itself
    have hsublist : (preorder child).Sublist ((children root).flatMap preorder) :=
      List.sublist_flatten_of_mem (List.mem_map_of_mem hchild)
    have hlt : (preorder child).length < (preorder root).length := by
      rw [hroot, List.length_cons]
      exact Nat.lt_succ_of_le hsublist.length_le
    exact ih _ hlt child rfl

/-! ## Levels -/

/-- The level of a node is as far below that of the root as its address is long. -/
theorem nodeAt?_childrenBelow (children : α → List α) (root : α) (level : Nat)
    (address : Address) :
    nodeAt? (childrenBelow children) (root, level) address =
      (nodeAt? children root address).map (·, level + address.length) := by
  induction address generalizing root level with
  | nil => rfl
  | cons index rest ih =>
    simp only [nodeAt?, childrenBelow, List.getElem?_map, List.length_cons]
    cases (children root)[index]? with
    | none => rfl
    | some child =>
      show nodeAt? (childrenBelow children) (child, level + 1) rest = _
      rw [ih, Nat.add_assoc, Nat.add_comm 1]
      rfl

end Traversal

end AgentPanel
