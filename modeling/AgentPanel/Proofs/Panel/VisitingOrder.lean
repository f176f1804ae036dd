import AgentPanel.Payload.Component
import AgentPanel.Proofs.Panel.OutlineLines
import AgentPanel.Proofs.Traversal.Preorder

/-!
# The order in which components and rendered nodes are visited

Components and rendered nodes are listed by the same loop, and the lines of an outline by the same
loop over nodes that carry their levels. All three lists are pre-orders, so the theory of visits
applies to them (`visits_inAddressOrder`).
-/

namespace AgentPanel

open Traversal

namespace Component

theorem isPreorder_nodes : IsPreorder children nodes := by
  intro c
  have hnodes : nodes = preorder := funext nodes_eq_preorder
  rw [hnodes, preorder_eq, preorderAll_eq_flatMap]

end Component

namespace Rendered

theorem isPreorder_nodes : IsPreorder children nodes := by
  intro node
  have hnodes : nodes = preorder := funext nodes_eq_preorder
  rw [hnodes, preorder_eq, preorderAll_eq_flatMap]

theorem isPreorder_levelled :
    IsPreorder (childrenBelow children) fun p => levelled p.2 p.1 := by
  rintro ⟨node, level⟩
  show levelled level node = _
  rw [levelled_eq, levelledAll_eq_flatMap]
  rfl

end Rendered

/-- Components, payloads and rendered trees are visited in pre-order. The loop with the stack gives
a node, then what it gives of the children, child by child, and ends: one node for each address, in
the order of the addresses. An outline joins the summaries of the nodes by line ends, in the same
order, each behind one indent for each step of the address. -/
theorem visits_inAddressOrder :
    (∀ c : Component,
        Gives Component.children c c.nodes ∧
          c.nodes = c :: c.children.flatMap Component.nodes ∧
          InAddressOrder (nodeAt? Component.children c) c.nodes) ∧
      (∀ p : Payload,
        p.nodes = p.components.flatMap Component.nodes ∧
          InAddressOrder (nodeAmong? Component.children p.components) p.nodes) ∧
      (∀ node : Rendered,
        Gives Rendered.children node node.nodes ∧
          node.nodes = node :: node.children.flatMap Rendered.nodes ∧
          InAddressOrder (nodeAt? Rendered.children node) node.nodes) ∧
      ∀ (node : Rendered) (indent : Text),
        Gives (childrenBelow Rendered.children) (node, 0) (node.levelled 0) ∧
          (node.levelled 0).map Prod.fst = node.nodes ∧
          InAddressOrder
            (fun address => (nodeAt? Rendered.children node address).map (·, address.length))
            (node.levelled 0) ∧
          node.outline indent =
            Text.join ['\n'] ((node.levelled 0).map fun (node, level) =>
              Text.times level indent ++ node.summary) := by
  refine ⟨?_, ?_, ?_, ?_⟩
  · intro c
    have horder := Component.isPreorder_nodes
    exact ⟨gives_preorder horder c, horder c, inAddressOrder_preorder horder c⟩
  · intro p
    refine ⟨rfl, ?_⟩
    apply inAddressOrder_flatMap
    intro c _
    exact inAddressOrder_preorder Component.isPreorder_nodes c
  · intro node
    have horder := Rendered.isPreorder_nodes
    exact ⟨gives_preorder horder node, horder node, inAddressOrder_preorder horder node⟩
  · intro node indent
    have horder := Rendered.isPreorder_levelled
    have haddresses := inAddressOrder_preorder horder (node, 0)
    have hlevels : nodeAt? (childrenBelow Rendered.children) (node, 0) =
        fun address => (nodeAt? Rendered.children node address).map (·, address.length) := by
      funext address
      rw [nodeAt?_childrenBelow, Nat.zero_add]
    rw [hlevels] at haddresses
    refine ⟨gives_preorder horder (node, 0), ?_, haddresses, Rendered.outline_eq node indent⟩
    rw [Rendered.map_fst_levelled, Rendered.nodes_eq_preorder]

end AgentPanel
