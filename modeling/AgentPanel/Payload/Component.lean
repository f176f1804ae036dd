import AgentPanel.Json.Value

/-!
# Payloads

A payload is one message of the agent: a version and a forest of components. A component has an
id, a type tag from an open set, properties and children.

`walk` visits a forest with an explicit stack, each component before its children. The order is
the one in which components are rendered: the pre-order of the tree (`nodes_eq_preorder`).
-/

namespace AgentPanel

/-- One unit of user interface that the agent asks for. -/
structure Component where
  id : Text
  type : Text
  props : Json.Members
  children : List Component
  deriving Repr

namespace Component

mutual

/-- The same component: same id, type and properties, and the same children in the same order. -/
def same : Component → Component → Bool
  | ⟨i, t, p, cs⟩, ⟨j, u, q, ds⟩ => i = j && (t = u && (p = q && sameAll cs ds))

/-- Component by component the same. -/
def sameAll : List Component → List Component → Bool
  | [], [] => true
  | c :: cs, d :: ds => same c d && sameAll cs ds
  | _, _ => false

end

mutual

theorem same_iff : ∀ a b : Component, same a b = true ↔ a = b
  | ⟨_, _, _, cs⟩, ⟨_, _, _, ds⟩ => by simp [same, sameAll_iff cs ds]

theorem sameAll_iff : ∀ as bs : List Component, sameAll as bs = true ↔ as = bs
  | [], bs => by cases bs <;> simp [sameAll]
  | a :: as, bs => by
    cases bs with
    | nil => simp [sameAll]
    | cons b bs => simp [sameAll, same_iff a b, sameAll_iff as bs]

end

instance : DecidableEq Component := fun a b => decidable_of_iff _ (same_iff a b)

/-! ## Visiting -/

mutual

/-- The number of components in a tree. -/
def size : Component → Nat
  | ⟨_, _, _, children⟩ => sizeAll children + 1

/-- The number of components in a forest. -/
def sizeAll : List Component → Nat
  | [] => 0
  | c :: rest => size c + sizeAll rest

end

theorem sizeAll_append (cs ds : List Component) :
    sizeAll (cs ++ ds) = sizeAll cs + sizeAll ds := by
  induction cs with
  | nil => simp [sizeAll]
  | cons c cs ih => simp [sizeAll, ih, Nat.add_assoc]

theorem size_eq (c : Component) : c.size = sizeAll c.children + 1 := by
  cases c; simp [size]

/-- Visits the components of a stack, the top first; the children of a visited component go on top
of the stack. -/
def walk : List Component → List Component
  | [] => []
  | c :: rest => c :: walk (c.children ++ rest)
termination_by stack => sizeAll stack
decreasing_by simp [sizeAll_append, sizeAll, size_eq]

/-- A component and all below it, in render order. -/
def nodes (c : Component) : List Component := walk [c]

mutual

/-- A component, and then what its children hold, child by child. -/
def preorder : Component → List Component
  | ⟨id, type, props, children⟩ => ⟨id, type, props, children⟩ :: preorderAll children

/-- The components of a forest, tree by tree. -/
def preorderAll : List Component → List Component
  | [] => []
  | c :: rest => preorder c ++ preorderAll rest

end

theorem preorder_eq (c : Component) : c.preorder = c :: preorderAll c.children := by
  cases c; simp [preorder]

theorem preorderAll_eq_flatMap (cs : List Component) : preorderAll cs = cs.flatMap preorder := by
  induction cs with
  | nil => rfl
  | cons c cs ih => rw [preorderAll, ih, List.flatMap_cons]

theorem preorderAll_append (cs ds : List Component) :
    preorderAll (cs ++ ds) = preorderAll cs ++ preorderAll ds := by
  simp [preorderAll_eq_flatMap]

theorem walk_eq_preorderAll (stack : List Component) : walk stack = preorderAll stack := by
  fun_induction walk stack with
  | case1 => simp [preorderAll]
  | case2 c rest ih => simp [preorderAll, preorder_eq, ih, preorderAll_append]

theorem nodes_eq_preorder (c : Component) : c.nodes = c.preorder := by
  simp [nodes, walk_eq_preorderAll, preorderAll]

mutual

/-- The pre-order of a tree on the given level, each component with its own level. -/
def levelled (level : Nat) : Component → List (Component × Nat)
  | ⟨id, type, props, children⟩ =>
    (⟨id, type, props, children⟩, level) :: levelledAll (level + 1) children

/-- The pre-order of a forest on the given level, each component with its own level. -/
def levelledAll (level : Nat) : List Component → List (Component × Nat)
  | [] => []
  | c :: rest => levelled level c ++ levelledAll level rest

end

/-! ## Height -/

mutual

/-- The number of levels of a tree. -/
def height : Component → Nat
  | ⟨_, _, _, children⟩ => heightAll children + 1

/-- The number of levels of a forest. -/
def heightAll : List Component → Nat
  | [] => 0
  | c :: rest => max (height c) (heightAll rest)

end

end Component

/-- So many levels may be nested in a payload, or in a component by itself, when it is read or
written. -/
def nestingLimit : Nat := 254

/-- The version that a payload has if it gives none. -/
def defaultVersion : Text := "1.0"

/-- The deepest level of components that a parsed payload keeps. -/
def deepestLevel : Nat := 128

/-- One complete message of the agent. -/
structure Payload where
  version : Text
  components : List Component
  deriving DecidableEq, Repr

namespace Payload

/-- All components of a payload, in render order. -/
def nodes (p : Payload) : List Component := p.components.flatMap Component.nodes

end Payload

end AgentPanel
