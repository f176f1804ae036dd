import AgentPanel.Json.Value

/-!
# Rendered trees

What rendering gives: a tree of nodes, each with the key and the type of its component, a kind and
attributes. A node of kind `diagnostic` stands for a component that could not be rendered.

`walk` visits a stack of nodes, each before its children, and `outline` is the tree as plain text:
one summary per node, indented by its level. Both follow the pre-order of the tree
(`nodes_eq_preorder`, `walkLevels_eq_levelled`).
-/

namespace AgentPanel

open Json (Value Members)

/-- One node of the rendered tree. -/
structure Rendered where
  key : Text
  type : Text
  kind : Text
  attrs : Members
  children : List Rendered
  deriving Repr

namespace Rendered

mutual

/-- The same node: same fields, and the same children in the same order. -/
def same : Rendered → Rendered → Bool
  | ⟨k, t, i, a, cs⟩, ⟨l, u, j, b, ds⟩ =>
    k = l && (t = u && (i = j && (a = b && sameAll cs ds)))

/-- Node by node the same. -/
def sameAll : List Rendered → List Rendered → Bool
  | [], [] => true
  | c :: cs, d :: ds => same c d && sameAll cs ds
  | _, _ => false

end

mutual

theorem same_iff : ∀ a b : Rendered, same a b = true ↔ a = b
  | ⟨_, _, _, _, cs⟩, ⟨_, _, _, _, ds⟩ => by simp [same, sameAll_iff cs ds]

theorem sameAll_iff : ∀ as bs : List Rendered, sameAll as bs = true ↔ as = bs
  | [], bs => by cases bs <;> simp [sameAll]
  | a :: as, bs => by
    cases bs with
    | nil => simp [sameAll]
    | cons b bs => simp [sameAll, same_iff a b, sameAll_iff as bs]

end

instance : DecidableEq Rendered := fun a b => decidable_of_iff _ (same_iff a b)

/-- The kind of the nodes that report a failure. -/
def diagnosticKind : Text := "diagnostic"

/-- The node reports a failure. -/
def isDiagnostic (node : Rendered) : Bool := node.kind = diagnosticKind

/-! ## Visiting -/

mutual

/-- The number of nodes in a tree. -/
def size : Rendered → Nat
  | ⟨_, _, _, _, children⟩ => sizeAll children + 1

/-- The number of nodes in a forest. -/
def sizeAll : List Rendered → Nat
  | [] => 0
  | c :: rest => size c + sizeAll rest

end

theorem sizeAll_append (cs ds : List Rendered) :
    sizeAll (cs ++ ds) = sizeAll cs + sizeAll ds := by
  induction cs with
  | nil => simp [sizeAll]
  | cons c cs ih => simp [sizeAll, ih, Nat.add_assoc]

theorem size_eq (node : Rendered) : node.size = sizeAll node.children + 1 := by
  cases node; simp [size]

/-- Visits the nodes of a stack, the top first; the children of a visited node go on top of the
stack. -/
def walk : List Rendered → List Rendered
  | [] => []
  | node :: rest => node :: walk (node.children ++ rest)
termination_by stack => sizeAll stack
decreasing_by simp [sizeAll_append, sizeAll, size_eq]

/-- A node and all below it, in order. -/
def nodes (node : Rendered) : List Rendered := walk [node]

mutual

/-- A node, and then what its children hold, child by child. -/
def preorder : Rendered → List Rendered
  | ⟨key, type, kind, attrs, children⟩ => ⟨key, type, kind, attrs, children⟩ :: preorderAll children

/-- The nodes of a forest, tree by tree. -/
def preorderAll : List Rendered → List Rendered
  | [] => []
  | node :: rest => preorder node ++ preorderAll rest

end

theorem preorder_eq (node : Rendered) : node.preorder = node :: preorderAll node.children := by
  cases node; simp [preorder]

theorem preorderAll_eq_flatMap (nodes : List Rendered) :
    preorderAll nodes = nodes.flatMap preorder := by
  induction nodes with
  | nil => rfl
  | cons node nodes ih => rw [preorderAll, ih, List.flatMap_cons]

theorem preorderAll_append (cs ds : List Rendered) :
    preorderAll (cs ++ ds) = preorderAll cs ++ preorderAll ds := by
  simp [preorderAll_eq_flatMap]

theorem walk_eq_preorderAll (stack : List Rendered) : walk stack = preorderAll stack := by
  fun_induction walk stack with
  | case1 => simp [preorderAll]
  | case2 node rest ih => simp [preorderAll, preorder_eq, ih, preorderAll_append]

theorem nodes_eq_preorder (node : Rendered) : node.nodes = node.preorder := by
  simp [nodes, walk_eq_preorderAll, preorderAll]

/-- Nodes, all on the same level. -/
def onLevel (level : Nat) (nodes : List Rendered) : List (Rendered × Nat) := nodes.map (·, level)

theorem map_fst_onLevel (level : Nat) (nodes : List Rendered) :
    (onLevel level nodes).map Prod.fst = nodes := by
  simp [onLevel, Function.comp_def]

/-- Visits a stack of nodes with their levels, the top first. -/
def walkLevels : List (Rendered × Nat) → List (Rendered × Nat)
  | [] => []
  | (node, level) :: rest => (node, level) :: walkLevels (onLevel (level + 1) node.children ++ rest)
termination_by stack => sizeAll (stack.map Prod.fst)
decreasing_by simp [sizeAll_append, sizeAll, size_eq, map_fst_onLevel]

mutual

/-- The pre-order of a tree on the given level, each node with its own level. -/
def levelled (level : Nat) : Rendered → List (Rendered × Nat)
  | ⟨key, type, kind, attrs, children⟩ =>
    (⟨key, type, kind, attrs, children⟩, level) :: levelledAll (level + 1) children

/-- The pre-order of a forest on the given level, each node with its own level. -/
def levelledAll (level : Nat) : List Rendered → List (Rendered × Nat)
  | [] => []
  | node :: rest => levelled level node ++ levelledAll level rest

end

theorem levelled_eq (level : Nat) (node : Rendered) :
    levelled level node = (node, level) :: levelledAll (level + 1) node.children := by
  cases node; simp [levelled]

theorem levelledAll_eq_flatMap (level : Nat) (nodes : List Rendered) :
    levelledAll level nodes =
      (onLevel level nodes).flatMap fun p => levelled p.2 p.1 := by
  induction nodes with
  | nil => simp [levelledAll, onLevel]
  | cons node nodes ih => simp_all [levelledAll, onLevel]

theorem walkLevels_eq_levelled (stack : List (Rendered × Nat)) :
    walkLevels stack = stack.flatMap fun p => levelled p.2 p.1 := by
  fun_induction walkLevels stack with
  | case1 => simp
  | case2 node level rest ih =>
    rw [ih, List.flatMap_append, ← levelledAll_eq_flatMap, List.flatMap_cons, levelled_eq,
      List.cons_append]

/-! ## The outline -/

/-- Attributes that an outline leaves out: null and the empty text. -/
def isHidden : Value → Bool
  | .null => true
  | .text t => t.isEmpty
  | _ => false

/-- The attributes of a summary. -/
def shownAttrs (attrs : Members) : Text :=
  Text.join ", " ((attrs.filter fun (_, v) => !isHidden v).map fun (k, v) => k ++ "=" ++ v.literal)

/-- One node in an outline: its kind, key and attributes, or the message that it reports. -/
def summary (node : Rendered) : Text :=
  if node.isDiagnostic then
    "! " ++ ((node.attrs.get? "message").getD (.text "diagnostic")).shown ++ " [" ++ node.key ++ "]"
  else
    let shown := shownAttrs node.attrs
    let attrs : Text := if shown.isEmpty then [] else " " ++ shown
    node.kind ++ "[" ++ node.key ++ "]" ++ attrs

/-- One line of an outline. -/
def outlineLine (indent : Text) (node : Rendered) (level : Nat) : Text :=
  Text.times level indent ++ node.summary

/-- The tree as plain text, one line per node. -/
def outline (node : Rendered) (indent : Text := "  ") : Text :=
  Text.join ['\n'] ((walkLevels [(node, 0)]).map fun (node, level) =>
    outlineLine indent node level)

/-! ## The tree as a value -/

mutual

/-- The tree as a JSON value. -/
def toValue : Rendered → Value
  | ⟨key, type, kind, attrs, children⟩ => .object [
      ("key", .text key), ("type", .text type), ("kind", .text kind), ("attrs", .object attrs),
      ("children", .array (toValues children))]

/-- The trees of a forest as JSON values. -/
def toValues : List Rendered → List Value
  | [] => []
  | node :: rest => toValue node :: toValues rest

end

end Rendered

end AgentPanel
