import AgentPanel.Payload.Component

/-!
# Cutting over-deep subtrees

A decoded reply may nest components deeper than a payload keeps. Before it is checked, every
component at the last level that has children loses them. Only objects count as components, and
only arrays as their children; the roots are at level one.
-/

namespace AgentPanel.Reply

open Json (Value Members)

mutual

/-- The value with no children left at the last level or below, if it stands at `level`. -/
def cutNode (level : Nat) : Value → Value
  | .object members => .object (cutMembers level members)
  | v => v

/-- The members of a component at `level`: its children are cut, all else stays. -/
def cutMembers (level : Nat) : List (Text × Value) → List (Text × Value)
  | [] => []
  | (key, v) :: rest =>
    if key = "children" then (key, cutChildren level v) :: rest
    else (key, v) :: cutMembers level rest

/-- The children of a component at `level`. -/
def cutChildren (level : Nat) : Value → Value
  | .array items => .array (if deepestLevel ≤ level then [] else cutItems (level + 1) items)
  | v => v

/-- The children at `level`, one by one. -/
def cutItems (level : Nat) : List Value → List Value
  | [] => []
  | v :: rest => cutNode level v :: cutItems level rest

end

mutual

/-- How many components lose their children, in a value at `level`. -/
def countCuts (level : Nat) : Value → Nat
  | .object members => countMemberCuts level members
  | _ => 0

/-- How many do among the members of a component at `level`. -/
def countMemberCuts (level : Nat) : List (Text × Value) → Nat
  | [] => 0
  | (key, v) :: rest =>
    if key = "children" then countChildCuts level v else countMemberCuts level rest

/-- How many do in the children of a component at `level`, itself included. -/
def countChildCuts (level : Nat) : Value → Nat
  | .array items =>
    if deepestLevel ≤ level then if items.isEmpty then 0 else 1 else countItemCuts (level + 1) items
  | _ => 0

/-- How many do in values at `level`. -/
def countItemCuts (level : Nat) : List Value → Nat
  | [] => 0
  | v :: rest => countCuts level v + countItemCuts level rest

end

/-- The components of a reply, cut from level one on. -/
def cutRoots : Value → Value
  | .array roots => .array (cutItems 1 roots)
  | v => v

/-- The members of a reply with its components cut. -/
def cutDeep : Members → Members
  | [] => []
  | (key, v) :: rest =>
    if key = "components" then (key, cutRoots v) :: rest else (key, v) :: cutDeep rest

/-- How many components of a reply are cut. -/
def cutCount (members : Members) : Nat :=
  match members.get? "components" with
  | some (.array roots) => countItemCuts 1 roots
  | _ => 0

end AgentPanel.Reply
