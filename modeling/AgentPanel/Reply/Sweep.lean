import AgentPanel.Json.Pointer
import AgentPanel.Payload.Component

/-!
# Cutting a decoded reply in place

The cut of over-deep subtrees visits the components of a decoded reply one after the other, without
recursion: the places that are still to be visited wait on a stack, and a component on the last
level loses its children where it stands. The reply changes while places in it wait.
-/

namespace AgentPanel

open Json (Value Members Pointer PointerStep)

namespace Json.Value

/-- The value with another part where one step leads. -/
def setPart : Value → PointerStep → Value → Value
  | object members, .key key, part => object (Keyed.set key part members)
  | array items, .item index, part => array (items.set index part)
  | v, _, _ => v

/-- The value with another part at the end of a pointer; unchanged where the pointer leads
nowhere. -/
def put (v : Value) : Pointer → Value → Value
  | [], part => part
  | step :: rest, part =>
    match v.part? step with
    | some inner => v.setPart step (inner.put rest part)
    | none => v

end Json.Value

namespace Reply

/-- A place that waits for its visit, with its level. -/
structure Place where
  pointer : Pointer
  level : Nat
  deriving DecidableEq, Repr

/-- A reply that is being cut. -/
structure Sweep where
  /-- the reply as it is now -/
  document : Value
  /-- the places to visit, the next one first -/
  pending : List Place
  /-- how many components were cut -/
  cuts : Nat

namespace Sweep

/-- The places of an array's items from `index` on. They go on the stack in order, so the last one
is on top. -/
def places (array : Pointer) (level index : Nat) : List Value → List Place
  | [] => []
  | _ :: rest => places array level (index + 1) rest ++ [⟨array ++ [.item index], level⟩]

/-- Before the first visit. -/
def start (reply : Members) : Sweep :=
  match Keyed.get? "components" reply with
  | some (.array roots) => ⟨.object reply, places [.key "components"] 1 0 roots, 0⟩
  | _ => ⟨.object reply, [], 0⟩

/-- After one more visit: a component with children loses them if it is on the last level, and else
its children wait for their visits. -/
def next : Sweep → Sweep
  | ⟨document, here :: pending, cuts⟩ =>
    match document.at? here.pointer with
    | some (.object members) =>
      match Keyed.get? "children" members with
      | some (.array (child :: rest)) =>
        if deepestLevel ≤ here.level then
          let cut := Keyed.set "children" (.array []) members
          ⟨document.put here.pointer (.object cut), pending, cuts + 1⟩
        else
          let children := here.pointer ++ [.key "children"]
          ⟨document, places children (here.level + 1) 0 (child :: rest) ++ pending, cuts⟩
      | _ => ⟨document, pending, cuts⟩
    | _ => ⟨document, pending, cuts⟩
  | sweep => sweep

/-- After so many visits. -/
def after (sweep : Sweep) : Nat → Sweep
  | 0 => sweep
  | visits + 1 => after sweep.next visits

end Sweep

end Reply

end AgentPanel
