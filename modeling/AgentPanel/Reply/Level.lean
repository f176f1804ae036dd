import AgentPanel.Json.Pointer
import AgentPanel.Payload.Component

/-!
# Levels of a decoded reply

A decoded reply need not be a payload, but levels can be told apart in it: the objects among its
components are at level one, and the objects among the children of an object are one level further.
-/

namespace AgentPanel.Reply

open Json (Value Members Pointer)

/-- The objects among the items of an array under a key. -/
def objectsUnder (key : Text) (members : Members) : List Members :=
  match members.get? key with
  | some (.array items) =>
    items.filterMap fun
      | .object inner => some inner
      | _ => none
  | _ => []

/-- The components at a level, from the first one to the last; the reply itself is above level
one. -/
def atLevel (reply : Members) : Nat → List Members
  | 0 => [reply]
  | 1 => objectsUnder "components" reply
  | level + 2 => (atLevel reply (level + 1)).flatMap (objectsUnder "children")

/-- The pointer leads so many levels down from a component, or further. -/
def leadsDown : Nat → Pointer → Bool
  | 0, _ => true
  | levels + 1, .key key :: .item _ :: rest => key = "children" && leadsDown levels rest
  | _ + 1, _ => false

/-- The pointer leads from a reply to a component below a level, or into one. -/
def leadsBelow (level : Nat) : Pointer → Bool
  | .key key :: .item _ :: rest => key = "components" && leadsDown level rest
  | _ => false

/-- The component has children. -/
def hasChildren (members : Members) : Bool :=
  match members.get? "children" with
  | some (.array items) => !items.isEmpty
  | _ => false

end AgentPanel.Reply
