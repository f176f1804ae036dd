import AgentPanel.Checked
import AgentPanel.Payload.Component

/-!
# From values to payloads

Which decoded values are payloads, and which payload they are. An id or a version may be a number;
it becomes the text of that number. Missing or null properties and children are empty, a missing or
null version is the default one, and unknown keys are ignored. All faults of a value are counted,
except that two components with one id are a single fault, found only if there is no other.

Components are entered as far as the nesting limit allows. Whatever is nested deeper is a single
fault.
-/

namespace AgentPanel

open Json (Value Members)

/-- A text, or the text of a number. -/
def Json.Value.textOrNumber? : Value → Option Text
  | .text t => some t
  | .int n => some (Text.ofInt n)
  | .float x => some x.toText
  | _ => none

/-- A text. -/
def Json.Value.text? : Value → Option Text
  | .text t => some t
  | _ => none

namespace Component

/-- The id of a component: required, a text or a number. -/
def checkId (members : Members) : Checked Text :=
  .ofOption ((members.get? "id").bind Value.textOrNumber?)

/-- The type tag of a component: required, a text. -/
def checkType (members : Members) : Checked Text :=
  .ofOption ((members.get? "type").bind Value.text?)

/-- The properties of a component: an object, or nothing. -/
def checkProps (members : Members) : Checked Members :=
  match members.get? "props" with
  | none | some .null => .valid []
  | some (.object props) => .valid props
  | some _ => .faulty 1

mutual

/-- A value as a component with room for so many levels below it. -/
def checkWithin (room : Nat) : Value → Checked Component
  | .object members =>
    Component.mk <$> checkId members <*> checkType members <*> checkProps members
      <*> checkChildren room members
  | _ => .faulty 1

/-- The children among the members of a component: the value of their key, if it is there. -/
def checkChildren (room : Nat) : List (Text × Value) → Checked (List Component)
  | [] => .valid []
  | (key, value) :: rest =>
    if key = "children" then checkForest room value else checkChildren room rest

/-- The children of a component: an array of components, or nothing. -/
def checkForest (room : Nat) : Value → Checked (List Component)
  | .null => .valid []
  | .array items => checkAll room items
  | _ => .faulty 1

/-- Every item as a component, in room for so many levels. -/
def checkAll : (room : Nat) → List Value → Checked (List Component)
  | _, [] => .valid []
  | 0, _ :: rest => List.cons <$> .faulty 1 <*> checkAll 0 rest
  | room + 1, v :: rest => List.cons <$> checkWithin room v <*> checkAll (room + 1) rest

end

/-- A value as a component. -/
def check (v : Value) : Checked Component := checkWithin nestingLimit v

end Component

namespace Payload

/-- The version of a payload: a text or a number, or nothing. -/
def checkVersion (members : Members) : Checked Text :=
  match members.get? "version" with
  | none | some .null => .valid defaultVersion
  | some v => .ofOption v.textOrNumber?

/-- The components of a payload: required, an array. -/
def checkComponents (members : Members) : Checked (List Component) :=
  match members.get? "components" with
  | some (.array items) => Component.checkAll nestingLimit items
  | _ => .faulty 1

/-- The ids of all components, in render order. -/
def ids (p : Payload) : List Text := p.nodes.map Component.id

/-- Ids serve as keys of rendered nodes, so no two components may share one. -/
def checkIds (p : Payload) : Checked Payload := if p.ids.Nodup then .valid p else .faulty 1

/-- A value as a payload. -/
def check : Value → Checked Payload
  | .object members =>
    match Payload.mk <$> checkVersion members <*> checkComponents members with
    | .valid p => checkIds p
    | .faulty n => .faulty n
  | _ => .faulty 1

end Payload

end AgentPanel
