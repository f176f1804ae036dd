import AgentPanel.Payload.Component
import AgentPanel.Text.Utf8

/-!
# The wire form

A payload as a JSON value: the same components with all four fields of each. JSON has no numbers
that are not finite, so inside properties they become null. The name of a property is written even
if it holds a lone surrogate, with replacement characters in its place.

Two things cannot be written: a key further inside a property that holds a lone surrogate, and what
is nested too deeply. On the way down, a component counts as one level, and so does every value
inside its properties.
-/

namespace AgentPanel

open Json (Value Members)

/-! ## What cannot be written -/

/-- Why a payload has no wire form. -/
inductive WireFault where
  /-- something is nested too deeply -/
  | tooDeep
  /-- a key holds these lone surrogates at this position -/
  | unwritableKey (position : Nat) (surrogates : Text)
  deriving DecidableEq, Repr

/-- The message of a fault. -/
def WireFault.message : WireFault → Text
  | tooDeep => "Maximum serialization depth exceeded"
  | unwritableKey position surrogates => Text.unwritableMessage position surrogates

/-- Why a key cannot be written, if it cannot. -/
def keyFault? (key : Text) : Option WireFault :=
  (Text.loneSurrogates? key).map fun (position, surrogates) => .unwritableKey position surrogates

namespace Json.Value

mutual

/-- The first reason why a value cannot be written in room for so many levels. -/
def wireFault? : (room : Nat) → Value → Option WireFault
  | 0, _ => some .tooDeep
  | room + 1, array items => itemsFault? room items
  | room + 1, object members => membersFault? room members
  | _ + 1, _ => none

/-- The first reason among items. -/
def itemsFault? (room : Nat) : List Value → Option WireFault
  | [] => none
  | v :: rest => (wireFault? room v).orElse fun _ => itemsFault? room rest

/-- The first reason among members; the key of a member comes before its value. -/
def membersFault? (room : Nat) : List (Text × Value) → Option WireFault
  | [] => none
  | (key, v) :: rest =>
    (keyFault? key).orElse fun _ => (wireFault? room v).orElse fun _ => membersFault? room rest

end

end Json.Value

namespace Component

/-- The first reason among the values of properties. -/
def propsFault? (room : Nat) (props : Members) : Option WireFault :=
  props.findSome? fun (_, v) => v.wireFault? room

mutual

/-- The first reason why a component cannot be written with room for so many levels below it. -/
def wireFault? (room : Nat) : Component → Option WireFault
  | ⟨_, _, props, children⟩ =>
    (propsFault? room props).orElse fun _ => wireFaultAll? room children

/-- The first reason why a forest cannot be written in room for so many levels. -/
def wireFaultAll? : (room : Nat) → List Component → Option WireFault
  | _, [] => none
  | 0, _ :: _ => some .tooDeep
  | room + 1, c :: rest => (wireFault? room c).orElse fun _ => wireFaultAll? (room + 1) rest

end

end Component

/-! ## What is written -/

namespace Json.Value

mutual

/-- The value with null for each number that is not finite. -/
def finite : Value → Value
  | float x => if x.isFinite then float x else null
  | array items => array (finiteItems items)
  | object members => object (finiteMembers members)
  | v => v

/-- Item by item. -/
def finiteItems : List Value → List Value
  | [] => []
  | v :: rest => finite v :: finiteItems rest

/-- Member by member; keys stay. -/
def finiteMembers : List (Text × Value) → List (Text × Value)
  | [] => []
  | (k, v) :: rest => (k, finite v) :: finiteMembers rest

end

end Json.Value

namespace Component

/-- Properties under names that can be written. Of two that come to have one name, the second gives
the value. -/
def wireProps (props : Members) : Members :=
  Keyed.overlay [] ((Value.finiteMembers props).map fun (name, v) =>
    (Text.withReplacedSurrogates name, v))

mutual

/-- The fields of a component, one by one. -/
def wireForm : Component → Value
  | ⟨id, type, props, children⟩ => .object [
      ("id", .text id), ("type", .text type), ("props", .object (wireProps props)),
      ("children", .array (wireForms children))]

/-- The wire forms of a forest. -/
def wireForms : List Component → List Value
  | [] => []
  | c :: rest => wireForm c :: wireForms rest

end

/-- The wire form of a component, or the first reason why it has none. -/
def toWire (c : Component) : Except WireFault Value :=
  match c.wireFault? nestingLimit with
  | some fault => .error fault
  | none => .ok c.wireForm

end Component

namespace Payload

/-- The fields of a payload, one by one. -/
def wireForm (p : Payload) : Value :=
  .object [("version", .text p.version), ("components", .array (Component.wireForms p.components))]

/-- The wire form of a payload, or the first reason why it has none. -/
def toWire (p : Payload) : Except WireFault Value :=
  match Component.wireFaultAll? nestingLimit p.components with
  | some fault => .error fault
  | none => .ok p.wireForm

end Payload

end AgentPanel
