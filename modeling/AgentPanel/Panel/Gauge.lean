import AgentPanel.Number.Numeral
import AgentPanel.Panel.Registry

/-!
# A gauge component

A gauge for one sensor reading, clamped to its range. Unlike the builtin components it fails on
properties that are not numbers, and like them on a label that has no text. `consoleRegistry` is a
registry with the gauge beside the builtin components.
-/

namespace AgentPanel.Gauge

open Json (Value Members)

/-- Why there is no gauge. -/
inductive Fault where
  /-- a property is a text that is no numeral -/
  | numeral (t : Text)
  /-- a property is a whole number beyond all doubles -/
  | tooLarge
  /-- a property is a value of another kind -/
  | kind (name : String)
  /-- the label has no text -/
  | label (fault : TextFault)
  deriving DecidableEq, Repr

/-- The text of the error. -/
def Fault.text : Fault → Text
  | numeral t => "could not convert string to float: " ++ t.quoted
  | tooLarge => "int too large to convert to float"
  | kind name => "float() argument must be a string or a real number, not '" ++ Text.ofString name
      ++ "'"
  | label fault => fault.message

/-- A value as a number. -/
def number (v : Value) : Except Fault Double :=
  match v with
  | .bool b => .ok (.ofInt (if b then 1 else 0))
  | .int n => if (Double.ofInt n).isFinite then .ok (.ofInt n) else .error .tooLarge
  | .float x => .ok x
  | .text t => match t.readDouble? with
    | some x => .ok x
    | none => .error (.numeral t)
  | v => .error (.kind v.kindName)

/-- A property as a number, with a default if it is missing. -/
def numberProp (props : Members) (name : Text) (default : Value) : Except Fault Double :=
  number ((props.get? name).getD default)

/-- A gauge with its label, its range, and its value brought into the range. -/
def gauge (props : Members) : Except Fault Element := do
  let low ← numberProp props "min" (.int 0)
  let high ← numberProp props "max" (.int 100)
  let value ← numberProp props "value" (.float low)
  let label ← ((props.get? "label").getD (.text [])).written?.mapError .label
  return ⟨"gauge", [
    ("label", .text label),
    ("value", .float ((value.atLeast low).atMost high)),
    ("min", .float low),
    ("max", .float high)]⟩

/-- The capability of a gauge. -/
def capability : Capability where
  label := "gauge"
  build props := match gauge props with
    | .ok e => .element e
    | .error e => .raised e.text

/-- The type tag of gauges. -/
def tag : Text := "sensor-gauge"

/-- The builtin components and the gauge, frozen. -/
def consoleRegistry : Registry :=
  { Registry.builtin with
    entries := Registry.builtin.entries.set tag capability
    frozen := true }

end AgentPanel.Gauge
