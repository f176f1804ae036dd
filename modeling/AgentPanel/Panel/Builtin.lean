import AgentPanel.Json.Showing
import AgentPanel.Panel.Element

/-!
# The builtin components

Text, button, statistics card and the two containers of the monitoring console. Each of them takes
whatever the properties hold and falls back to a default. What it shows are texts, so it fails in
one case: a property that it shows holds an integer of too many digits for a text. The depth of the
properties is never in the way, since they are a copy, and copying takes more of the stack than
writing does.
-/

namespace AgentPanel.Builtin

open Json (Value Members)

/-- A property as a text: the default if it is missing or null, else the text of the value. -/
def textProp (props : Members) (name : Text) (default : Text := []) : Except TextFault Text :=
  match props.get? name with
  | none | some .null => .ok default
  | some v => v.written?

/-- A text, or the default in place of the empty one. -/
def orDefault (t default : Text) : Text := if t.isEmpty then default else t

/-- The styles of a text. -/
def textStyles : List Text := ["title", "body", "caption"]

/-- The style of a text whose style is missing or unknown. -/
def defaultTextStyle : Text := "body"

/-- The colour of a button that names none. -/
def defaultButtonColor : Text := "primary"

/-- The accent of a card without a colour class. -/
def defaultAccentClass : Text := "bg-primary"

/-- A text in one of the known styles. -/
def text (props : Members) : Except TextFault Element := do
  let style ← textProp props "style" defaultTextStyle
  let content ← textProp props "content"
  return ⟨"text", [
    ("content", .text content),
    ("style", .text (if textStyles.contains style then style else defaultTextStyle))]⟩

/-- A button with a label and a colour. -/
def button (props : Members) : Except TextFault Element := do
  let label ← textProp props "label"
  let color ← textProp props "color"
  return ⟨"button", [
    ("label", .text label),
    ("color", .text (orDefault color defaultButtonColor))]⟩

/-- The accent class that goes with a colour class: the text colour as a background. -/
def accentClass (colorClass : Text) : Text :=
  if colorClass.isEmpty then defaultAccentClass else colorClass.replace "text-" "bg-"

/-- A card that shows one reading; an empty icon is no icon. -/
def statCard (props : Members) : Except TextFault Element := do
  let colorClass ← textProp props "colorClass"
  let icon ← textProp props "icon"
  let title ← textProp props "title"
  let value ← textProp props "value"
  return ⟨"stat-card", [
    ("title", .text title),
    ("value", .text value),
    ("icon", if icon.isEmpty then .null else .text icon),
    ("color_class", .text colorClass),
    ("accent_class", .text (accentClass colorClass))]⟩

/-- A container with the given layout, whatever its properties. -/
def container (layout : Text) (_ : Members) : Except TextFault Element :=
  .ok ⟨"container", [("layout", .text layout)]⟩

/-- The builtin types, each with what it builds. -/
def components : List (Text × (Members → Except TextFault Element)) := [
  ("text", text),
  ("button", button),
  ("stat-card", statCard),
  ("container", container "stack"),
  ("grid-container", container "grid")]

/-- The capability of a builtin type. -/
def capability (type : Text) (build : Members → Except TextFault Element) : Capability where
  label := "builtin:" ++ type
  build props := match build props with
    | .ok e => .element e
    | .error fault => .raised fault.message

end AgentPanel.Builtin
