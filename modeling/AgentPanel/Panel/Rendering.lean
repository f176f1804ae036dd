import AgentPanel.Panel.Registry
import AgentPanel.Panel.Rendered
import AgentPanel.Payload.Component

/-!
# Rendering

Each component is resolved against a registry. A component whose type is unknown or whose capability
fails becomes a diagnostic without children; its neighbours are not affected. A tree that is deeper
than the limit fails closed: all of it becomes a single diagnostic.

Each component stands on a level of its tree, the root on level 1. The level matters to the limit,
and to the copying of properties.
-/

namespace AgentPanel

open Json (Members)

/-- How deep rendered trees may be: from 1 to 127, so below the depth that a payload keeps. -/
structure RenderLimit where
  value : Nat
  pos : 1 ≤ value := by decide
  lt : value < deepestLevel := by decide
  deriving DecidableEq, Repr

namespace RenderLimit

/-- A whole number as a limit, if it is in range. -/
def ofInt? (n : Int) : Option RenderLimit :=
  if h : 1 ≤ n.toNat ∧ n.toNat < deepestLevel then some ⟨n.toNat, h.1, h.2⟩ else none

/-- What is wrong with a number out of range. -/
def rangeMessage : Text :=
  "max_depth must be between 1 and " ++ Text.ofNat (deepestLevel - 1)

/-- The limit of an engine that is given none. -/
def standard : RenderLimit := ⟨64, by decide, by decide⟩

end RenderLimit

/-- What trees are rendered with: the registry that types are resolved in, and the copies that are
made of properties. -/
structure Engine where
  registry : Registry
  copying : Copying

namespace Engine

/-- The engine of the program for a registry. -/
def standard (registry : Registry) : Engine := ⟨registry, .standard⟩

/-- An engine with the builtin components alone. -/
def builtin (copying : Copying) : Engine := ⟨.builtin, copying⟩

end Engine

/-- Why a component has no element. -/
inductive Obstacle where
  /-- its type is not registered -/
  | unknownType
  /-- its tree is deeper than the limit -/
  | tooDeep (limit : Nat)
  /-- its capability raised an error, or could not be given its properties -/
  | raised (text : Text)
  /-- its capability gave no element -/
  | noElement
  deriving DecidableEq, Repr

namespace Obstacle

/-- The reason that a diagnostic states. -/
def reason : Obstacle → Text
  | unknownType => "unknown_type"
  | tooDeep _ => "max_depth_exceeded"
  | raised _ | noElement => "render_failed"

/-- The message that a diagnostic shows for a component of the given type. -/
def message (type : Text) : Obstacle → Text
  | unknownType => "[SYSTEM_ERROR] Unknown Interface Node: " ++ type
  | tooDeep limit => "[SYSTEM_ERROR] Interface tree exceeds maximum depth " ++ Text.ofNat limit
  | raised text => "[SYSTEM_ERROR] Failed to render " ++ type ++ ": " ++ text
  | noElement => "[SYSTEM_ERROR] Failed to render " ++ type

/-- What a diagnostic states beyond reason, message and type. -/
def details : Obstacle → Members
  | tooDeep limit => [("limit", .int limit)]
  | _ => []

end Obstacle

/-- The node that stands for a component without an element. -/
def diagnostic (c : Component) (obstacle : Obstacle) : Rendered where
  key := c.id
  type := c.type
  kind := Rendered.diagnosticKind
  attrs :=
    ("reason", .text obstacle.reason) :: ("message", .text (obstacle.message c.type)) ::
      ("unresolved_type", .text c.type) :: obstacle.details
  children := []

/-- The element of a component on this level, or why it has none. -/
def buildElement (engine : Engine) (level : Nat) (c : Component) :
    Logged (Except Obstacle Element) :=
  match engine.registry.resolve c.type with
  | none => do
    report .debug .rendering
      ("Unknown A2UI node type '" ++ c.type ++ "' (id=" ++ c.id ++ ")")
    return .error .unknownType
  | some capability =>
    match capability.apply engine.copying level c.props with
    | .element e => return .ok e
    | .raised text => do
      report .error .rendering
        ("A2UI capability for '" ++ c.type ++ "' failed (id=" ++ c.id ++ ")")
      return .error (.raised text)
    | .other kind => do
      report .error .rendering
        ("A2UI capability for '" ++ c.type ++ "' returned " ++ kind ++ ", expected Element")
      return .error .noElement

namespace Component

mutual

/-- Renders a component on this level with room for so many levels; nothing if it needs more. -/
def renderWithin (engine : Engine) (level room : Nat) : Component → Logged (Option Rendered)
  | ⟨id, type, props, children⟩ =>
    match room with
    | 0 => return none
    | room + 1 => do
      match ← buildElement engine level ⟨id, type, props, children⟩ with
      | .error obstacle => return some (diagnostic ⟨id, type, props, children⟩ obstacle)
      | .ok e =>
        match ← renderAllWithin engine (level + 1) room children with
        | none => return none
        | some nodes => return some ⟨id, type, e.kind, e.attrs, nodes⟩

/-- Renders components one by one; nothing as soon as one of them needs more room. -/
def renderAllWithin (engine : Engine) (level room : Nat) :
    List Component → Logged (Option (List Rendered))
  | [] => return some []
  | c :: rest => do
    match ← renderWithin engine level room c with
    | none => return none
    | some node =>
      match ← renderAllWithin engine level room rest with
      | none => return none
      | some nodes => return some (node :: nodes)

end

/-- Renders a tree of components. -/
def render (engine : Engine) (limit : RenderLimit) (root : Component) : Logged Rendered := do
  match ← renderWithin engine 1 limit.value root with
  | some node => return node
  | none =>
    report .warning .rendering ("A2UI tree under '" ++ root.id ++ "' exceeds max render depth " ++
      Text.ofNat limit.value)
    return diagnostic root (.tooDeep limit.value)

end Component

/-- Renders the trees of a payload one by one. -/
def Payload.render (engine : Engine) (limit : RenderLimit) (p : Payload) :
    Logged (List Rendered) :=
  p.components.mapM (Component.render engine limit)

end AgentPanel
