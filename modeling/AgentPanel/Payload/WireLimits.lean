import AgentPanel.Payload.Wire

/-!
# What the wire keeps and what it bears

The wire form of a payload loses the numbers that are not finite, and a payload that nests too
deeply has none. Here stand the payload that comes through, the number of levels that are nested in
a payload, and the keys and numbers inside its properties.
-/

namespace AgentPanel

open Json (Value Members)

/-- No lone surrogate stands in the text. -/
def Text.HasNoSurrogate (t : Text) : Prop := ∀ c ∈ t, c.isSurrogate = false

instance (t : Text) : Decidable t.HasNoSurrogate :=
  inferInstanceAs (Decidable (∀ c ∈ t, c.isSurrogate = false))

namespace Json.Value

mutual

/-- How many levels a value takes on the wire: one, and those of its deepest part. -/
def levels : Value → Nat
  | array items => itemLevels items + 1
  | object members => memberLevels members + 1
  | _ => 1

/-- The levels of the deepest item. -/
def itemLevels : List Value → Nat
  | [] => 0
  | v :: rest => max (levels v) (itemLevels rest)

/-- The levels of the deepest member. -/
def memberLevels : List (Text × Value) → Nat
  | [] => 0
  | (_, v) :: rest => max (levels v) (memberLevels rest)

end

mutual

/-- All keys of the objects in a value. -/
def keys : Value → List Text
  | array items => itemKeys items
  | object members => memberKeys members
  | _ => []

/-- The keys in items. -/
def itemKeys : List Value → List Text
  | [] => []
  | v :: rest => keys v ++ itemKeys rest

/-- The keys of members and those in their values. -/
def memberKeys : List (Text × Value) → List Text
  | [] => []
  | (key, v) :: rest => key :: (keys v ++ memberKeys rest)

end

mutual

/-- All doubles in a value. -/
def doubles : Value → List Double
  | float x => [x]
  | array items => itemDoubles items
  | object members => memberDoubles members
  | _ => []

/-- The doubles in items. -/
def itemDoubles : List Value → List Double
  | [] => []
  | v :: rest => doubles v ++ itemDoubles rest

/-- The doubles in the values of members. -/
def memberDoubles : List (Text × Value) → List Double
  | [] => []
  | (_, v) :: rest => doubles v ++ memberDoubles rest

end

end Json.Value

namespace Component

mutual

/-- How many levels a component takes on the wire: one, and those of its deepest property or
child. -/
def levels : Component → Nat
  | ⟨_, _, props, children⟩ => max (Value.memberLevels props) (levelsAll children) + 1

/-- The levels of the deepest component of a forest. -/
def levelsAll : List Component → Nat
  | [] => 0
  | c :: rest => max (levels c) (levelsAll rest)

end

mutual

/-- The component with null for each number in its properties, and in those below it, that is not
finite. -/
def finite : Component → Component
  | ⟨id, type, props, children⟩ => ⟨id, type, Value.finiteMembers props, finiteAll children⟩

/-- Component by component. -/
def finiteAll : List Component → List Component
  | [] => []
  | c :: rest => finite c :: finiteAll rest

end

end Component

namespace Payload

variable (p : Payload)

/-- How many levels a payload takes on the wire. -/
def levels : Nat := Component.levelsAll p.components

/-- The payload with null for each number in its properties that is not finite. -/
def finite : Payload := ⟨p.version, Component.finiteAll p.components⟩

/-- All keys in the properties of a payload. -/
def keys : List Text := p.nodes.flatMap fun c => Value.memberKeys c.props

/-- All doubles in the properties of a payload. -/
def doubles : List Double := p.nodes.flatMap fun c => Value.memberDoubles c.props

end Payload

end AgentPanel
