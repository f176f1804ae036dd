import AgentPanel.Json.Value

/-!
# Elements and capabilities

A capability turns the properties of one component into an element; the children of the component
are not its business. Properties come from a language model, so a capability may fail, or give
something that is no element: these are outcomes, not accidents.

A capability is handed a copy of the properties, so the component stays as it is. Copying takes the
more of the stack the deeper the properties nest, and the stack is the shorter the deeper the
component stands in its tree. Where it gives out depends on the program around the engine, so what
comes of a copy is a parameter, `Copying`; properties that are not copied are an outcome too.
-/

namespace AgentPanel

/-- What a capability makes of a single component. -/
structure Element where
  kind : Text
  attrs : Json.Members
  deriving DecidableEq, Repr

/-- How a capability ends. An error whose own text cannot be made is left out. -/
inductive Outcome where
  /-- with an element -/
  | element (e : Element)
  /-- with an error; its text -/
  | raised (text : Text)
  /-- with something else, of the named kind -/
  | other (kind : Text)
  deriving DecidableEq, Repr

/-- A way to build the elements of one type of component. The label tells capabilities apart, since
functions cannot be compared. -/
structure Capability where
  label : Text
  build : Json.Members → Outcome

/-- What comes of the copies that an engine makes of the properties of components. -/
structure Copying where
  /-- The text of the error that copying properties ends in for a component on this level of its
  tree, if they cannot be copied. -/
  fault? : Nat → Json.Members → Option Text
  /-- Properties without arrays and objects can always be copied for a root. -/
  flat (props : Json.Members) : Json.Value.memberDepth props = 0 → fault? 1 props = none
  /-- The text of an error is a single line. -/
  oneLine (level : Nat) (props : Json.Members) (text : Text) :
    fault? level props = some text → .scalar '\n' ∉ text

namespace Copying

/-- The levels that there is room for on the stack of the program, those of the tree above the
properties and those of the properties together. -/
def standardRoom : Nat := 498

/-- The copying of the program. -/
def standard : Copying where
  fault? level props :=
    if level + Json.Value.memberDepth props ≤ standardRoom then none
    else some "maximum recursion depth exceeded while calling a Python object"
  flat props h := by
    rw [h]
    rfl
  oneLine level props text h := by
    split at h
    · cases h
    · cases h
      decide

end Copying

namespace Capability

/-- What a capability makes of a copy of the properties of a component on this level. It is not
asked if there is no copy. -/
def apply (copying : Copying) (level : Nat) (c : Capability) (props : Json.Members) : Outcome :=
  match copying.fault? level props with
  | some text => .raised text
  | none => c.build props

variable {copying : Copying} {level : Nat} {props : Json.Members}

/-- A copy is as good as the properties themselves. -/
theorem apply_eq_build (c : Capability) (h : copying.fault? level props = none) :
    c.apply copying level props = c.build props := by
  rw [apply, h]

theorem apply_eq_raised (c : Capability) {text : Text}
    (h : copying.fault? level props = some text) :
    c.apply copying level props = .raised text := by
  rw [apply, h]

end Capability

end AgentPanel
