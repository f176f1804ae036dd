import AgentPanel.Panel.Rendering

/-!
# How deep a rendered tree is

A component that fails hides what is below it, so the depth that a limit bounds is not that of the
component tree. `effectiveDepth` is the depth that counts, `renderWhole` is the rendering without
any limit, and `visible` are the components that are left when all below a failing one is taken
away, each with its level. All of them begin on a given level, since the level of a component may
decide whether it fails.
-/

namespace AgentPanel.Component

variable (engine : Engine)

/-- The component has no element on this level: its type is unknown, or its capability does not give
one. -/
def fails (level : Nat) (c : Component) : Bool :=
  match engine.registry.resolve c.type with
  | none => true
  | some capability =>
    match capability.apply engine.copying level c.props with
    | .element _ => false
    | .raised _ | .other _ => true

section Resolved

variable {engine} {level : Nat} {c : Component}

theorem value_buildElement_of_none (h : engine.registry.resolve c.type = none) :
    (buildElement engine level c).value = .error .unknownType := by
  simp only [buildElement, h, Logged.value_bind, Logged.value_pure]

variable {capability : Capability} (hresolve : engine.registry.resolve c.type = some capability)

include hresolve

theorem value_buildElement_of_element {e : Element}
    (h : capability.apply engine.copying level c.props = .element e) :
    (buildElement engine level c).value = .ok e := by
  simp only [buildElement, hresolve, h, Logged.value_pure]

theorem value_buildElement_of_raised {text : Text}
    (h : capability.apply engine.copying level c.props = .raised text) :
    (buildElement engine level c).value = .error (.raised text) := by
  simp only [buildElement, hresolve, h, Logged.value_bind, Logged.value_pure]

theorem value_buildElement_of_other {kind : Text}
    (h : capability.apply engine.copying level c.props = .other kind) :
    (buildElement engine level c).value = .error .noElement := by
  simp only [buildElement, hresolve, h, Logged.value_bind, Logged.value_pure]

end Resolved

theorem isOk_buildElement (level : Nat) (c : Component) :
    (buildElement engine level c).value.isOk = !fails engine level c := by
  rw [fails]
  cases hresolve : engine.registry.resolve c.type with
  | none =>
    rw [value_buildElement_of_none hresolve]
    rfl
  | some capability =>
    dsimp only
    cases happly : capability.apply engine.copying level c.props with
    | element e =>
      rw [value_buildElement_of_element hresolve happly]
      rfl
    | raised text =>
      rw [value_buildElement_of_raised hresolve happly]
      rfl
    | other kind =>
      rw [value_buildElement_of_other hresolve happly]
      rfl

mutual

/-- The depth of a tree without what is hidden below failing components. -/
def effectiveDepth (level : Nat) : Component → Nat
  | ⟨id, type, props, children⟩ =>
    if fails engine level ⟨id, type, props, children⟩ then 1
    else 1 + greatestDepth (level + 1) children

/-- The greatest depth in a forest, zero in the empty one. -/
def greatestDepth (level : Nat) : List Component → Nat
  | [] => 0
  | c :: rest => max (effectiveDepth level c) (greatestDepth level rest)

end

mutual

/-- The components of a tree that are not hidden below a failing one, in pre-order, each with its
level. -/
def visible (level : Nat) : Component → List (Component × Nat)
  | ⟨id, type, props, children⟩ =>
    (⟨id, type, props, children⟩, level) ::
      if fails engine level ⟨id, type, props, children⟩ then []
      else visibleAll (level + 1) children

/-- The components of a forest that are not hidden, tree by tree. -/
def visibleAll (level : Nat) : List Component → List (Component × Nat)
  | [] => []
  | c :: rest => visible level c ++ visibleAll level rest

end

mutual

/-- Renders a tree of any depth. -/
def renderWhole (level : Nat) : Component → Rendered
  | ⟨id, type, props, children⟩ =>
    match (buildElement engine level ⟨id, type, props, children⟩).value with
    | .error obstacle => diagnostic ⟨id, type, props, children⟩ obstacle
    | .ok e => ⟨id, type, e.kind, e.attrs, renderWholeAll (level + 1) children⟩

/-- Renders the trees of a forest, each of any depth. -/
def renderWholeAll (level : Nat) : List Component → List Rendered
  | [] => []
  | c :: rest => renderWhole level c :: renderWholeAll level rest

end

end AgentPanel.Component
