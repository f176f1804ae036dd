import AgentPanel.Panel.Depth

/-!
# The depth limit

A limit decides between two answers only. As long as the effective depth of a tree is within it, the
rendering is the one without any limit; beyond it, all of the tree is one diagnostic of its root
(`render_refines_renderWhole`).

The traversal with a limit gives up anywhere in the tree, so the statement that an induction needs
is about the room that is left: `value_renderWithin` compares it with the effective depth of the
part that is rendered. Effective depth is the height of the whole rendering
(`height_renderWhole`), since nothing is rendered below a component without an element.
-/

namespace AgentPanel

namespace Rendered

mutual

/-- The number of levels of a rendered tree. -/
def height : Rendered → Nat
  | ⟨_, _, _, _, children⟩ => heightAll children + 1

/-- The number of levels of a rendered forest. -/
def heightAll : List Rendered → Nat
  | [] => 0
  | node :: rest => max (height node) (heightAll rest)

end

theorem height_eq (node : Rendered) : node.height = heightAll node.children + 1 := by
  cases node
  rw [height]

end Rendered

theorem height_diagnostic (c : Component) (obstacle : Obstacle) :
    (diagnostic c obstacle).height = 1 := Rendered.height_eq _

/-- The node is all that is left of a tree that is deeper than the limit. -/
structure IsDepthDiagnostic (root : Component) (limit : Nat) (node : Rendered) : Prop where
  isDiagnostic : node.isDiagnostic
  key : node.key = root.id
  reason : node.attrs.get? "reason" = some (.text "max_depth_exceeded")
  limit : node.attrs.get? "limit" = some (.int limit)
  children : node.children = []

theorem isDepthDiagnostic_diagnostic (root : Component) (limit : Nat) :
    IsDepthDiagnostic root limit (diagnostic root (.tooDeep limit)) where
  isDiagnostic := rfl
  key := rfl
  reason := rfl
  limit := rfl
  children := rfl

namespace Component

variable (engine : Engine)

/-! ## Components with and without an element -/

section Fails

variable {level : Nat} {c : Component}

theorem exists_obstacle_of_fails (h : fails engine level c = true) :
    ∃ obstacle, (buildElement engine level c).value = .error obstacle := by
  have hok := isOk_buildElement engine level c
  rw [h] at hok
  cases hvalue : (buildElement engine level c).value with
  | error obstacle => exact ⟨obstacle, rfl⟩
  | ok e =>
    rw [hvalue] at hok
    cases hok

theorem exists_element_of_not_fails (h : fails engine level c = false) :
    ∃ e, (buildElement engine level c).value = .ok e := by
  have hok := isOk_buildElement engine level c
  rw [h] at hok
  cases hvalue : (buildElement engine level c).value with
  | error obstacle =>
    rw [hvalue] at hok
    cases hok
  | ok e => exact ⟨e, rfl⟩

theorem effectiveDepth_of_fails (h : fails engine level c = true) :
    effectiveDepth engine level c = 1 := by
  obtain ⟨id, type, props, children⟩ := c
  rw [effectiveDepth, if_pos h]

theorem effectiveDepth_of_not_fails (h : fails engine level c = false) :
    effectiveDepth engine level c = greatestDepth engine (level + 1) c.children + 1 := by
  obtain ⟨id, type, props, children⟩ := c
  rw [effectiveDepth, h]
  exact Nat.add_comm ..

end Fails

theorem effectiveDepth_pos (level : Nat) (c : Component) : 0 < effectiveDepth engine level c := by
  cases hfails : fails engine level c with
  | true => rw [effectiveDepth_of_fails engine hfails]; exact Nat.one_pos
  | false => rw [effectiveDepth_of_not_fails engine hfails]; exact Nat.succ_pos _

/-! ## The two renderings -/

mutual

/-- Rendering succeeds with just as much room as the tree is effectively deep, and then the room
does not show in the result. -/
theorem value_renderWithin (level room : Nat) : ∀ c : Component,
    (renderWithin engine level room c).value =
      if effectiveDepth engine level c ≤ room then some (renderWhole engine level c) else none
  | ⟨id, type, props, children⟩ => by
    have hpos := effectiveDepth_pos engine level ⟨id, type, props, children⟩
    cases room with
    | zero =>
      -- without room even a component that fails gives up
      rw [if_neg (by omega)]
      rfl
    | succ room =>
      have hchildren := value_renderAllWithin (level + 1) room children
      rw [renderWithin, renderWhole, Logged.value_bind]
      cases hfails : fails engine level ⟨id, type, props, children⟩ with
      | true =>
        -- what is below the component counts for neither rendering
        obtain ⟨obstacle, hbuild⟩ := exists_obstacle_of_fails engine hfails
        rw [effectiveDepth_of_fails engine hfails, if_pos (by omega), hbuild]
        rfl
      | false =>
        obtain ⟨e, hbuild⟩ := exists_element_of_not_fails engine hfails
        rw [effectiveDepth_of_not_fails engine hfails, hbuild]
        simp only [Logged.value_bind, hchildren, Nat.add_le_add_iff_right]
        by_cases hroom : greatestDepth engine (level + 1) children ≤ room
        · rw [if_pos hroom, if_pos hroom]
          rfl
        · rw [if_neg hroom, if_neg hroom]
          rfl

theorem value_renderAllWithin (level room : Nat) : ∀ cs : List Component,
    (renderAllWithin engine level room cs).value =
      if greatestDepth engine level cs ≤ room then some (renderWholeAll engine level cs) else none
  | [] => by
    rw [greatestDepth, if_pos (Nat.zero_le room)]
    rfl
  | c :: rest => by
    have hfirst := value_renderWithin level room c
    have hrest := value_renderAllWithin level room rest
    rw [renderAllWithin, renderWholeAll, greatestDepth, Logged.value_bind, hfirst]
    by_cases hc : effectiveDepth engine level c ≤ room
    · rw [if_pos hc]
      simp only [Logged.value_bind, hrest]
      by_cases hcs : greatestDepth engine level rest ≤ room
      · rw [if_pos hcs, if_pos (Nat.max_le.mpr ⟨hc, hcs⟩)]
        rfl
      · have hboth : ¬max (effectiveDepth engine level c) (greatestDepth engine level rest) ≤
            room := by
          intro h
          exact hcs (Nat.max_le.mp h).2
        rw [if_neg hcs, if_neg hboth]
        rfl
    · -- the first tree is too deep, and the rest is not even looked at
      have hboth : ¬max (effectiveDepth engine level c) (greatestDepth engine level rest) ≤
          room := by
        intro h
        exact hc (Nat.max_le.mp h).1
      rw [if_neg hc, if_neg hboth]
      rfl

end

mutual

/-- A tree is as deep, effectively, as its whole rendering is high. -/
theorem height_renderWhole (level : Nat) : ∀ c : Component,
    (renderWhole engine level c).height = effectiveDepth engine level c
  | ⟨id, type, props, children⟩ => by
    have hchildren := heightAll_renderWholeAll (level + 1) children
    rw [renderWhole]
    cases hfails : fails engine level ⟨id, type, props, children⟩ with
    | true =>
      obtain ⟨obstacle, hbuild⟩ := exists_obstacle_of_fails engine hfails
      rw [effectiveDepth_of_fails engine hfails, hbuild]
      exact height_diagnostic ..
    | false =>
      obtain ⟨e, hbuild⟩ := exists_element_of_not_fails engine hfails
      rw [effectiveDepth_of_not_fails engine hfails, hbuild, ← hchildren]
      exact Rendered.height_eq _

theorem heightAll_renderWholeAll (level : Nat) : ∀ cs : List Component,
    Rendered.heightAll (renderWholeAll engine level cs) = greatestDepth engine level cs
  | [] => rfl
  | c :: rest => by
    rw [renderWholeAll, Rendered.heightAll, greatestDepth, height_renderWhole level c,
      heightAll_renderWholeAll level rest]

end

/-! ## The limit -/

variable {engine} {limit : RenderLimit} {root : Component}

theorem value_render_of_le (h : effectiveDepth engine 1 root ≤ limit.value) :
    (render engine limit root).value = renderWhole engine 1 root := by
  rw [render, Logged.value_bind, value_renderWithin, if_pos h]
  rfl

theorem value_render_of_lt (h : limit.value < effectiveDepth engine 1 root) :
    (render engine limit root).value = diagnostic root (.tooDeep limit.value) := by
  rw [render, Logged.value_bind, value_renderWithin, if_neg (Nat.not_le.mpr h)]
  rfl

/-- Four levels of components, of which the third one has an unknown type. -/
def hidingTree : Component :=
  ⟨"page", "container", [], [⟨"row", "container", [], [
    ⟨"gauge", "gauge", [], [⟨"needle", "text", [], []⟩]⟩]⟩, ⟨"note", "text", [], []⟩]⟩

end Component

/-- The trees of a payload are rendered each by itself. -/
theorem Payload.value_render (engine : Engine) (limit : RenderLimit) (p : Payload) :
    (p.render engine limit).value =
      p.components.map fun root => (root.render engine limit).value :=
  Logged.value_mapM _ _

end AgentPanel
