import AgentPanel.Proofs.Panel.BuiltinComponents
import AgentPanel.Proofs.Panel.Shape

/-!
# What the builtin components show

A rendered tree is compared with the component tree along the visible components. With the builtin
components, the type alone decides whether a node is a diagnostic of an unknown type. With a known
type the node is a well-formed element (`Builtin.Shows`), unless the properties cannot be copied:
then a failure is what is to be seen. `Payload.render_shows` says so of every node of a payload.

An integer without a text in a property that a component reads is a failure, too. So the statements
about failures leave aside such properties, and no others.
-/

namespace AgentPanel

open Json (Value Members)

/-! ## One component -/

/-- The node is a diagnostic for the given reason. -/
def Rendered.Reports (reason : Text) (node : Rendered) : Prop :=
  node.isDiagnostic ∧ node.attrs.get? "reason" = some (.text reason)

theorem reports_diagnostic_iff {c : Component} {obstacle : Obstacle} {reason : Text} :
    (diagnostic c obstacle).Reports reason ↔ obstacle.reason = reason := by
  constructor
  · rintro ⟨-, hreason⟩
    exact Value.text.inj (Option.some.inj hreason)
  · rintro rfl
    exact ⟨rfl, rfl⟩

namespace Component

/-- The node stands for the component on this level where the builtin components are registered. The
type alone decides whether it is unknown; with a known one the component fails if its properties
cannot be copied, and else it shows a well-formed element. -/
structure ShownBuiltin (copying : Copying) (c : Component) (level : Nat) (node : Rendered) :
    Prop where
  key : node.key = c.id
  type : node.type = c.type
  unknown_iff : node.Reports "unknown_type" ↔ c.type ∉ Builtin.tags
  failed_iff : Builtin.readsLongInt c.type c.props = false →
    (node.Reports "render_failed" ↔
      c.type ∈ Builtin.tags ∧ (copying.fault? level c.props).isSome)
  shows : node.isDiagnostic = false → Builtin.Shows node.type node.kind node.attrs

variable {copying : Copying} {level : Nat} {c : Component}

theorem shownBuiltin_diagnostic {obstacle : Obstacle}
    (h : (buildElement (.builtin copying) level c).value = .error obstacle) :
    ShownBuiltin copying c level (diagnostic c obstacle) := by
  have hreasons : Text.ofString "unknown_type" ≠ Text.ofString "render_failed" := by decide
  have hcases := builtBuiltin copying level c
  rw [h] at hcases
  cases hcases with
  | unknown notBuiltin =>
    exact {
      key := rfl
      type := rfl
      unknown_iff := reports_diagnostic_iff.trans (iff_of_true rfl notBuiltin)
      failed_iff := fun _ => reports_diagnostic_iff.trans
        (iff_of_false hreasons fun hboth => notBuiltin hboth.1)
      shows := nofun }
  | notCopied known fault =>
    exact {
      key := rfl
      type := rfl
      unknown_iff := reports_diagnostic_iff.trans
        (iff_of_false hreasons.symm (not_not_intro known))
      failed_iff := fun _ => reports_diagnostic_iff.trans
        (iff_of_true rfl ⟨known, Option.isSome_of_eq_some fault⟩)
      shows := nofun }
  | notWritten known copied long =>
    -- the one failure that is left aside
    exact {
      key := rfl
      type := rfl
      unknown_iff := reports_diagnostic_iff.trans
        (iff_of_false hreasons.symm (not_not_intro known))
      failed_iff := fun hshort => absurd (long.symm.trans hshort) nofun
      shows := nofun }

theorem shownBuiltin_built {e : Element} (nodes : List Rendered)
    (h : (buildElement (.builtin copying) level c).value = .ok e) :
    ShownBuiltin copying c level ⟨c.id, c.type, e.kind, e.attrs, nodes⟩ := by
  have hcases := builtBuiltin copying level c
  rw [h] at hcases
  cases hcases with
  | built known copied shows =>
    have helement : Rendered.isDiagnostic ⟨c.id, c.type, e.kind, e.attrs, nodes⟩ = false :=
      decide_eq_false shows.kind_ne
    have hreports : ∀ reason,
        ¬Rendered.Reports reason ⟨c.id, c.type, e.kind, e.attrs, nodes⟩ := by
      rintro reason ⟨hdiagnostic, -⟩
      rw [helement] at hdiagnostic
      cases hdiagnostic
    have hcopied : ¬(copying.fault? level c.props).isSome := by
      rw [copied]
      exact nofun
    exact {
      key := rfl
      type := rfl
      unknown_iff := iff_of_false (hreports _) (not_not_intro known)
      failed_iff := fun _ => iff_of_false (hreports _) fun hboth => hcopied hboth.2
      shows := fun _ => shows }

/-! ## Trees -/

/-- What a root becomes with the builtin components: a single diagnostic if its tree is deeper than
the limit, else a tree in which a well-formed node stands for each visible component. -/
inductive RenderedBuiltin (copying : Copying) (limit : RenderLimit) (root : Component)
    (node : Rendered) : Prop
  | tooDeep (deep : limit.value < effectiveDepth (.builtin copying) 1 root)
      (only : IsDepthDiagnostic root limit.value node)
  | whole (within : effectiveDepth (.builtin copying) 1 root ≤ limit.value)
      (nodes : List.Forall₂ (fun p node => ShownBuiltin copying p.1 p.2 node)
        (visible (.builtin copying) 1 root) node.nodes)

theorem renderedBuiltin_render (copying : Copying) (limit : RenderLimit) (root : Component) :
    RenderedBuiltin copying limit root (render (.builtin copying) limit root).value := by
  by_cases hwithin : effectiveDepth (.builtin copying) 1 root ≤ limit.value
  · rw [value_render_of_le hwithin]
    refine .whole hwithin ?_
    rw [Rendered.nodes_eq_preorder]
    exact forall₂_preorder_renderWhole (fun _ _ _ => shownBuiltin_diagnostic)
      (fun _ _ _ nodes => shownBuiltin_built nodes) 1 root
  · have hdeep : limit.value < effectiveDepth (.builtin copying) 1 root := Nat.not_le.mp hwithin
    rw [value_render_of_lt hdeep]
    exact .tooDeep hdeep (isDepthDiagnostic_diagnostic root limit.value)

/-- The properties of a component on this level can be copied, and a component of its type can read
them. -/
def IsReadable (copying : Copying) (c : Component) (level : Nat) : Prop :=
  copying.fault? level c.props = none ∧ Builtin.readsLongInt c.type c.props = false

instance : Decidable (IsReadable copying c level) := inferInstanceAs (Decidable (_ ∧ _))

/-- No node reports a failure where all properties are readable. -/
theorem RenderedBuiltin.not_failed {limit : RenderLimit} {root : Component} {node : Rendered}
    (h : RenderedBuiltin copying limit root node)
    (hreadable : ∀ p ∈ root.levelled 1, IsReadable copying p.1 p.2) :
    ∀ inner ∈ node.nodes, ¬inner.Reports "render_failed" := by
  cases h with
  | tooDeep deep only =>
    rw [Rendered.nodes_eq_preorder, Rendered.preorder_eq, only.children]
    rintro inner hinner ⟨-, hreason⟩
    cases List.mem_singleton.mp hinner
    have hreasons : Text.ofString "max_depth_exceeded" ≠ Text.ofString "render_failed" := by decide
    exact hreasons (Value.text.inj (Option.some.inj (only.reason.symm.trans hreason)))
  | whole within nodes =>
    intro inner hinner hfailed
    obtain ⟨⟨c, level⟩, hc, hshown⟩ := exists_of_mem_right nodes hinner
    obtain ⟨hcopied, hshort⟩ := hreadable _ ((visible_sublist_levelled _ 1 root).subset hc)
    obtain ⟨-, hfault⟩ := (hshown.failed_iff hshort).mp hfailed
    rw [hcopied] at hfault
    cases hfault

end Component

namespace Payload

/-! ## Payloads -/

/-- A payload is rendered with the builtin components root by root. A root within the limit becomes
a tree in which each node stands for a visible component: as a diagnostic if the type is none of the
builtin ones, as one of failure if the properties cannot be copied on their level, and else with a
well-formed element, whatever the properties hold. So no node reports a failure if all properties
are readable. -/
theorem render_shows (copying : Copying) (p : Payload) (limit : RenderLimit) :
    List.Forall₂ (Component.RenderedBuiltin copying limit) p.components
        (p.render (.builtin copying) limit).value ∧
      ((∀ root ∈ p.components, ∀ placed ∈ root.levelled 1,
          Component.IsReadable copying placed.1 placed.2) →
        ∀ root ∈ (p.render (.builtin copying) limit).value, ∀ node ∈ root.nodes,
          ¬node.Reports "render_failed") := by
  have hroots : List.Forall₂ (Component.RenderedBuiltin copying limit) p.components
      (p.render (.builtin copying) limit).value := by
    rw [value_render, List.forall₂_map_right_iff, List.forall₂_same]
    intro root _
    exact Component.renderedBuiltin_render copying limit root
  refine ⟨hroots, ?_⟩
  intro hreadable root hroot
  obtain ⟨c, hc, hrendered⟩ := exists_of_mem_right hroots hroot
  exact hrendered.not_failed (hreadable c hc)

/-- A card whose texts are no texts and whose colour class holds overlapping text colours, beside a
component of unknown type. -/
def oddPage : Payload where
  version := defaultVersion
  components := [⟨"page", "container", [("layout", .bool true)], [
    ⟨"card", "stat-card", [("title", .array [.null, .int 7]), ("icon", .text []),
      ("colorClass", .text "texttext-text-tetext-xt-")], []⟩,
    ⟨"dial", "gauge", [], []⟩]⟩]

/-- All properties of the odd page are readable, so nothing on it fails. -/
theorem render_shows_oddPage :
    (∀ root ∈ oddPage.components, ∀ placed ∈ root.levelled 1,
        Component.IsReadable .standard placed.1 placed.2) ∧
      (∀ root ∈ (oddPage.render (.builtin .standard) .standard).value, ∀ node ∈ root.nodes,
        ¬node.Reports "render_failed") ∧
      ((oddPage.render (.builtin .standard) .standard).value.map fun root =>
        root.preorder.map fun node => node.attrs.get? "accent_class") =
          [[none, some (.text "textbg-bg-tebg-xt-"), none]] := by
  have hreadable : ∀ root ∈ oddPage.components, ∀ placed ∈ root.levelled 1,
      Component.IsReadable .standard placed.1 placed.2 := by decide +kernel
  exact ⟨hreadable, (render_shows .standard oddPage .standard).2 hreadable, by decide +kernel⟩

/-- A text with one more property, which the builtin texts do not look at: arrays, one inside the
other. -/
def deepText : Payload where
  version := defaultVersion
  components := [⟨"a", "text",
    [("content", .text "hi"), ("d", Nat.repeat (fun v => .array [v]) 569 (.array []))], []⟩]

/-- A property that nests too deep to be copied makes a builtin text fail. -/
theorem exists_failed_deepText :
    ∃ node ∈ (deepText.render (.builtin .standard) .standard).value,
      node.Reports "render_failed" := by
  have hnodes : (deepText.render (.builtin .standard) .standard).value.map (fun node =>
      (node.isDiagnostic, node.attrs.get? "reason")) =
        [(true, some (.text "render_failed"))] := by decide +kernel
  obtain ⟨node, hnode, hreason⟩ := List.mem_map.mp (hnodes ▸ List.mem_cons_self)
  exact ⟨node, hnode, congrArg Prod.fst hreason, congrArg Prod.snd hreason⟩

end Payload

end AgentPanel
