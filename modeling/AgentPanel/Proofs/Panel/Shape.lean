import Mathlib.Data.List.Forall2
import AgentPanel.Proofs.Panel.DepthLimit
import AgentPanel.Proofs.Payload.Grammar

/-!
# The shape of a rendered tree

A tree within the limit is rendered node by node (`Component.Mirrors`): a component with an element
becomes a node with this element and with one child for each of its children, in order, and one
without an element a diagnostic without children. So a rendered tree lists, in pre-order, the
visible components, whose ids stand as keys. `Payload.render_mirrors` says so of the trees of a
payload, and that the keys of all of them are distinct because the ids are.

A tree and its rendering can be compared node by node along the visible components: what holds of
each single component and its node holds of all of them (`forall₂_preorder_renderWhole`).
-/

namespace AgentPanel

open Json (Members)

/-! ## Lists side by side -/

theorem exists_of_mem_right {α β : Type} {R : α → β → Prop} {as : List α} {bs : List β} {b : β}
    (h : List.Forall₂ R as bs) (hb : b ∈ bs) : ∃ a ∈ as, R a b := by
  induction h with
  | nil => cases hb
  | @cons a _ as _ head _ ih =>
    rcases List.mem_cons.mp hb with rfl | hrest
    · exact ⟨a, List.mem_cons_self, head⟩
    · obtain ⟨a', ha', hrel⟩ := ih hrest
      exact ⟨a', List.mem_cons_of_mem a ha', hrel⟩

/-! ## What stands for a component -/

/-- The node reports, for the given reason, that the component has no element. -/
structure IsDiagnosticOf (c : Component) (reason : Text) (node : Rendered) : Prop where
  key : node.key = c.id
  type : node.type = c.type
  isDiagnostic : node.isDiagnostic
  reason : node.attrs.get? "reason" = some (.text reason)
  children : node.children = []

/-- The key of a node and its type. -/
def Rendered.tag (node : Rendered) : Text × Text := (node.key, node.type)

namespace Component

/-- The id of a component and its type. -/
def tag (c : Component) : Text × Text := (c.id, c.type)

mutual

/-- The tree shows the component on this level: its element over the trees that show its children,
or, without children, why it has no element. -/
inductive Mirrors (engine : Engine) : Nat → Component → Rendered → Prop
  | unknown {level : Nat} {c : Component} {node : Rendered}
      (unresolved : engine.registry.resolve c.type = none)
      (leaf : IsDiagnosticOf c "unknown_type" node) : Mirrors engine level c node
  | failed {level : Nat} {c : Component} {node : Rendered} {capability : Capability}
      (resolved : engine.registry.resolve c.type = some capability)
      (noElement : ∀ e, capability.apply engine.copying level c.props ≠ .element e)
      (leaf : IsDiagnosticOf c "render_failed" node) : Mirrors engine level c node
  | built {level : Nat} {id type : Text} {props : Members} {children : List Component}
      {nodes : List Rendered} {capability : Capability} {e : Element}
      (resolved : engine.registry.resolve type = some capability)
      (element : capability.apply engine.copying level props = .element e)
      (all : MirrorsAll engine (level + 1) children nodes) :
      Mirrors engine level ⟨id, type, props, children⟩ ⟨id, type, e.kind, e.attrs, nodes⟩

/-- The trees show the components on this level, one by one. -/
inductive MirrorsAll (engine : Engine) : Nat → List Component → List Rendered → Prop
  | nil {level : Nat} : MirrorsAll engine level [] []
  | cons {level : Nat} {c : Component} {cs : List Component} {node : Rendered}
      {nodes : List Rendered} (head : Mirrors engine level c node)
      (tail : MirrorsAll engine level cs nodes) : MirrorsAll engine level (c :: cs) (node :: nodes)

end

/-- What a root becomes: a single diagnostic if its tree is deeper than the limit, else a tree that
shows it and lists its visible components. -/
inductive RenderedAs (engine : Engine) (limit : RenderLimit) (root : Component)
    (node : Rendered) : Prop
  | tooDeep (deep : limit.value < effectiveDepth engine 1 root)
      (only : IsDepthDiagnostic root limit.value node)
  | whole (within : effectiveDepth engine 1 root ≤ limit.value)
      (mirrors : Mirrors engine 1 root node)
      (order : node.nodes.map Rendered.tag = (visible engine 1 root).map fun p => tag p.1)

variable (engine : Engine) {level : Nat}

/-! ## One component -/

theorem mirrors_diagnostic {c : Component} {obstacle : Obstacle}
    (h : (buildElement engine level c).value = .error obstacle) :
    Mirrors engine level c (diagnostic c obstacle) := by
  cases hresolve : engine.registry.resolve c.type with
  | none =>
    cases h.symm.trans (value_buildElement_of_none hresolve)
    exact .unknown hresolve ⟨rfl, rfl, rfl, rfl, rfl⟩
  | some capability =>
    cases happly : capability.apply engine.copying level c.props with
    | element e =>
      cases h.symm.trans (value_buildElement_of_element hresolve happly)
    | raised text =>
      cases h.symm.trans (value_buildElement_of_raised hresolve happly)
      exact .failed hresolve (by rw [happly]; exact nofun) ⟨rfl, rfl, rfl, rfl, rfl⟩
    | other kind =>
      cases h.symm.trans (value_buildElement_of_other hresolve happly)
      exact .failed hresolve (by rw [happly]; exact nofun) ⟨rfl, rfl, rfl, rfl, rfl⟩

theorem exists_capability_of_ok {c : Component} {e : Element}
    (h : (buildElement engine level c).value = .ok e) :
    ∃ capability, engine.registry.resolve c.type = some capability ∧
      capability.apply engine.copying level c.props = .element e := by
  cases hresolve : engine.registry.resolve c.type with
  | none => cases h.symm.trans (value_buildElement_of_none hresolve)
  | some capability =>
    refine ⟨capability, rfl, ?_⟩
    cases happly : capability.apply engine.copying level c.props with
    | element e' =>
      cases h.symm.trans (value_buildElement_of_element hresolve happly)
      rfl
    | raised text => cases h.symm.trans (value_buildElement_of_raised hresolve happly)
    | other kind => cases h.symm.trans (value_buildElement_of_other hresolve happly)

/-! ## Trees -/

mutual

theorem mirrors_renderWhole (level : Nat) : ∀ c : Component,
    Mirrors engine level c (renderWhole engine level c)
  | ⟨id, type, props, children⟩ => by
    have hchildren := mirrorsAll_renderWholeAll (level + 1) children
    rw [renderWhole]
    cases hvalue : (buildElement engine level ⟨id, type, props, children⟩).value with
    | error obstacle => exact mirrors_diagnostic engine hvalue
    | ok e =>
      obtain ⟨capability, hresolve, happly⟩ := exists_capability_of_ok engine hvalue
      exact .built hresolve happly hchildren

theorem mirrorsAll_renderWholeAll (level : Nat) : ∀ cs : List Component,
    MirrorsAll engine level cs (renderWholeAll engine level cs)
  | [] => .nil
  | c :: rest => .cons (mirrors_renderWhole level c) (mirrorsAll_renderWholeAll level rest)

end

theorem visible_of_fails {c : Component} (h : fails engine level c = true) :
    visible engine level c = [(c, level)] := by
  obtain ⟨id, type, props, children⟩ := c
  rw [visible, if_pos h]

theorem visible_of_not_fails {c : Component} (h : fails engine level c = false) :
    visible engine level c = (c, level) :: visibleAll engine (level + 1) c.children := by
  obtain ⟨id, type, props, children⟩ := c
  rw [visible, h]
  rfl

/-! ## Along the visible components -/

section Along

variable {engine} {R : Component → Nat → Rendered → Prop} {P : Rendered → Prop}

mutual

/-- What holds of each single component on its level and its node holds all along the visible
components of a tree and its nodes. -/
theorem forall₂_preorder_renderWhole
    (hfailed : ∀ level c obstacle, (buildElement engine level c).value = .error obstacle →
      R c level (diagnostic c obstacle))
    (hbuilt : ∀ level (c : Component) e nodes, (buildElement engine level c).value = .ok e →
      R c level ⟨c.id, c.type, e.kind, e.attrs, nodes⟩) (level : Nat) :
    ∀ c : Component, List.Forall₂ (fun p node => R p.1 p.2 node) (visible engine level c)
      (renderWhole engine level c).preorder
  | ⟨id, type, props, children⟩ => by
    have hchildren := forall₂_preorderAll_renderWholeAll hfailed hbuilt (level + 1) children
    rw [renderWhole]
    cases hfails : fails engine level ⟨id, type, props, children⟩ with
    | true =>
      obtain ⟨obstacle, hbuild⟩ := exists_obstacle_of_fails engine hfails
      rw [visible_of_fails engine hfails, hbuild]
      exact .cons (hfailed _ _ _ hbuild) .nil
    | false =>
      obtain ⟨e, hbuild⟩ := exists_element_of_not_fails engine hfails
      rw [visible_of_not_fails engine hfails, hbuild]
      exact .cons (hbuilt _ _ _ _ hbuild) hchildren

theorem forall₂_preorderAll_renderWholeAll
    (hfailed : ∀ level c obstacle, (buildElement engine level c).value = .error obstacle →
      R c level (diagnostic c obstacle))
    (hbuilt : ∀ level (c : Component) e nodes, (buildElement engine level c).value = .ok e →
      R c level ⟨c.id, c.type, e.kind, e.attrs, nodes⟩) (level : Nat) :
    ∀ cs : List Component, List.Forall₂ (fun p node => R p.1 p.2 node)
      (visibleAll engine level cs) (Rendered.preorderAll (renderWholeAll engine level cs))
  | [] => .nil
  | c :: rest => by
    have hfirst := forall₂_preorder_renderWhole hfailed hbuilt level c
    have hrest := forall₂_preorderAll_renderWholeAll hfailed hbuilt level rest
    rw [visibleAll, renderWholeAll, Rendered.preorderAll]
    exact List.rel_append hfirst hrest

end

/-- What holds of the node of each single component holds of all nodes of a tree. -/
theorem forall_preorder_renderWhole
    (hfailed : ∀ level c obstacle, (buildElement engine level c).value = .error obstacle →
      P (diagnostic c obstacle))
    (hbuilt : ∀ level (c : Component) e nodes, (buildElement engine level c).value = .ok e →
      P ⟨c.id, c.type, e.kind, e.attrs, nodes⟩) (level : Nat) (c : Component) :
    ∀ node ∈ (renderWhole engine level c).preorder, P node := by
  intro node hnode
  have hnodes := forall₂_preorder_renderWhole (R := fun _ _ node => P node) hfailed hbuilt level c
  obtain ⟨_, -, hholds⟩ := exists_of_mem_right hnodes hnode
  exact hholds

end Along

/-- In pre-order, the nodes of a tree are those of its visible components. -/
theorem map_tag_preorder_renderWhole (level : Nat) (c : Component) :
    (renderWhole engine level c).preorder.map Rendered.tag =
      (visible engine level c).map fun p => tag p.1 := by
  have hnodes : List.Forall₂ (fun p node => tag p.1 = node.tag) (visible engine level c)
      (renderWhole engine level c).preorder :=
    forall₂_preorder_renderWhole (R := fun c _ node => tag c = node.tag) (fun _ _ _ _ => rfl)
      (fun _ _ _ _ _ => rfl) level c
  have htags := List.forall₂_map_left_iff.mpr (List.forall₂_map_right_iff.mpr hnodes)
  rw [List.forall₂_eq_eq_eq] at htags
  exact htags.symm

mutual

theorem map_fst_levelled (level : Nat) : ∀ c : Component,
    (c.levelled level).map Prod.fst = c.preorder
  | ⟨id, type, props, children⟩ => by
    rw [levelled, preorder, List.map_cons, map_fst_levelledAll (level + 1) children]

theorem map_fst_levelledAll (level : Nat) : ∀ cs : List Component,
    (levelledAll level cs).map Prod.fst = preorderAll cs
  | [] => rfl
  | c :: rest => by
    rw [levelledAll, preorderAll, List.map_append, map_fst_levelled level c,
      map_fst_levelledAll level rest]

end

mutual

/-- The visible components of a tree are some of its components, each on its own level. -/
theorem visible_sublist_levelled (level : Nat) : ∀ c : Component,
    (visible engine level c).Sublist (c.levelled level)
  | ⟨id, type, props, children⟩ => by
    rw [visible, levelled]
    apply List.Sublist.cons_cons
    split
    · exact List.nil_sublist _
    · exact visibleAll_sublist_levelledAll (level + 1) children

theorem visibleAll_sublist_levelledAll (level : Nat) : ∀ cs : List Component,
    (visibleAll engine level cs).Sublist (levelledAll level cs)
  | [] => List.Sublist.refl _
  | c :: rest =>
    (visible_sublist_levelled level c).append (visibleAll_sublist_levelledAll level rest)

end

/-! ## Roots -/

variable {engine} {limit : RenderLimit} {root : Component} {node : Rendered}

theorem renderedAs_render (limit : RenderLimit) (root : Component) :
    RenderedAs engine limit root (render engine limit root).value := by
  by_cases hwithin : effectiveDepth engine 1 root ≤ limit.value
  · rw [value_render_of_le hwithin]
    refine .whole hwithin (mirrors_renderWhole engine 1 root) ?_
    rw [Rendered.nodes_eq_preorder]
    exact map_tag_preorder_renderWhole engine 1 root
  · have hdeep : limit.value < effectiveDepth engine 1 root := Nat.not_le.mp hwithin
    rw [value_render_of_lt hdeep]
    exact .tooDeep hdeep (isDepthDiagnostic_diagnostic root limit.value)

/-- The keys of a tree are ids of its components, in the same order. -/
theorem RenderedAs.keys_sublist (h : RenderedAs engine limit root node) :
    (node.nodes.map Rendered.key).Sublist (root.nodes.map Component.id) := by
  rw [Component.nodes_eq_preorder]
  cases h with
  | tooDeep deep only =>
    rw [Rendered.nodes_eq_preorder, Rendered.preorder_eq, only.children, preorder_eq]
    show [node.key].Sublist (root.id :: _)
    rw [only.key]
    exact List.singleton_sublist.mpr (List.mem_cons_self ..)
  | whole within mirrors order =>
    have hkeys : node.nodes.map Rendered.key =
        (visible engine 1 root).map fun p => p.1.id := by
      have hfirst := congrArg (List.map Prod.fst) order
      rwa [List.map_map, List.map_map] at hfirst
    have hlisted : root.preorder.map Component.id = (root.levelled 1).map fun p => p.1.id := by
      rw [← map_fst_levelled 1 root, List.map_map]
      rfl
    rw [hkeys, hlisted]
    exact (visible_sublist_levelled engine 1 root).map _

end Component

namespace Payload

/-! ## Payloads -/

theorem forall₂_renderedAs (engine : Engine) (limit : RenderLimit) (roots : List Component) :
    List.Forall₂ (Component.RenderedAs engine limit) roots
      (roots.map fun root => (root.render engine limit).value) := by
  induction roots with
  | nil => exact .nil
  | cons root roots ih => exact .cons (Component.renderedAs_render limit root) ih

theorem keys_sublist_of_forall₂ {engine : Engine} {limit : RenderLimit}
    {roots : List Component} {nodes : List Rendered}
    (h : List.Forall₂ (Component.RenderedAs engine limit) roots nodes) :
    ((nodes.flatMap Rendered.nodes).map Rendered.key).Sublist
      ((roots.flatMap Component.nodes).map Component.id) := by
  induction h with
  | nil => exact List.Sublist.refl _
  | cons head _ ih =>
    rw [List.flatMap_cons, List.flatMap_cons, List.map_append, List.map_append]
    exact head.keys_sublist.append ih

/-- The builtin components and one that always fails. -/
def faultyRegistry : Registry :=
  { Registry.builtin with
    entries := Registry.builtin.entries.set "meter" ⟨"meter", fun _ => .raised "no signal"⟩ }

/-- A tree with an unknown and a failing component in the middle, and a tree of three levels. -/
def faultyPage : Payload where
  version := defaultVersion
  components := [
    ⟨"page", "container", [], [⟨"dial", "gauge", [], [⟨"needle", "text", [], []⟩]⟩,
      ⟨"power", "meter", [], [⟨"unit", "text", [], []⟩]⟩, ⟨"note", "text", [], []⟩]⟩,
    ⟨"side", "container", [], [⟨"row", "container", [], [⟨"cell", "text", [], []⟩]⟩]⟩]

end Payload

end AgentPanel
