import AgentPanel.Proofs.Panel.BuiltinComponents
import AgentPanel.Proofs.Panel.Shape
import AgentPanel.Proofs.Text.Lines
import AgentPanel.Reply.Parsed

/-!
# The lines of an outline

An outline is split at its line ends node by node (`Rendered.splitAll_outline`). A node takes a
single line unless its key has a line end, or its type if that is unknown: these two stand in the
outline as they are, while values are quoted (`Rendered.oneLine_summary_iff`). So the agent can add
lines by ids and by unknown types, and by nothing else (`Payload.outline_lines_iff`).
-/

namespace AgentPanel

open Json (Value Members)

/-! ## Values -/

namespace Json.Value

mutual

/-- The texts in a literal are quoted, so it has no line end. -/
theorem oneLine_literal : ∀ v : Value, v.literal.OneLine
  | null => by decide
  | bool b => by cases b <;> decide
  | int n => Text.oneLine_ofInt n
  | float x => x.oneLine_toText
  | text t => Text.oneLine_quoted t
  | array items => by
    have hopen : Text.OneLine "[" := by decide
    have hclose : Text.OneLine "]" := by decide
    rw [literal]
    exact (hopen.append (oneLine_literalItems items)).append hclose
  | object members => by
    have hopen : Text.OneLine "\x7b" := by decide
    have hclose : Text.OneLine "\x7d" := by decide
    rw [literal]
    exact (hopen.append (oneLine_literalMembers members)).append hclose

theorem oneLine_literalItems : ∀ items : List Value, Text.OneLine (literalItems items)
  | [] => by decide
  | [v] => oneLine_literal v
  | v :: next :: rest => by
    have hcomma : Text.OneLine ", " := by decide
    rw [literalItems]
    · exact ((oneLine_literal v).append hcomma).append (oneLine_literalItems (next :: rest))
    · exact nofun

theorem oneLine_literalMembers : ∀ members : List (Text × Value),
    Text.OneLine (literalMembers members)
  | [] => by decide
  | [(k, v)] => by
    have hcolon : Text.OneLine ": " := by decide
    rw [literalMembers]
    exact ((Text.oneLine_quoted k).append hcolon).append (oneLine_literal v)
  | (k, v) :: next :: rest => by
    have hcolon : Text.OneLine ": " := by decide
    have hcomma : Text.OneLine ", " := by decide
    rw [literalMembers]
    · have hfirst := ((Text.oneLine_quoted k).append hcolon).append (oneLine_literal v)
      exact (hfirst.append hcomma).append (oneLine_literalMembers (next :: rest))
    · exact nofun

end

end Json.Value

/-! ## Outlines -/

namespace Rendered

theorem outline_eq (root : Rendered) (indent : Text) :
    root.outline indent =
      Text.join ['\n'] ((root.levelled 0).map fun p => outlineLine indent p.1 p.2) := by
  rw [outline, walkLevels_eq_levelled, List.flatMap_singleton]

/-- An outline falls apart into what the lines of its nodes fall apart into. -/
theorem splitAll_outline (root : Rendered) (indent : Text) :
    Text.splitAll '\n' (root.outline indent) =
      (root.levelled 0).flatMap fun p => Text.splitAll '\n' (outlineLine indent p.1 p.2) := by
  have hnodes : root.levelled 0 ≠ [] := by
    rw [levelled_eq]
    exact List.cons_ne_nil _ _
  rw [outline_eq, Text.splitAll_join, List.flatMap_map]
  intro hnil
  exact hnodes (List.map_eq_nil_iff.mp hnil)

mutual

theorem map_fst_levelled (level : Nat) : ∀ node : Rendered,
    (levelled level node).map Prod.fst = node.preorder
  | ⟨key, type, kind, attrs, children⟩ => by
    rw [levelled, preorder, List.map_cons, map_fst_levelledAll (level + 1) children]

theorem map_fst_levelledAll (level : Nat) : ∀ nodes : List Rendered,
    (levelledAll level nodes).map Prod.fst = preorderAll nodes
  | [] => rfl
  | node :: rest => by
    rw [levelledAll, preorderAll, List.map_append, map_fst_levelled level node,
      map_fst_levelledAll level rest]

end

theorem exists_mem_levelled_iff {root node : Rendered} :
    (∃ level, (node, level) ∈ root.levelled 0) ↔ node ∈ root.nodes := by
  rw [nodes_eq_preorder, ← map_fst_levelled 0 root, List.mem_map]
  constructor
  · rintro ⟨level, hmem⟩
    exact ⟨(node, level), hmem, rfl⟩
  · rintro ⟨⟨other, level⟩, hmem, rfl⟩
    exact ⟨level, hmem⟩

theorem oneLine_outlineLine_iff {indent : Text} (hindent : indent.OneLine) (node : Rendered)
    (level : Nat) : (outlineLine indent node level).OneLine ↔ node.summary.OneLine := by
  rw [outlineLine, Text.oneLine_append]
  exact and_iff_right (hindent.times level)

/-- An outline has one line for each node just if no summary has a line end. -/
theorem splitAll_outline_eq_map_iff {indent : Text} (hindent : indent.OneLine) (root : Rendered) :
    Text.splitAll '\n' (root.outline indent) =
        (root.levelled 0).map (fun p => outlineLine indent p.1 p.2) ↔
      ∀ node ∈ root.nodes, node.summary.OneLine := by
  rw [splitAll_outline, Text.flatMap_splitAll_eq_map_iff]
  constructor
  · intro hlines node hnode
    obtain ⟨level, hmem⟩ := exists_mem_levelled_iff.mpr hnode
    exact (oneLine_outlineLine_iff hindent node level).mp (hlines _ hmem)
  · rintro hsummaries ⟨node, level⟩ hmem
    exact (oneLine_outlineLine_iff hindent node level).mpr
      (hsummaries node (exists_mem_levelled_iff.mp ⟨level, hmem⟩))

/-! ## Summaries -/

/-- The type of the node is unknown, so its message shows it. -/
def showsType (node : Rendered) : Bool :=
  node.isDiagnostic && node.attrs.get? "reason" = some (.text "unknown_type")

theorem oneLine_shownAttrs {attrs : Members} (h : ∀ p ∈ attrs, p.1.OneLine) :
    (shownAttrs attrs).OneLine := by
  apply Text.oneLine_join (by decide)
  intro part hpart
  obtain ⟨p, hp, rfl⟩ := List.mem_map.mp hpart
  have hequals : Text.OneLine "=" := by decide
  exact ((h p (List.mem_filter.mp hp).1).append hequals).append p.2.oneLine_literal

/-- What a node with an element shows besides its key has a line end at most in the kind or in the
names of attributes. -/
theorem oneLine_summary_of_element {node : Rendered} (hnode : node.isDiagnostic = false)
    (hkind : node.kind.OneLine) (hattrs : ∀ p ∈ node.attrs, p.1.OneLine) :
    node.summary.OneLine ↔ node.key.OneLine := by
  have hshown : Text.OneLine
      (if (shownAttrs node.attrs).isEmpty then [] else " " ++ shownAttrs node.attrs) := by
    split
    · decide
    · have hblank : Text.OneLine " " := by decide
      exact hblank.append (oneLine_shownAttrs hattrs)
  have hopen : Text.OneLine "[" := by decide
  have hclose : Text.OneLine "]" := by decide
  simp only [summary, hnode, Bool.false_eq_true, if_false, Text.oneLine_append, hkind, hshown,
    hopen, hclose, true_and, and_true]

theorem showsType_diagnostic (c : Component) (obstacle : Obstacle) :
    (diagnostic c obstacle).showsType = decide (obstacle = .unknownType) := by
  cases obstacle <;> rfl

theorem oneLine_message_unknownType (type : Text) :
    (Obstacle.message type .unknownType).OneLine ↔ type.OneLine := by
  have hconstant : Text.OneLine "[SYSTEM_ERROR] Unknown Interface Node: " := by decide
  rw [Obstacle.message, Text.oneLine_append]
  exact and_iff_right hconstant

/-- A diagnostic shows its message as it is; that of an unknown type ends in the type. -/
theorem oneLine_summary_diagnostic (c : Component) {obstacle : Obstacle}
    (hmessage : obstacle ≠ .unknownType → (obstacle.message c.type).OneLine) :
    (diagnostic c obstacle).summary.OneLine ↔
      c.id.OneLine ∧ ((diagnostic c obstacle).showsType = true → c.type.OneLine) := by
  have hsummary : (diagnostic c obstacle).summary =
      "! " ++ obstacle.message c.type ++ " [" ++ c.id ++ "]" := rfl
  have hmark : Text.OneLine "! " := by decide
  have hopen : Text.OneLine " [" := by decide
  have hclose : Text.OneLine "]" := by decide
  have hline : (diagnostic c obstacle).summary.OneLine ↔
      c.id.OneLine ∧ (obstacle.message c.type).OneLine := by
    simp only [hsummary, Text.oneLine_append, hmark, hopen, hclose, true_and, and_true]
    exact and_comm
  rw [hline, showsType_diagnostic, decide_eq_true_iff]
  apply and_congr_right
  intro _
  by_cases hunknown : obstacle = .unknownType
  · subst hunknown
    rw [oneLine_message_unknownType]
    constructor
    · intro htype _
      exact htype
    · intro htype
      exact htype rfl
  · exact iff_of_true (hmessage hunknown) fun h => (hunknown h).elim

end Rendered

/-! ## The builtin components -/

namespace Builtin

theorem oneLine_of_mem_tags : ∀ type ∈ tags, type.OneLine := by decide

/-- A builtin element has no line end in its kind, nor in the name of an attribute. -/
theorem Shows.oneLine {type kind : Text} {attrs : Members} (h : Shows type kind attrs) :
    kind.OneLine ∧ ∀ p ∈ attrs, p.1.OneLine := by
  have hnames : ∀ names : List Text, attrs.map Prod.fst = names →
      (∀ name ∈ names, name.OneLine) → ∀ p ∈ attrs, p.1.OneLine := by
    rintro names rfl hnames p hp
    exact hnames p.1 (List.mem_map_of_mem hp)
  cases h with
  | text => exact ⟨by decide, hnames ["content", "style"] rfl (by decide)⟩
  | button => exact ⟨by decide, hnames ["label", "color"] rfl (by decide)⟩
  | statCard =>
    exact ⟨by decide,
      hnames ["title", "value", "icon", "color_class", "accent_class"] rfl (by decide)⟩
  | container => exact ⟨by decide, hnames ["layout"] rfl (by decide)⟩
  | gridContainer => exact ⟨by decide, hnames ["layout"] rfl (by decide)⟩

end Builtin

theorem Rendered.oneLine_message_raised {type text : Text} (htype : type.OneLine)
    (htext : text.OneLine) : (Obstacle.message type (.raised text)).OneLine := by
  have hstart : Text.OneLine "[SYSTEM_ERROR] Failed to render " := by decide
  have hcolon : Text.OneLine ": " := by decide
  exact ((hstart.append htype).append hcolon).append htext

namespace Component

/-- The message of a builtin component has no line end unless its type is unknown. -/
theorem oneLine_message_builtin {copying : Copying} {level : Nat} {c : Component}
    {obstacle : Obstacle}
    (h : (buildElement (.builtin copying) level c).value = .error obstacle)
    (hknown : obstacle ≠ .unknownType) : (obstacle.message c.type).OneLine := by
  have hcases := builtBuiltin copying level c
  rw [h] at hcases
  cases hcases with
  | unknown => exact absurd rfl hknown
  | notCopied known fault =>
    exact Rendered.oneLine_message_raised (Builtin.oneLine_of_mem_tags _ known)
      (copying.oneLine _ _ _ fault)
  | notWritten known =>
    exact Rendered.oneLine_message_raised (Builtin.oneLine_of_mem_tags _ known)
      (by decide +kernel)

/-- The summary of a node has a line end just if the key does, or a type that is unknown. -/
theorem oneLine_summary_iff (copying : Copying) (limit : RenderLimit) (root : Component) :
    ∀ node ∈ (render (.builtin copying) limit root).value.nodes,
      node.summary.OneLine ↔ node.key.OneLine ∧ (node.showsType = true → node.type.OneLine) := by
  by_cases hwithin : effectiveDepth (.builtin copying) 1 root ≤ limit.value
  · rw [value_render_of_le hwithin, Rendered.nodes_eq_preorder]
    apply forall_preorder_renderWhole
    · intro level c obstacle hvalue
      exact Rendered.oneLine_summary_diagnostic c (oneLine_message_builtin hvalue)
    · intro level c e nodes hvalue
      have hcases := builtBuiltin copying level c
      rw [hvalue] at hcases
      cases hcases with
      | built known copied shows =>
        have helement : Rendered.isDiagnostic ⟨c.id, c.type, e.kind, e.attrs, nodes⟩ = false :=
          decide_eq_false shows.kind_ne
        obtain ⟨hkind, hattrs⟩ := shows.oneLine
        rw [Rendered.oneLine_summary_of_element helement hkind hattrs, Rendered.showsType,
          helement]
        exact (and_iff_left nofun).symm
  · rw [value_render_of_lt (Nat.not_le.mp hwithin), Rendered.nodes_eq_preorder]
    intro node hnode
    cases List.mem_singleton.mp hnode
    apply Rendered.oneLine_summary_diagnostic
    intro _
    have hstart : Text.OneLine "[SYSTEM_ERROR] Interface tree exceeds maximum depth " := by decide
    exact hstart.append (Text.oneLine_ofNat limit.value)

end Component

namespace Payload

/-- The outline of a rendered tree has the lines of its nodes, in pre-order and each behind as many
indents as its level. They are one line each just if no key has a line end and no unknown type has
one; what the properties hold does not matter. -/
theorem outline_lines_iff (copying : Copying) (p : Payload) (limit : RenderLimit)
    {root : Rendered} (hroot : root ∈ (p.render (.builtin copying) limit).value) {indent : Text}
    (hindent : indent.OneLine) :
    (root.levelled 0).map Prod.fst = root.nodes ∧
      Text.splitAll '\n' (root.outline indent) = ((root.levelled 0).flatMap fun p =>
        Text.splitAll '\n' (Text.times p.2 indent ++ p.1.summary)) ∧
      (Text.splitAll '\n' (root.outline indent) =
          ((root.levelled 0).map fun p => Text.times p.2 indent ++ p.1.summary) ↔
        ∀ node ∈ root.nodes, node.key.OneLine ∧ (node.showsType = true → node.type.OneLine)) := by
  refine ⟨?_, Rendered.splitAll_outline root indent, ?_⟩
  · rw [Rendered.map_fst_levelled, Rendered.nodes_eq_preorder]
  · rw [value_render] at hroot
    obtain ⟨c, -, rfl⟩ := List.mem_map.mp hroot
    have hsummary := Component.oneLine_summary_iff copying limit c
    refine (Rendered.splitAll_outline_eq_map_iff hindent _).trans ?_
    exact forall₂_congr hsummary

/-- A text of two lines and a component of unknown type, in a container. -/
def memo : Component :=
  ⟨"memo", "container", [], [
    ⟨"note", "text", [("content", .text "first\nsecond")], []⟩, ⟨"dial", "gauge", [], []⟩]⟩

/-- The text of two lines is one line of the outline. -/
theorem outline_lines_iff_memo :
    Text.OneLine "  " ∧
      (Component.render (.builtin .standard) .standard memo).value ∈
        ((Payload.mk defaultVersion [memo]).render (.builtin .standard) .standard).value ∧
      Text.splitAll '\n'
          ((Component.render (.builtin .standard) .standard memo).value.outline "  ") = ([
        "container[memo] layout='stack'",
        "  text[note] content='first\\nsecond', style='body'",
        "  ! [SYSTEM_ERROR] Unknown Interface Node: gauge [dial]"] : List Text) := by
  have hindent : Text.OneLine "  " := by decide
  have hroot : (Component.render (.builtin .standard) .standard memo).value ∈
      ((Payload.mk defaultVersion [memo]).render (.builtin .standard) .standard).value :=
    List.mem_singleton.mpr rfl
  have hkeys : ∀ node ∈ (Component.render (.builtin .standard) .standard memo).value.nodes,
      node.key.OneLine ∧ (node.showsType = true → node.type.OneLine) := by
    rw [Rendered.nodes_eq_preorder]
    decide +kernel
  refine ⟨hindent, hroot, ?_⟩
  rw [(outline_lines_iff .standard _ .standard hroot hindent).2.2.mpr hkeys]
  decide +kernel

/-- A reply with a line end in an id. -/
def brokenId : Text := "\x7b\"components\":[\x7b\"id\":\"a\\nb\",\"type\":\"text\"\x7d]\x7d"

/-- The id is shown as it is, so the outline of a single node has two lines. -/
theorem outline_ne_lines_brokenId :
    ∃ parsed root, (Reply.parse Json.maxNesting brokenId).value.toOption = some parsed ∧
      root ∈ (parsed.payload.render (.builtin .standard) .standard).value ∧
      root.nodes.length = 1 ∧
      Text.splitAll '\n' (root.outline "  ") = (["text[a", "b] style='body'"] : List Text) ∧
      Text.splitAll '\n' (root.outline "  ") ≠
        (root.levelled 0).map fun p => Text.times p.2 "  " ++ p.1.summary := by
  have hroot : (Component.render (.builtin .standard) .standard ⟨"a\nb", "text", [], []⟩).value =
      ⟨"a\nb", "text", "text", [("content", .text []), ("style", .text "body")], []⟩ := by
    decide +kernel
  have hlines : Text.splitAll '\n' ((Component.render (.builtin .standard) .standard
      ⟨"a\nb", "text", [], []⟩).value.outline "  ") =
        (["text[a", "b] style='body'"] : List Text) := by
    rw [Rendered.splitAll_outline, hroot]
    decide +kernel
  refine ⟨⟨⟨defaultVersion, [⟨"a\nb", "text", [], []⟩]⟩, false, brokenId⟩, _, ?_,
    List.mem_singleton.mpr rfl, ?_, hlines, ?_⟩
  · decide +kernel
  · rw [Rendered.nodes_eq_preorder]
    decide +kernel
  · rw [hlines, hroot]
    decide +kernel

end Payload

end AgentPanel
