import AgentPanel.Panel.Rendering
import AgentPanel.Proofs.Payload.Grammar
import AgentPanel.Reply.DeepCut

/-!
# The cut of deep subtrees is invisible

A payload that is valid as it stands is valid after its over-deep subtrees have been cut, and every
engine renders both alike (`check_and_render_cutDeep`).

On checked components the cut is `Component.prune`. A render limit is below the last level that is
kept, so an engine gives up before it would see a component that has lost its children; where it
stops earlier, at a component without an element, the cut is out of its sight anyway.
-/

namespace AgentPanel

open Json (Value Members)

/-! ## The value under one key -/

namespace Keyed

variable {α : Type}

/-- The values with a function applied to the one under a key. -/
def modify (key : Text) (f : α → α) : Keyed α → Keyed α
  | [] => []
  | (k, a) :: rest => if k = key then (k, f a) :: rest else (k, a) :: modify key f rest

theorem get?_modify (key : Text) (f : α → α) (values : Keyed α) :
    get? key (modify key f values) = (get? key values).map f := by
  induction values with
  | nil => rfl
  | cons first values ih =>
    obtain ⟨k, a⟩ := first
    rw [modify]
    by_cases hk : k = key
    · rw [if_pos hk, get?, get?, if_pos hk, if_pos hk]
      rfl
    · rw [if_neg hk, get?, get?, if_neg hk, if_neg hk, ih]

theorem get?_modify_of_ne {key other : Text} (h : other ≠ key) (f : α → α) (values : Keyed α) :
    get? other (modify key f values) = get? other values := by
  induction values with
  | nil => rfl
  | cons first values ih =>
    obtain ⟨k, a⟩ := first
    rw [modify]
    by_cases hk : k = key
    · have hne : k ≠ other := by
        rintro rfl
        exact h hk
      rw [if_pos hk, get?, get?, if_neg hne, if_neg hne]
    · rw [if_neg hk, get?, get?, ih]

end Keyed

theorem Reply.cutMembers_eq_modify (level : Nat) (members : Members) :
    cutMembers level members = Keyed.modify "children" (cutChildren level) members := by
  induction members with
  | nil => rfl
  | cons first members ih => rw [cutMembers, Keyed.modify, ih]

theorem Reply.cutDeep_eq_modify (members : Members) :
    cutDeep members = Keyed.modify "components" cutRoots members := by
  induction members with
  | nil => rfl
  | cons first members ih => rw [cutDeep, Keyed.modify, ih]

namespace Component

/-! ## Cut components -/

mutual

/-- The component without the children of its components on the last level, if it stands at
`level`. -/
def prune (level : Nat) : Component → Component
  | ⟨id, type, props, children⟩ =>
    ⟨id, type, props, if deepestLevel ≤ level then [] else pruneAll (level + 1) children⟩

/-- The components at `level`, one by one. -/
def pruneAll (level : Nat) : List Component → List Component
  | [] => []
  | c :: rest => prune level c :: pruneAll level rest

end

/-- The children of a component at `level`. -/
def pruneChildren (level : Nat) (children : List Component) : List Component :=
  if deepestLevel ≤ level then [] else pruneAll (level + 1) children

theorem prune_mk (level : Nat) (id type : Text) (props : Members) (children : List Component) :
    prune level ⟨id, type, props, children⟩ = ⟨id, type, props, pruneChildren level children⟩ := by
  rw [prune, pruneChildren]

theorem pruneChildren_nil (level : Nat) : pruneChildren level [] = [] := by
  rw [pruneChildren, pruneAll, ite_self]

theorem pruneAll_eq_map (level : Nat) (cs : List Component) :
    pruneAll level cs = cs.map (prune level) := by
  induction cs with
  | nil => rfl
  | cons c cs ih => rw [pruneAll, ih, List.map_cons]

/-! ## Ids -/

mutual

theorem preorder_prune_sublist (level : Nat) : ∀ c : Component,
    ((c.prune level).preorder.map Component.id).Sublist (c.preorder.map Component.id)
  | ⟨id, type, props, children⟩ => by
    rw [prune_mk, preorder, preorder, List.map_cons, List.map_cons, pruneChildren]
    refine List.Sublist.cons_cons id ?_
    split
    · exact List.nil_sublist _
    · exact preorderAll_pruneAll_sublist (level + 1) children

theorem preorderAll_pruneAll_sublist (level : Nat) : ∀ cs : List Component,
    ((preorderAll (pruneAll level cs)).map Component.id).Sublist
      ((preorderAll cs).map Component.id)
  | [] => List.Sublist.refl _
  | c :: rest => by
    rw [pruneAll, preorderAll, preorderAll, List.map_append, List.map_append]
    exact (preorder_prune_sublist level c).append (preorderAll_pruneAll_sublist level rest)

end

/-! ## Checks -/

theorem get?_cutMembers (level : Nat) {key : Text} (hkey : key ≠ "children") (members : Members) :
    Keyed.get? key (Reply.cutMembers level members) = Keyed.get? key members := by
  rw [Reply.cutMembers_eq_modify]
  exact Keyed.get?_modify_of_ne hkey _ members

theorem checkId_cutMembers (level : Nat) (members : Members) :
    checkId (Reply.cutMembers level members) = checkId members := by
  rw [checkId, checkId, get?_cutMembers level (by decide)]

theorem checkType_cutMembers (level : Nat) (members : Members) :
    checkType (Reply.cutMembers level members) = checkType members := by
  rw [checkType, checkType, get?_cutMembers level (by decide)]

theorem checkProps_cutMembers (level : Nat) (members : Members) :
    checkProps (Reply.cutMembers level members) = checkProps members := by
  rw [checkProps, checkProps, get?_cutMembers level (by decide)]

mutual

/-- What is valid stays valid when it is cut. -/
theorem checkWithin_cutNode (room level : Nat) : ∀ (v : Value) {c : Component},
    checkWithin room v = .valid c →
      checkWithin room (Reply.cutNode level v) = .valid (c.prune level)
  | .object members, c, h => by
    obtain ⟨id, type, props, children, hid, htype, hprops, hchildren, rfl⟩ :=
      checkWithin_object_eq_valid_iff.mp h
    rw [Reply.cutNode, prune_mk]
    refine checkWithin_object_eq_valid_iff.mpr ⟨id, type, props, _, ?_, ?_, ?_, ?_, rfl⟩
    · rw [checkId_cutMembers, hid]
    · rw [checkType_cutMembers, htype]
    · rw [checkProps_cutMembers, hprops]
    · exact checkChildren_cutMembers room level members hchildren
  | .null, _, h | .bool _, _, h | .int _, _, h | .float _, _, h | .text _, _, h
  | .array _, _, h => by cases h

theorem checkChildren_cutMembers (room level : Nat) : ∀ (members : List (Text × Value))
    {cs : List Component}, checkChildren room members = .valid cs →
      checkChildren room (Reply.cutMembers level members) = .valid (pruneChildren level cs)
  | [], cs, h => by
    cases h
    rw [pruneChildren_nil]
    rfl
  | (key, v) :: rest, cs, h => by
    rw [Reply.cutMembers]
    rw [checkChildren] at h
    by_cases hkey : key = "children"
    · rw [if_pos hkey] at h ⊢
      rw [checkChildren, if_pos hkey]
      exact checkForest_cutChildren room level v h
    · rw [if_neg hkey] at h ⊢
      rw [checkChildren, if_neg hkey]
      exact checkChildren_cutMembers room level rest h

theorem checkForest_cutChildren (room level : Nat) : ∀ (v : Value) {cs : List Component},
    checkForest room v = .valid cs →
      checkForest room (Reply.cutChildren level v) = .valid (pruneChildren level cs)
  | .null, cs, h => by
    cases h
    rw [pruneChildren_nil]
    rfl
  | .array items, cs, h => by
    rw [Reply.cutChildren, checkForest, pruneChildren]
    split
    · cases room <;> rfl
    · exact checkAll_cutItems room (level + 1) items h
  | .bool _, _, h | .int _, _, h | .float _, _, h | .text _, _, h | .object _, _, h => by cases h

theorem checkAll_cutItems (room level : Nat) : ∀ (items : List Value) {cs : List Component},
    checkAll room items = .valid cs →
      checkAll room (Reply.cutItems level items) = .valid (pruneAll level cs)
  | [], cs, h => by
    cases room <;> cases h <;> rfl
  | v :: rest, cs, h => by
    cases room with
    | zero =>
      rw [checkAll, Checked.seq_eq_valid_iff] at h
      obtain ⟨_, _, h, -, -⟩ := h
      cases h
    | succ room =>
      rw [checkAll, Checked.seq_eq_valid_iff] at h
      obtain ⟨_, cs, hhead, hrest, rfl⟩ := h
      obtain ⟨c, hc, rfl⟩ := Checked.map_eq_valid_iff.mp hhead
      rw [Reply.cutItems, checkAll, checkWithin_cutNode room level v hc,
        checkAll_cutItems (room + 1) level rest hrest]
      rfl

end

/-! ## Rendering -/

variable (engine : Engine)

mutual

/-- Where the last level is out of reach, the cut does not show. -/
theorem renderWithin_prune (room level : Nat) (h : room + level ≤ deepestLevel) :
    ∀ c : Component,
      renderWithin engine level room (c.prune level) = renderWithin engine level room c
  | ⟨id, type, props, children⟩ => by
    rw [prune_mk]
    cases room with
    | zero => rfl
    | succ room =>
      -- with room for one level more the component is above the last level and keeps its children
      have hlevel : ¬deepestLevel ≤ level := by omega
      have hchildren := renderAllWithin_pruneAll room (level + 1) (by omega) children
      have hbuild : buildElement engine level ⟨id, type, props, pruneChildren level children⟩ =
          buildElement engine level ⟨id, type, props, children⟩ := rfl
      rw [renderWithin, renderWithin, hbuild, pruneChildren, if_neg hlevel, hchildren]
      rfl

theorem renderAllWithin_pruneAll (room level : Nat) (h : room + level ≤ deepestLevel) :
    ∀ cs : List Component,
      renderAllWithin engine level room (pruneAll level cs) = renderAllWithin engine level room cs
  | [] => rfl
  | c :: rest => by
    rw [pruneAll, renderAllWithin, renderAllWithin, renderWithin_prune room level h c,
      renderAllWithin_pruneAll room level h rest]

end

theorem render_prune (limit : RenderLimit) (root : Component) :
    render engine limit (root.prune 1) = render engine limit root := by
  have hroom : limit.value + 1 ≤ deepestLevel := limit.lt
  rw [render, render, renderWithin_prune engine limit.value 1 hroom root]
  obtain ⟨id, type, props, children⟩ := root
  rw [prune_mk]
  rfl

end Component

namespace Payload

/-! ## Payloads -/

/-- The payload without the subtrees below the last level. -/
def prune (p : Payload) : Payload := ⟨p.version, Component.pruneAll 1 p.components⟩

theorem nodup_ids_prune {p : Payload} (h : p.ids.Nodup) : p.prune.ids.Nodup := by
  rw [ids, nodes_eq_preorderAll] at h ⊢
  exact h.sublist (Component.preorderAll_pruneAll_sublist 1 p.components)

theorem checkVersion_cutDeep (members : Members) :
    checkVersion (Reply.cutDeep members) = checkVersion members := by
  rw [checkVersion, checkVersion, Reply.cutDeep_eq_modify, Keyed.get?_modify_of_ne (by decide)]

theorem checkComponents_cutDeep {members : Members} {cs : List Component}
    (h : checkComponents members = .valid cs) :
    checkComponents (Reply.cutDeep members) = .valid (Component.pruneAll 1 cs) := by
  rw [checkComponents] at h ⊢
  rw [Reply.cutDeep_eq_modify, Keyed.get?_modify]
  cases hget : Keyed.get? "components" members with
  | none =>
    rw [hget] at h
    cases h
  | some v =>
    rw [hget] at h
    cases v with
    | array items => exact Component.checkAll_cutItems nestingLimit 1 items h
    | _ => cases h

theorem check_cutDeep {members : Members} {p : Payload} (h : check (.object members) = .valid p) :
    check (.object (Reply.cutDeep members)) = .valid p.prune := by
  obtain ⟨hversion, hcomponents, hids⟩ := check_object_eq_valid_iff.mp h
  have hversion' : checkVersion (Reply.cutDeep members) = .valid p.prune.version := by
    rw [checkVersion_cutDeep, hversion]
    rfl
  exact check_object_eq_valid_iff.mpr
    ⟨hversion', checkComponents_cutDeep hcomponents, nodup_ids_prune hids⟩

theorem render_prune (engine : Engine) (limit : RenderLimit) (p : Payload) :
    p.prune.render engine limit = p.render engine limit := by
  rw [render, render, prune, Component.pruneAll_eq_map, List.mapM_map]
  congr
  funext root
  exact Component.render_prune engine limit root

end Payload

namespace Reply

/-- A reply whose object is a valid payload is one after the cut of its over-deep subtrees, too, and
every engine renders both alike: the same nodes and the same reports. -/
theorem check_and_render_cutDeep {members : Members} {p : Payload}
    (h : Payload.check (.object members) = .valid p) :
    ∃ cut, Payload.check (.object (cutDeep members)) = .valid cut ∧
      ∀ engine limit, cut.render engine limit = p.render engine limit :=
  ⟨p.prune, Payload.check_cutDeep h, fun engine limit => Payload.render_prune engine limit p⟩

/-- A component with so many more below it, each the only child of the one before. The ids grow on
the way down. -/
def chain : Nat → Value
  | 0 => .object [("id", .text (List.replicate deepestLevel 'x')), ("type", .text "text")]
  | n + 1 => .object [("id", .text (List.replicate (deepestLevel - (n + 1)) 'x')),
      ("type", .text "card"), ("children", .array [chain n])]

/-- A chain of one component more than a payload keeps loses the last one. -/
theorem check_and_render_cutDeep_chain :
    cutCount [("components", .array [chain deepestLevel])] = 1 ∧
      ∃ p cut, Payload.check (.object [("components", .array [chain deepestLevel])]) = .valid p ∧
        Payload.check (.object (cutDeep [("components", .array [chain deepestLevel])])) =
          .valid cut ∧
          ∀ engine limit, cut.render engine limit = p.render engine limit := by
  have hlengths : (fun cs => (Component.preorderAll cs).map fun c => c.id.length) <$>
      Payload.checkComponents [("components", .array [chain deepestLevel])] =
        .valid (List.range (deepestLevel + 1)) := by decide +kernel
  obtain ⟨cs, hcs, hids⟩ := Checked.map_eq_valid_iff.mp hlengths
  have hnodup : (Payload.mk defaultVersion cs).ids.Nodup := by
    rw [Payload.ids, Payload.nodes_eq_preorderAll]
    have hdistinct : ∀ a b : Text, a.length ≠ b.length → a ≠ b := by
      rintro a b hne rfl
      exact hne rfl
    refine List.Pairwise.of_map List.length hdistinct ?_
    rw [List.map_map]
    exact hids ▸ List.nodup_range
  have hvalid : Payload.check (.object [("components", .array [chain deepestLevel])]) =
      .valid ⟨defaultVersion, cs⟩ :=
    Payload.check_object_eq_valid_iff.mpr ⟨rfl, hcs, hnodup⟩
  obtain ⟨cut, hcut, hrender⟩ := check_and_render_cutDeep hvalid
  exact ⟨by decide +kernel, _, cut, hvalid, hcut, hrender⟩

end Reply

end AgentPanel
