import AgentPanel.Payload.Grammar

/-!
# What the check of a payload accepts

A value is checked as a payload exactly if it describes one whose components nest within the limit,
and the check gives the payload that it describes (`Payload.check_eq_valid_iff_describes`).

The check of each part is an iff with the relation of the grammar for it. Below a component the
check goes down with one level of room less, so what the recursion shows is that the room suffices
just if the forest is no higher. The grammar has no limit: a tower of components one level too high
describes a payload and is not valid (`Payload.not_valid_of_describes_tower`).
-/

namespace AgentPanel

open Json (Value Members)

theorem Checked.ofOption_eq_valid_iff {α : Type} {o : Option α} {a : α} :
    Checked.ofOption o = .valid a ↔ o = some a := by
  cases o <;> simp [Checked.ofOption]

theorem Json.Value.textOrNumber?_eq_some_iff {v : Value} {t : Text} :
    v.textOrNumber? = some t ↔ StandsFor v t := by
  constructor
  · intro h
    cases v with
    | text t => cases h; exact .text t
    | int n => cases h; exact .int n
    | float x => cases h; exact .float x
    | _ => cases h
  · intro h
    cases h <;> rfl

namespace Component

variable {members : Members} {v : Value} {c : Component} {cs : List Component}

/-! ## The parts of a component -/

/-- A valid object is a component made of its checked parts. -/
theorem checkWithin_object_eq_valid_iff {room : Nat} :
    checkWithin room (.object members) = .valid c ↔
      ∃ id type props children, checkId members = .valid id ∧ checkType members = .valid type ∧
        checkProps members = .valid props ∧ checkChildren room members = .valid children ∧
          c = ⟨id, type, props, children⟩ := by
  rw [checkWithin]
  constructor
  · intro h
    obtain ⟨_, children, hthree, hchildren, rfl⟩ := Checked.seq_eq_valid_iff.mp h
    obtain ⟨_, props, htwo, hprops, rfl⟩ := Checked.seq_eq_valid_iff.mp hthree
    obtain ⟨_, type, hone, htype, rfl⟩ := Checked.seq_eq_valid_iff.mp htwo
    obtain ⟨id, hid, rfl⟩ := Checked.map_eq_valid_iff.mp hone
    exact ⟨id, type, props, children, hid, htype, hprops, hchildren, rfl⟩
  · rintro ⟨id, type, props, children, hid, htype, hprops, hchildren, rfl⟩
    rw [hid, htype, hprops, hchildren]
    rfl

theorem checkId_eq_valid_iff {id : Text} :
    checkId members = .valid id ↔ ∃ v, members.get? "id" = some v ∧ StandsFor v id := by
  rw [checkId, Checked.ofOption_eq_valid_iff, Option.bind_eq_some_iff]
  simp only [Value.textOrNumber?_eq_some_iff]

theorem checkType_eq_valid_iff {type : Text} :
    checkType members = .valid type ↔ members.get? "type" = some (.text type) := by
  rw [checkType, Checked.ofOption_eq_valid_iff, Option.bind_eq_some_iff]
  constructor
  · rintro ⟨v, hv, htext⟩
    cases v with
    | text t => cases htext; exact hv
    | _ => cases htext
  · intro h
    exact ⟨_, h, rfl⟩

theorem checkProps_eq_valid_iff {props : Members} :
    checkProps members = .valid props ↔ PropsOf members props := by
  constructor
  · intro h
    unfold checkProps at h
    split at h
    · next hget => cases h; exact .nothing (.inl hget)
    · next hget => cases h; exact .nothing (.inr hget)
    · next hget => cases h; exact .object hget
    · cases h
  · intro h
    cases h with
    | nothing vacant => rcases vacant with hget | hget <;> rw [checkProps, hget]
    | object hget => rw [checkProps, hget]

/-! ## Children -/

theorem height_eq (c : Component) : c.height = heightAll c.children + 1 := by
  cases c
  rw [height]

/-- Which forest the children are is up to the value under their key. -/
theorem ChildrenOf.congr {others : Members} (h : ChildrenOf members cs)
    (hget : members.get? "children" = others.get? "children") : ChildrenOf others cs := by
  cases h with
  | nothing vacant =>
    rw [Vacant, hget] at vacant
    exact .nothing vacant
  | array hitems all => exact .array (hget ▸ hitems) all

theorem childrenOf_iff_of_get? (h : members.get? "children" = some v) :
    ChildrenOf members cs ↔
      v = .null ∧ cs = [] ∨ ∃ items, v = .array items ∧ DescribeAll items cs := by
  constructor
  · intro hchildren
    cases hchildren with
    | nothing vacant =>
      rcases vacant with hnone | hnull
      · cases h.symm.trans hnone
      · cases h.symm.trans hnull
        exact .inl ⟨rfl, rfl⟩
    | array hitems all =>
      cases h.symm.trans hitems
      exact .inr ⟨_, rfl, all⟩
  · rintro (⟨rfl, rfl⟩ | ⟨items, rfl, all⟩)
    · exact .nothing (.inr h)
    · exact .array h all

mutual

/-- A value is a valid component exactly if it describes it, and the children fit into the room. -/
theorem checkWithin_eq_valid_iff (room : Nat) : ∀ (v : Value) {c : Component},
    checkWithin room v = .valid c ↔ Describes v c ∧ heightAll c.children ≤ room
  | .object members, c => by
    rw [checkWithin_object_eq_valid_iff]
    constructor
    · rintro ⟨id, type, props, children, hid, htype, hprops, hchildren, rfl⟩
      obtain ⟨idValue, hmem, hstands⟩ := checkId_eq_valid_iff.mp hid
      obtain ⟨hof, hheight⟩ := (checkChildren_eq_valid_iff room members).mp hchildren
      refine ⟨?_, hheight⟩
      exact .object hmem hstands (checkType_eq_valid_iff.mp htype)
        (checkProps_eq_valid_iff.mp hprops) hof
    · rintro ⟨hdescribes, hheight⟩
      cases hdescribes with
      | object hmem hstands htype hprops hof =>
        refine ⟨_, _, _, _, checkId_eq_valid_iff.mpr ⟨_, hmem, hstands⟩,
          checkType_eq_valid_iff.mpr htype, checkProps_eq_valid_iff.mpr hprops, ?_, rfl⟩
        exact (checkChildren_eq_valid_iff room members).mpr ⟨hof, hheight⟩
  | .null, _ | .bool _, _ | .int _, _ | .float _, _ | .text _, _ | .array _, _ =>
    ⟨nofun, fun h => nomatch h.1⟩

theorem checkChildren_eq_valid_iff (room : Nat) : ∀ (members : List (Text × Value))
    {cs : List Component},
    checkChildren room members = .valid cs ↔ ChildrenOf members cs ∧ heightAll cs ≤ room
  | [], cs => by
    constructor
    · intro h
      cases h
      exact ⟨.nothing (.inl rfl), Nat.zero_le room⟩
    · rintro ⟨hof, -⟩
      cases hof with
      | nothing => rfl
      | array hget => cases hget
  | (key, v) :: rest, cs => by
    rw [checkChildren]
    by_cases hkey : key = "children"
    · rw [if_pos hkey]
      exact checkForest_eq_valid_iff room v (if_pos hkey)
    · have hget : Keyed.get? "children" ((key, v) :: rest) = Keyed.get? "children" rest :=
        if_neg hkey
      rw [if_neg hkey, checkChildren_eq_valid_iff room rest]
      exact and_congr_left' ⟨fun h => h.congr hget.symm, fun h => h.congr hget⟩

theorem checkForest_eq_valid_iff (room : Nat) : ∀ (v : Value) {members : Members}
    {cs : List Component}, members.get? "children" = some v →
    (checkForest room v = .valid cs ↔ ChildrenOf members cs ∧ heightAll cs ≤ room)
  | .null, members, cs, hget => by
    rw [childrenOf_iff_of_get? hget]
    constructor
    · intro h
      cases h
      exact ⟨.inl ⟨rfl, rfl⟩, Nat.zero_le room⟩
    · rintro ⟨⟨-, rfl⟩ | ⟨items, hnull, -⟩, -⟩
      · rfl
      · cases hnull
  | .array items, members, cs, hget => by
    rw [childrenOf_iff_of_get? hget, checkForest, checkAll_eq_valid_iff room items]
    refine and_congr_left' ⟨fun all => .inr ⟨items, rfl, all⟩, ?_⟩
    rintro (⟨hnull, -⟩ | ⟨_, harray, all⟩)
    · cases hnull
    · cases harray
      exact all
  | .bool _, _, _, hget | .int _, _, _, hget | .float _, _, _, hget | .text _, _, _, hget
  | .object _, _, _, hget => by
    rw [childrenOf_iff_of_get? hget]
    constructor
    · intro h
      cases h
    · rintro ⟨⟨hnull, -⟩ | ⟨_, harray, -⟩, -⟩
      · cases hnull
      · cases harray

/-- Values are valid components, one by one, exactly if they describe them, and the forest fits into
the room. -/
theorem checkAll_eq_valid_iff (room : Nat) : ∀ (items : List Value) {cs : List Component},
    checkAll room items = .valid cs ↔ DescribeAll items cs ∧ heightAll cs ≤ room
  | [], cs => by
    rw [checkAll]
    constructor
    · intro h
      cases h
      exact ⟨.nil, Nat.zero_le room⟩
    · rintro ⟨hall, -⟩
      cases hall
      rfl
  | v :: rest, cs => by
    cases room with
    | zero =>
      constructor
      · intro h
        rw [checkAll, Checked.seq_eq_valid_iff] at h
        obtain ⟨_, _, hfirst, -, -⟩ := h
        cases hfirst
      · -- where there is no room, not even a component without children fits
        rintro ⟨hall, hheight⟩
        cases hall with
        | @cons _ _ c cs _ _ =>
          rw [heightAll, height_eq] at hheight
          omega
    | succ room =>
      rw [checkAll, Checked.seq_eq_valid_iff]
      constructor
      · rintro ⟨_, cs, hfirst, hrest, rfl⟩
        obtain ⟨c, hc, rfl⟩ := Checked.map_eq_valid_iff.mp hfirst
        obtain ⟨hdescribes, hheight⟩ := (checkWithin_eq_valid_iff room v).mp hc
        obtain ⟨hall, hheights⟩ := (checkAll_eq_valid_iff (room + 1) rest).mp hrest
        refine ⟨.cons hdescribes hall, ?_⟩
        rw [heightAll, height_eq]
        exact Nat.max_le.mpr ⟨Nat.succ_le_succ hheight, hheights⟩
      · rintro ⟨hall, hheight⟩
        cases hall with
        | cons hdescribes hall =>
          rw [heightAll, height_eq] at hheight
          obtain ⟨hfirst, hrest⟩ := Nat.max_le.mp hheight
          have hc := (checkWithin_eq_valid_iff room v).mpr
            ⟨hdescribes, Nat.le_of_succ_le_succ hfirst⟩
          have hcs := (checkAll_eq_valid_iff (room + 1) rest).mpr ⟨hall, hrest⟩
          exact ⟨_, _, Checked.map_eq_valid_iff.mpr ⟨_, hc, rfl⟩, hcs, rfl⟩

end

end Component

namespace Payload

variable {members : Members}

/-! ## Payloads -/

theorem nodes_eq_preorderAll (p : Payload) : p.nodes = Component.preorderAll p.components := by
  have hnodes : Component.nodes = Component.preorder := funext Component.nodes_eq_preorder
  rw [nodes, hnodes, Component.preorderAll_eq_flatMap]

/-- A valid object is a payload made of its checked parts, with distinct ids. -/
theorem check_object_eq_valid_iff {p : Payload} :
    check (.object members) = .valid p ↔
      checkVersion members = .valid p.version ∧ checkComponents members = .valid p.components ∧
        p.ids.Nodup := by
  rw [check]
  constructor
  · intro h
    cases hparts : Payload.mk <$> checkVersion members <*> checkComponents members with
    | faulty n =>
      rw [hparts] at h
      cases h
    | valid q =>
      rw [hparts] at h
      obtain ⟨_, components, hhead, hcomponents, rfl⟩ := Checked.seq_eq_valid_iff.mp hparts
      obtain ⟨version, hversion, rfl⟩ := Checked.map_eq_valid_iff.mp hhead
      have hids : (if (Payload.mk version components).ids.Nodup then
          Checked.valid (Payload.mk version components) else .faulty 1) = .valid p := h
      split at hids
      · next hnodup =>
        cases hids
        exact ⟨hversion, hcomponents, hnodup⟩
      · cases hids
  · rintro ⟨hversion, hcomponents, hids⟩
    rw [hversion, hcomponents]
    exact if_pos hids

theorem checkVersion_eq_valid_iff {version : Text} :
    checkVersion members = .valid version ↔ VersionOf members version := by
  constructor
  · intro h
    unfold checkVersion at h
    split at h
    · next hget => cases h; exact .nothing (.inl hget)
    · next hget => cases h; exact .nothing (.inr hget)
    · next hget =>
      have hstands := Value.textOrNumber?_eq_some_iff.mp (Checked.ofOption_eq_valid_iff.mp h)
      exact .given hget hstands
  · intro h
    cases h with
    | nothing vacant => rcases vacant with hget | hget <;> rw [checkVersion, hget]
    | given hget stands =>
      rw [checkVersion, hget]
      cases stands <;> rfl

theorem checkComponents_eq_valid_iff {cs : List Component} :
    checkComponents members = .valid cs ↔
      ∃ items, members.get? "components" = some (.array items) ∧
        Component.DescribeAll items cs ∧ Component.heightAll cs ≤ nestingLimit := by
  constructor
  · intro h
    unfold checkComponents at h
    split at h
    · next items hget =>
      exact ⟨items, hget, (Component.checkAll_eq_valid_iff nestingLimit items).mp h⟩
    · cases h
  · rintro ⟨items, hget, hall⟩
    rw [checkComponents, hget]
    exact (Component.checkAll_eq_valid_iff nestingLimit items).mpr hall

/-- The check accepts the values that describe a payload with no component below the last level that
is read, and gives the payload that they describe. -/
theorem check_eq_valid_iff_describes (v : Value) (p : Payload) :
    check v = .valid p ↔ Describes v p ∧ Component.heightAll p.components ≤ nestingLimit := by
  cases v with
  | object members =>
    rw [check_object_eq_valid_iff, checkVersion_eq_valid_iff, checkComponents_eq_valid_iff, ids,
      nodes_eq_preorderAll]
    constructor
    · rintro ⟨hversion, ⟨items, hget, hall, hheight⟩, hnodup⟩
      exact ⟨.object hversion hget hall hnodup, hheight⟩
    · rintro ⟨hdescribes, hheight⟩
      cases hdescribes with
      | object hversion hget hall hnodup => exact ⟨hversion, ⟨_, hget, hall, hheight⟩, hnodup⟩
  | _ => exact ⟨nofun, fun h => nomatch h.1⟩

end Payload

namespace Component

/-! ## A tower too high -/

/-- The object of a component with the given children; the id has as many letters. -/
def storey (letters : Nat) (children : List Value) : Value :=
  .object [("id", .text (List.replicate letters 'x')), ("type", .text "card"),
    ("children", .array children)]

/-- So many components more below a component, each the only child of the one above. -/
def towerValue : Nat → Value
  | 0 => storey 1 []
  | n + 1 => storey (n + 2) [towerValue n]

/-- The component that a tower describes. -/
def tower : Nat → Component
  | 0 => ⟨List.replicate 1 'x', "card", [], []⟩
  | n + 1 => ⟨List.replicate (n + 2) 'x', "card", [], [tower n]⟩

theorem describes_storey {letters : Nat} {items : List Value} {children : List Component}
    (h : DescribeAll items children) :
    Describes (storey letters items) ⟨List.replicate letters 'x', "card", [], children⟩ :=
  .object rfl (.text _) rfl (.nothing (.inl rfl)) (.array rfl h)

theorem describes_towerValue (n : Nat) : Describes (towerValue n) (tower n) := by
  induction n with
  | zero => exact describes_storey .nil
  | succ n ih => exact describes_storey (.cons ih .nil)

theorem preorderAll_tower_succ (n : Nat) :
    preorderAll [tower (n + 1)] = tower (n + 1) :: preorderAll [tower n] := by
  simp [preorderAll, preorder_eq, tower]

theorem length_id_le_of_mem_tower {n : Nat} {c : Component} (h : c ∈ preorderAll [tower n]) :
    c.id.length ≤ n + 1 := by
  induction n with
  | zero =>
    cases List.mem_singleton.mp h
    exact Nat.le_refl 1
  | succ n ih =>
    rw [preorderAll_tower_succ, List.mem_cons] at h
    rcases h with rfl | hbelow
    · simp [tower]
    · exact Nat.le_succ_of_le (ih hbelow)

theorem nodup_ids_tower (n : Nat) : ((preorderAll [tower n]).map Component.id).Nodup := by
  induction n with
  | zero => decide
  | succ n ih =>
    rw [preorderAll_tower_succ, List.map_cons, List.nodup_cons]
    refine ⟨?_, ih⟩
    -- the ids get shorter on the way down
    intro hmem
    obtain ⟨c, hc, hid⟩ := List.mem_map.mp hmem
    have hlength := length_id_le_of_mem_tower hc
    rw [hid] at hlength
    simp [tower] at hlength

end Component

namespace Payload

/-- A tower with one component more than may be nested describes a payload, but is not valid. -/
theorem not_valid_of_describes_tower :
    (∃ p, Describes (.object [("components", .array [Component.towerValue nestingLimit])]) p) ∧
      ¬∃ p, check (.object [("components", .array [Component.towerValue nestingLimit])]) =
        .valid p := by
  constructor
  · refine ⟨⟨defaultVersion, [Component.tower nestingLimit]⟩, ?_⟩
    refine .object (.nothing (.inl rfl)) rfl ?_ ?_
    · exact .cons (Component.describes_towerValue nestingLimit) .nil
    · exact Component.nodup_ids_tower nestingLimit
  · have hfaulty : check (.object [("components",
        .array [Component.towerValue nestingLimit])]) = .faulty 1 := by decide +kernel
    rintro ⟨p, hvalid⟩
    rw [hfaulty] at hvalid
    cases hvalid

end Payload

end AgentPanel
