import AgentPanel.Proofs.Document.DistinctKeys
import AgentPanel.Proofs.Payload.Grammar
import AgentPanel.Proofs.Reply.CutLevels
import AgentPanel.Proofs.Reply.Extraction

/-!
# The names of properties in a reply

No component of a payload that was read from a reply has two properties of one name
(`Reply.nodup_of_parse`). Decoding lets no object have a key twice, and neither the cut of deep
subtrees nor the check of the payload adds a key.
-/

namespace AgentPanel

open Json (Value Members)

/-! ## Cutting -/

theorem Keyed.mem_of_mem_modify {α : Type} {key : Text} {f : α → α} {values : Keyed α}
    {member : Text × α} (h : member ∈ modify key f values) :
    member ∈ values ∨ ∃ old ∈ values, member = (old.1, f old.2) := by
  induction values with
  | nil => exact .inl h
  | cons first rest ih =>
    obtain ⟨k, a⟩ := first
    rw [modify] at h
    by_cases hk : k = key
    · rw [if_pos hk] at h
      rcases List.mem_cons.mp h with rfl | hrest
      · exact .inr ⟨(k, a), List.mem_cons_self, rfl⟩
      · exact .inl (List.mem_cons_of_mem _ hrest)
    · rw [if_neg hk] at h
      rcases List.mem_cons.mp h with rfl | hrest
      · exact .inl List.mem_cons_self
      · rcases ih hrest with hold | ⟨old, hold, rfl⟩
        · exact .inl (List.mem_cons_of_mem _ hold)
        · exact .inr ⟨old, List.mem_cons_of_mem _ hold, rfl⟩

theorem Keyed.keys_modify {α : Type} (key : Text) (f : α → α) (values : Keyed α) :
    (modify key f values).keys = values.keys := by
  induction values with
  | nil => rfl
  | cons first rest ih =>
    obtain ⟨k, a⟩ := first
    rw [modify]
    by_cases hk : k = key
    · rw [if_pos hk]
      rfl
    · rw [if_neg hk]
      exact congrArg (k :: ·) ih

namespace Reply

theorem distinctKeys_modify {key : Text} {f : Value → Value} {members : Members}
    (h : Value.DistinctKeys (.object members))
    (hf : ∀ member ∈ members, (f member.2).DistinctKeys) :
    Value.DistinctKeys (.object (Keyed.modify key f members)) := by
  cases h with
  | object nodup each =>
    refine .object (Keyed.keys_modify key f members ▸ nodup) ?_
    intro member hmem
    rcases Keyed.mem_of_mem_modify hmem with hold | ⟨old, hold, rfl⟩
    · exact each member hold
    · exact hf old hold

/-- The cut repeats no key. -/
theorem distinctKeys_cut {v : Value} (h : v.DistinctKeys) (level : Nat) :
    (cutNode level v).DistinctKeys ∧ (cutChildren level v).DistinctKeys := by
  -- an array is cut as children and an object as a component, so both go along in one induction
  induction h generalizing level with
  | array each ih =>
    refine ⟨.array each, ?_⟩
    rw [cutChildren, cutItems_eq_map]
    refine .array ?_
    intro v hv
    split at hv
    · cases hv
    · obtain ⟨old, hold, rfl⟩ := List.mem_map.mp hv
      exact (ih old hold (level + 1)).1
  | object nodup each ih =>
    refine ⟨?_, .object nodup each⟩
    rw [cutNode, cutMembers_eq_modify]
    exact distinctKeys_modify (.object nodup each) fun member hmem => (ih member hmem level).2
  | _ => exact ⟨by constructor, by constructor⟩

theorem distinctKeys_cutRoots {v : Value} (h : v.DistinctKeys) : (cutRoots v).DistinctKeys := by
  cases v with
  | array roots =>
    rw [cutRoots, cutItems_eq_map]
    refine .array ?_
    intro v hv
    obtain ⟨old, hold, rfl⟩ := List.mem_map.mp hv
    exact (distinctKeys_cut (h.item hold) 1).1
  | _ => exact h

theorem distinctKeys_cutDeep {reply : Members} (h : Value.DistinctKeys (.object reply)) :
    Value.DistinctKeys (.object (cutDeep reply)) := by
  rw [cutDeep_eq_modify]
  refine distinctKeys_modify h ?_
  intro member hmem
  cases h with
  | object _ each => exact distinctKeys_cutRoots (each member hmem)

end Reply

/-! ## Reading -/

namespace Component

mutual

theorem nodup_names_of_describes : ∀ (c : Component) {v : Value}, Describes v c →
    v.DistinctKeys → ∀ n ∈ c.preorder, n.props.keys.Nodup
  | ⟨id, type, props, children⟩, _, hdescribes, hkeys => by
    cases hdescribes with
    | object _ _ _ props_of children_of =>
      rw [preorder, List.forall_mem_cons]
      constructor
      · cases props_of with
        | nothing => exact List.Pairwise.nil
        | object hget => exact (hkeys.member hget).nodup_keys
      · cases children_of with
        | nothing => exact nofun
        | array hget all =>
          exact nodup_names_of_describeAll children all fun v hv => (hkeys.member hget).item hv

theorem nodup_names_of_describeAll : ∀ (cs : List Component) {vs : List Value},
    DescribeAll vs cs → (∀ v ∈ vs, v.DistinctKeys) → ∀ n ∈ preorderAll cs, n.props.keys.Nodup
  | [], _, _, _ => nofun
  | c :: rest, _, hall, hkeys => by
    cases hall with
    | cons head tail =>
      rw [List.forall_mem_cons] at hkeys
      rw [preorderAll, List.forall_mem_append]
      exact ⟨nodup_names_of_describes c head hkeys.1, nodup_names_of_describeAll rest tail hkeys.2⟩

end

end Component

/-- In a payload no two components share an id, and if no object of the value repeats a key, no
component has two properties of one name. -/
theorem Payload.nodup_of_check {v : Value} {p : Payload} (h : check v = .valid p)
    (hkeys : v.DistinctKeys) : p.ids.Nodup ∧ ∀ c ∈ p.nodes, c.props.keys.Nodup := by
  obtain ⟨hdescribes, -⟩ := (check_eq_valid_iff_describes v p).mp h
  cases hdescribes with
  | object _ components_mem all nodup =>
    rw [ids, nodes_eq_preorderAll]
    refine ⟨nodup, Component.nodup_names_of_describeAll _ all ?_⟩
    intro v hv
    exact (hkeys.member components_mem).item hv

namespace Reply

/-- In a payload that was read from a reply no two components share an id, and no component has two
properties of one name. -/
theorem nodup_of_parse {limit : Nat} {reply : Text} {parsed : Parsed}
    (h : (parse limit reply).value = .ok parsed) :
    parsed.payload.ids.Nodup ∧ ∀ c ∈ parsed.payload.nodes, c.props.keys.Nodup := by
  obtain ⟨-, v, hv, hpayload⟩ := isWholeObject_of_parse_ok h
  cases v with
  | object members =>
    rw [payloadOf_value_object] at hpayload
    split at hpayload
    · cases hpayload
    · cases hcheck : Payload.check (.object (cutDeep members)) with
      | faulty n =>
        rw [hcheck] at hpayload
        cases hpayload
      | valid payload =>
        rw [hcheck] at hpayload
        cases hpayload
        have hkeys := distinctKeys_cutDeep (Value.distinctKeys_of_decodeWithin? hv)
        exact Payload.nodup_of_check hcheck hkeys
  | _ => cases hpayload

end Reply

end AgentPanel
