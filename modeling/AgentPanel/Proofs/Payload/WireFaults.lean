import AgentPanel.Payload.WireLimits
import AgentPanel.Proofs.Payload.Grammar

/-!
# When a payload has a wire form

Where the keys in its properties have no lone surrogates, a payload has a wire form exactly if it
nests no deeper than the wire bears (`Payload.toWire_eq`): its depth is the only fault it can have,
and the fault of a whole is the first one among its parts (`depthFault?_max`).
-/

namespace AgentPanel

open Json (Value Members)

/-! ## Texts that can be written -/

namespace Text.HasNoSurrogate

variable {t : Text}

theorem loneSurrogates?_eq (h : t.HasNoSurrogate) : t.loneSurrogates? = none := by
  have hbefore : (t.takeWhile fun c => !c.isSurrogate) = t := by
    induction t with
    | nil => rfl
    | cons c t ih =>
      have hc : c.isSurrogate = false := h c List.mem_cons_self
      rw [List.takeWhile_cons, hc, ih fun d hd => h d (List.mem_cons_of_mem c hd)]
      rfl
  simp [loneSurrogates?, hbefore]

theorem withReplacedSurrogates_eq (h : t.HasNoSurrogate) : t.withReplacedSurrogates = t := by
  rw [withReplacedSurrogates]
  induction t with
  | nil => rfl
  | cons c t ih =>
    have hc : c.isSurrogate = false := h c List.mem_cons_self
    rw [List.flatMap_cons, hc, ih fun d hd => h d (List.mem_cons_of_mem c hd)]
    rfl

theorem keyFault?_eq (h : t.HasNoSurrogate) : keyFault? t = none := by
  rw [keyFault?, h.loneSurrogates?_eq, Option.map_none]

end Text.HasNoSurrogate

/-! ## Faults -/

/-- The one fault there can be where all keys can be written. -/
def depthFault? (levels room : Nat) : Option WireFault :=
  if levels ≤ room then none else some .tooDeep

theorem depthFault?_zero (levels : Nat) : depthFault? (levels + 1) 0 = some .tooDeep :=
  if_neg (Nat.not_succ_le_zero levels)

theorem depthFault?_succ (levels room : Nat) :
    depthFault? (levels + 1) (room + 1) = depthFault? levels room := by
  simp only [depthFault?, Nat.succ_le_succ_iff]

theorem depthFault?_max (m n room : Nat) :
    depthFault? (max m n) room = (depthFault? m room).orElse fun _ => depthFault? n room := by
  simp only [depthFault?, Nat.max_le]
  by_cases hm : m ≤ room
  · simp [hm]
  · simp [hm]

namespace Json.Value

mutual

theorem wireFault?_eq (room : Nat) : ∀ v : Value, (∀ key ∈ v.keys, key.HasNoSurrogate) →
    v.wireFault? room = depthFault? v.levels room
  | .array items, h => by
    cases room with
    | zero => exact (depthFault?_zero _).symm
    | succ room =>
      rw [levels, depthFault?_succ, wireFault?]
      exact itemsFault?_eq room items h
  | .object members, h => by
    cases room with
    | zero => exact (depthFault?_zero _).symm
    | succ room =>
      rw [levels, depthFault?_succ, wireFault?]
      exact membersFault?_eq room members h
  | .null, _ | .bool _, _ | .int _, _ | .float _, _ | .text _, _ => by cases room <;> rfl

theorem itemsFault?_eq (room : Nat) : ∀ items : List Value,
    (∀ key ∈ itemKeys items, key.HasNoSurrogate) →
      itemsFault? room items = depthFault? (itemLevels items) room
  | [], _ => rfl
  | v :: rest, h => by
    rw [itemKeys, List.forall_mem_append] at h
    rw [itemsFault?, itemLevels, depthFault?_max, wireFault?_eq room v h.1,
      itemsFault?_eq room rest h.2]

theorem membersFault?_eq (room : Nat) : ∀ members : List (Text × Value),
    (∀ key ∈ memberKeys members, key.HasNoSurrogate) →
      membersFault? room members = depthFault? (memberLevels members) room
  | [], _ => rfl
  | (key, v) :: rest, h => by
    rw [memberKeys, List.forall_mem_cons, List.forall_mem_append] at h
    rw [membersFault?, memberLevels, depthFault?_max, h.1.keyFault?_eq, wireFault?_eq room v h.2.1,
      membersFault?_eq room rest h.2.2]
    rfl

end

end Json.Value

namespace Component

theorem propsFault?_cons (room : Nat) (key : Text) (v : Value) (rest : Members) :
    propsFault? room ((key, v) :: rest) =
      (v.wireFault? room).orElse fun _ => propsFault? room rest := by
  cases h : v.wireFault? room <;> simp [propsFault?, h]

theorem propsFault?_eq (room : Nat) (props : Members)
    (h : ∀ key ∈ Value.memberKeys props, key.HasNoSurrogate) :
    propsFault? room props = depthFault? (Value.memberLevels props) room := by
  induction props with
  | nil => rfl
  | cons first rest ih =>
    obtain ⟨key, v⟩ := first
    rw [Value.memberKeys, List.forall_mem_cons, List.forall_mem_append] at h
    rw [propsFault?_cons, Value.memberLevels, depthFault?_max, Value.wireFault?_eq room v h.2.1,
      ih h.2.2]

mutual

theorem wireFault?_eq (room : Nat) : ∀ c : Component,
    (∀ n ∈ c.preorder, ∀ key ∈ Value.memberKeys n.props, key.HasNoSurrogate) →
      c.wireFault? room = depthFault? c.levels (room + 1)
  | ⟨id, type, props, children⟩, h => by
    rw [preorder, List.forall_mem_cons] at h
    rw [wireFault?, levels, depthFault?_succ, depthFault?_max, propsFault?_eq room props h.1,
      wireFaultAll?_eq room children h.2]

theorem wireFaultAll?_eq (room : Nat) : ∀ cs : List Component,
    (∀ n ∈ preorderAll cs, ∀ key ∈ Value.memberKeys n.props, key.HasNoSurrogate) →
      wireFaultAll? room cs = depthFault? (levelsAll cs) room
  | [], _ => by cases room <;> rfl
  | c :: rest, h => by
    rw [preorderAll, List.forall_mem_append] at h
    cases room with
    | zero =>
      obtain ⟨id, type, props, children⟩ := c
      rw [levelsAll, depthFault?_max, levels, depthFault?_zero]
      rfl
    | succ room =>
      rw [wireFaultAll?, levelsAll, depthFault?_max, wireFault?_eq room c h.1,
        wireFaultAll?_eq (room + 1) rest h.2]

end

end Component

/-- A payload whose keys can be written has a wire form unless it nests too deeply. -/
theorem Payload.toWire_eq {p : Payload} (h : ∀ key ∈ p.keys, key.HasNoSurrogate) :
    p.toWire = if p.levels ≤ nestingLimit then .ok p.wireForm else .error .tooDeep := by
  have hkeys : ∀ n ∈ Component.preorderAll p.components, ∀ key ∈ Value.memberKeys n.props,
      key.HasNoSurrogate := by
    intro n hn key hkey
    rw [← nodes_eq_preorderAll] at hn
    exact h key (List.mem_flatMap.mpr ⟨n, hn, hkey⟩)
  rw [toWire, Component.wireFaultAll?_eq nestingLimit p.components hkeys, levels, depthFault?]
  by_cases hlevels : Component.levelsAll p.components ≤ nestingLimit
  · rw [if_pos hlevels, if_pos hlevels]
  · rw [if_neg hlevels, if_neg hlevels]

end AgentPanel
