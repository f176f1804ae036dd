import AgentPanel.Proofs.Reader.Spelling

/-!
# The keys of a decoded value

No object in a decoded value has a key twice, at any depth
(`Value.distinctKeys_of_decodeWithin?`): where a text repeats a key, the later value takes the place
of the earlier one.
-/

namespace AgentPanel

theorem Keyed.mem_of_mem_set {α : Type} {key : Text} {a : α} {values : Keyed α} {member : Text × α}
    (h : member ∈ values.set key a) : member = (key, a) ∨ member ∈ values := by
  induction values with
  | nil => exact .inl (List.mem_singleton.mp h)
  | cons first rest ih =>
    obtain ⟨k, b⟩ := first
    rw [set] at h
    by_cases hk : k = key
    · rw [if_pos hk, hk] at h
      rcases List.mem_cons.mp h with hnew | hrest
      · exact .inl hnew
      · exact .inr (List.mem_cons_of_mem _ hrest)
    · rw [if_neg hk] at h
      rcases List.mem_cons.mp h with hfirst | hrest
      · exact .inr (hfirst ▸ List.mem_cons_self)
      · exact (ih hrest).imp_right (List.mem_cons_of_mem _)

namespace Json

/-- No object in the value has a key twice. -/
inductive Value.DistinctKeys : Value → Prop
  | null : DistinctKeys .null
  | bool (b : Bool) : DistinctKeys (.bool b)
  | int (n : Int) : DistinctKeys (.int n)
  | float (x : Double) : DistinctKeys (.float x)
  | text (t : Text) : DistinctKeys (.text t)
  | array {items : List Value} (each : ∀ v ∈ items, DistinctKeys v) : DistinctKeys (.array items)
  | object {members : List (Text × Value)} (nodup : (Keyed.keys members).Nodup)
      (each : ∀ member ∈ members, DistinctKeys member.2) : DistinctKeys (.object members)

namespace Value.DistinctKeys

variable {items : List Value} {members : Members} {v : Value}

theorem item (h : DistinctKeys (.array items)) (hv : v ∈ items) : v.DistinctKeys := by
  cases h with
  | array each => exact each v hv

theorem nodup_keys (h : DistinctKeys (.object members)) : members.keys.Nodup := by
  cases h with
  | object nodup _ => exact nodup

theorem member {key : Text} (h : DistinctKeys (.object members))
    (hv : members.get? key = some v) : v.DistinctKeys := by
  cases h with
  | object _ each => exact each _ (Keyed.mem_of_get? hv)

theorem empty : DistinctKeys (.object []) := .object List.Pairwise.nil nofun

theorem set (h : DistinctKeys (.object members)) (key : Text) (hv : v.DistinctKeys) :
    DistinctKeys (.object (members.set key v)) := by
  cases h with
  | object nodup each =>
    refine .object (Keyed.nodup_keys_set nodup) ?_
    intro member hmem
    rcases Keyed.mem_of_mem_set hmem with rfl | hold
    · exact hv
    · exact each member hold

theorem word (w : Word) : w.value.DistinctKeys := by
  cases w with
  | null => exact .null
  | true | false => exact .bool _
  | _ => exact .float _

theorem unsigned {negative : Bool} {t : Text} (h : unsignedValue? negative t = some v) :
    v.DistinctKeys := by
  unfold unsignedValue? at h
  split at h
  split at h
  · split at h
    · cases h
    · cases h
      exact .int _
  · cases h
    exact .float _
  · cases h
    exact .float _

theorem number {literal : Text} (h : numberValue? literal = some v) : v.DistinctKeys := by
  unfold numberValue? at h
  split at h
  · exact unsigned h
  · exact unsigned h

mutual

theorem document : ∀ (d : Document) {v : Value}, d.value? = some v → v.DistinctKeys
  | .word w, v, h => by
    cases h
    exact word w
  | .number literal, v, h => number h
  | .string atoms, v, h => by
    cases h
    exact .text _
  | .array _ items, v, h => by
    obtain ⟨vs, hvs, rfl⟩ := Option.map_eq_some_iff.mp h
    exact .array (documents items hvs)
  | .object _ members, v, h => by
    obtain ⟨ms, hms, rfl⟩ := Option.map_eq_some_iff.mp h
    exact documentMembers members empty hms

theorem documents : ∀ (items : List (Spaced Document)) {vs : List Value},
    Document.itemValues? items = some vs → ∀ v ∈ vs, v.DistinctKeys
  | [], _, h => by
    cases h
    exact nofun
  | ⟨_, d, _⟩ :: rest, vs, h => by
    obtain ⟨first, hfirst, h⟩ := Option.bind_eq_some_iff.mp h
    obtain ⟨others, hothers, h⟩ := Option.bind_eq_some_iff.mp h
    cases h
    exact List.forall_mem_cons.mpr ⟨document d hfirst, documents rest hothers⟩

theorem documentMembers : ∀ (members : List (Spaced (List Atom) × Spaced Document))
    {done ms : Members}, DistinctKeys (.object done) →
      Document.memberValues? done members = some ms → DistinctKeys (.object ms)
  | [], done, ms, hdone, h => by
    cases h
    exact hdone
  | (key, ⟨_, d, _⟩) :: rest, done, ms, hdone, h => by
    obtain ⟨v, hv, h⟩ := Option.bind_eq_some_iff.mp h
    exact documentMembers rest (hdone.set _ (document d hv)) h

end

end Value.DistinctKeys

theorem Value.distinctKeys_of_decodeWithin? {limit : Nat} {t : Text} {v : Value}
    (h : decodeWithin? limit t = some v) : v.DistinctKeys := by
  obtain ⟨d, -, hv⟩ := Reader.exists_document_of_decodeWithin? h
  exact .document d hv

end Json

end AgentPanel
