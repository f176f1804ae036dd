import AgentPanel.Text.Basic

/-!
# Values under keys

Objects, tables and registries keep values under text keys, each key once, in the order in which the
keys first appeared. Setting a key that is there already keeps its place.
-/

namespace AgentPanel

/-- Values under keys, in the order in which the keys first appeared. -/
abbrev Keyed (α : Type) := List (Text × α)

namespace Keyed

variable {α : Type}

/-- The value under a key. -/
def get? (key : Text) : Keyed α → Option α
  | [] => none
  | (k, a) :: rest => if k = key then some a else get? key rest

/-- Sets the value under a key: in the place of the old one if there is one, else at the end. -/
def set (key : Text) (value : α) : Keyed α → Keyed α
  | [] => [(key, value)]
  | (k, a) :: rest => if k = key then (k, value) :: rest else (k, a) :: set key value rest

/-- The key has a value. -/
def has (key : Text) (values : Keyed α) : Bool := (get? key values).isSome

/-- The values without the one under a key. -/
def without (key : Text) (values : Keyed α) : Keyed α := values.filter fun (k, _) => k ≠ key

/-- The first values with the second ones set in them. -/
def overlay (values new : Keyed α) : Keyed α :=
  new.foldl (fun values (k, a) => set k a values) values

/-- The keys, in order. -/
def keys (values : Keyed α) : List Text := values.map Prod.fst

/-! ## Looking up what was set -/

variable {key other : Text} {a : α} {values : Keyed α}

theorem get?_set (key other : Text) (a : α) (values : Keyed α) :
    get? other (set key a values) = if other = key then some a else get? other values := by
  induction values with
  | nil =>
    simp only [set, get?, eq_comm (a := key)]
  | cons first rest ih =>
    obtain ⟨k, b⟩ := first
    rw [set, get?]
    by_cases hk : k = key
    · rw [if_pos hk, get?, hk]
      by_cases h : other = key
      · rw [if_pos h, if_pos h.symm]
      · rw [if_neg h, if_neg (Ne.symm h), if_neg (Ne.symm h)]
    · rw [if_neg hk, get?, ih]
      by_cases h : other = key
      · have hother : k ≠ other := fun heq => hk (heq.trans h)
        rw [if_neg hother]
        simp only [h, if_true]
      · simp only [h, if_false]

/-! ## Keys -/

theorem isSome_get?_iff : (values.get? key).isSome ↔ key ∈ values.keys := by
  induction values with
  | nil => exact ⟨nofun, nofun⟩
  | cons first rest ih =>
    obtain ⟨k, b⟩ := first
    rw [get?, keys, List.map_cons, List.mem_cons]
    by_cases hk : k = key
    · simp [hk]
    · rw [if_neg hk, ih]
      simp [Ne.symm hk, keys]

theorem mem_keys_set {other : Text} :
    other ∈ (values.set key a).keys ↔ other = key ∨ other ∈ values.keys := by
  rw [← isSome_get?_iff, get?_set, ← isSome_get?_iff]
  by_cases h : other = key
  · simp [h]
  · simp [h]

theorem nodup_keys_set (h : values.keys.Nodup) : (values.set key a).keys.Nodup := by
  induction values with
  | nil => simp [set, keys]
  | cons first rest ih =>
    obtain ⟨k, b⟩ := first
    obtain ⟨hnot, hrest⟩ := List.nodup_cons.mp h
    rw [set]
    by_cases hk : k = key
    · rw [if_pos hk]
      exact h
    · rw [if_neg hk]
      apply List.nodup_cons.mpr
      refine ⟨?_, ih hrest⟩
      intro hmem
      rcases mem_keys_set.mp hmem with heq | hold
      · exact hk heq
      · exact hnot hold

theorem mem_of_get? (h : values.get? key = some a) : (key, a) ∈ values := by
  induction values with
  | nil => cases h
  | cons first rest ih =>
    obtain ⟨k, b⟩ := first
    rw [get?] at h
    by_cases hk : k = key
    · rw [if_pos hk] at h
      cases h
      rw [hk]
      exact List.mem_cons_self
    · rw [if_neg hk] at h
      exact List.mem_cons_of_mem _ (ih h)

theorem get?_eq_none_iff : values.get? key = none ↔ key ∉ values.keys := by
  rw [← isSome_get?_iff, Bool.not_eq_true, Option.isSome_eq_false_iff, Option.isNone_iff_eq_none]

/-! ## Values laid over others -/

theorem get?_overlay {new : Keyed α} (hnodup : new.keys.Nodup) (values : Keyed α) (key : Text) :
    (values.overlay new).get? key = (new.get? key).or (values.get? key) := by
  induction new generalizing values with
  | nil => rfl
  | cons first rest ih =>
    obtain ⟨k, a⟩ := first
    obtain ⟨hnot, hrest⟩ := List.nodup_cons.mp hnodup
    show ((values.set k a).overlay rest).get? key = _
    rw [ih hrest, get?_set, get?]
    by_cases hk : key = k
    · have hnone : get? k rest = none := get?_eq_none_iff.mpr hnot
      rw [if_pos hk, if_pos hk.symm, hk, hnone]
      rfl
    · rw [if_neg hk, if_neg (Ne.symm hk)]

theorem get?_without (values : Keyed α) (key other : Text) :
    (values.without key).get? other = if other = key then none else values.get? other := by
  induction values with
  | nil => exact (ite_self none).symm
  | cons first rest ih =>
    obtain ⟨k, a⟩ := first
    by_cases hk : k = key
    · have hdropped : without key ((k, a) :: rest) = without key rest := by simp [without, hk]
      rw [hdropped, ih, get?]
      by_cases hother : other = key
      · rw [if_pos hother, if_pos hother]
      · have hne : k ≠ other := fun heq => hother (heq.symm.trans hk)
        rw [if_neg hother, if_neg hother, if_neg hne]
    · have hkept : without key ((k, a) :: rest) = (k, a) :: without key rest := by
        simp [without, hk]
      rw [hkept, get?, get?, ih]
      by_cases hother : other = key
      · have hne : k ≠ other := fun heq => hk (heq.trans hother)
        rw [if_neg hne, if_pos hother, if_pos hother]
      · rw [if_neg hother]
        simp only [hother, if_false]

theorem nodup_keys_without (hnodup : values.keys.Nodup) : (values.without key).keys.Nodup :=
  hnodup.sublist (List.filter_sublist.map Prod.fst)

end Keyed

end AgentPanel
