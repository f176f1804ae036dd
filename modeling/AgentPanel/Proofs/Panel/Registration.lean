import AgentPanel.Panel.RegistryHistory
import AgentPanel.Proofs.Text.Order

/-!
# One registration

A registration is refused for four reasons, and the first one that applies is the one that is told
(`Registry.Refuses`). One that is accepted stores the capability under the trimmed tag and leaves
all else as it is. So the tags of a registry stay trimmed, not empty and all different
(`Registry.WellKeyed`), and its types are in strictly ascending order.
-/

namespace AgentPanel

namespace Text

/-- A text that begins with no blank loses none at its beginning, nor does what is left of it when
its end is trimmed. -/
theorem trimStart_trimEnd_trimStart (t : Text) :
    t.trimStart.trimEnd.trimStart = t.trimStart.trimEnd := by
  have hend : t.trimStart.trimEnd <+: t.trimStart := by
    have hsuffix := List.dropWhile_suffix CodePoint.isBlank (l := t.trimStart.reverse)
    rw [trimEnd, dropEndWhile]
    simpa using List.reverse_prefix.mpr hsuffix
  cases hkept : t.trimStart.trimEnd with
  | nil => rfl
  | cons c rest =>
    rw [hkept] at hend
    obtain ⟨lost, hlost⟩ := hend
    have hhead := List.head?_dropWhile_not CodePoint.isBlank t
    rw [show t.dropWhile CodePoint.isBlank = c :: (rest ++ lost) from hlost.symm] at hhead
    show (c :: rest).dropWhile CodePoint.isBlank = c :: rest
    exact List.dropWhile_cons_of_neg (by simpa using hhead)

theorem trim_trim (t : Text) : t.trim.trim = t.trim := by
  rw [trim, trim, trimStart_trimEnd_trimStart]
  have hback := List.head?_dropWhile_not CodePoint.isBlank t.trimStart.reverse
  rw [trimEnd, trimEnd, dropEndWhile, dropEndWhile, List.reverse_reverse]
  cases hkept : t.trimStart.reverse.dropWhile CodePoint.isBlank with
  | nil => rfl
  | cons c rest =>
    rw [hkept] at hback
    rw [List.dropWhile_cons_of_neg (by simpa using hback)]

end Text

namespace Registry

variable {r : Registry} {tag : Text} {offer : Offer} {overwrite : Bool}

/-- Why a registration fails: the first reason that applies. -/
inductive Refuses (r : Registry) (tag : Text) (overwrite : Bool) : Offer → RegistrationError → Prop
  | frozen {offer : Offer} (frozen : r.frozen = true) :
      Refuses r tag overwrite offer (.frozen r.name tag)
  | blankTag {offer : Offer} (isOpen : r.frozen = false) (blank : tag.trim.isEmpty = true) :
      Refuses r tag overwrite offer (.blankTag r.name)
  | notCallable (isOpen : r.frozen = false) (named : tag.trim.isEmpty = false) :
      Refuses r tag overwrite .notCallable (.notCallable r.name tag.trim)
  | taken {c : Capability} (isOpen : r.frozen = false) (named : tag.trim.isEmpty = false)
      (refused : overwrite = false) (taken : r.contains tag.trim = true) :
      Refuses r tag overwrite (.capability c) (.taken r.name tag.trim)

/-- The registry with a capability under a trimmed tag. -/
def store (r : Registry) (tag : Text) (c : Capability) : Registry :=
  { r with entries := r.entries.set tag.trim c }

theorem value_register_cases (r : Registry) (tag : Text) (offer : Offer) (overwrite : Bool) :
    (∃ e, (r.register tag offer overwrite).value = .error e ∧ r.Refuses tag overwrite offer e) ∨
      ∃ c, offer = .capability c ∧ r.frozen = false ∧ tag.trim.isEmpty = false ∧
        (overwrite = true ∨ r.contains tag.trim = false) ∧
        (r.register tag offer overwrite).value = .ok (r.store tag c) := by
  cases hfrozen : r.frozen with
  | true => exact .inl ⟨.frozen r.name tag, by simp [register, hfrozen], .frozen hfrozen⟩
  | false =>
    cases hblank : tag.trim.isEmpty with
    | true =>
      have hvalue : (r.register tag offer overwrite).value = .error (.blankTag r.name) := by
        simp [register, hfrozen, hblank]
      exact .inl ⟨_, hvalue, .blankTag hfrozen hblank⟩
    | false =>
      cases offer with
      | notCallable =>
        have hvalue : (r.register tag .notCallable overwrite).value =
            .error (.notCallable r.name tag.trim) := by
          simp [register, hfrozen, hblank]
        exact .inl ⟨_, hvalue, .notCallable hfrozen hblank⟩
      | capability c =>
        cases hcontains : r.contains tag.trim with
        | false =>
          refine .inr ⟨c, rfl, rfl, rfl, .inr rfl, ?_⟩
          simp [register, store, hfrozen, hblank, hcontains]
        | true =>
          cases hoverwrite : overwrite with
          | true =>
            refine .inr ⟨c, rfl, rfl, rfl, .inl rfl, ?_⟩
            simp [register, store, hfrozen, hblank, hcontains]
          | false =>
            refine .inl ⟨.taken r.name tag.trim, ?_, .taken hfrozen hblank rfl hcontains⟩
            simp [register, hfrozen, hblank, hcontains]

theorem Refuses.not_accepted {e : RegistrationError} (h : r.Refuses tag overwrite offer e)
    {c : Capability} (hoffer : offer = .capability c) (hopen : r.frozen = false)
    (hnamed : tag.trim.isEmpty = false) (hfree : overwrite = true ∨ r.contains tag.trim = false) :
    False := by
  cases h with
  | frozen hfrozen => rw [hopen] at hfrozen; cases hfrozen
  | blankTag _ hblank => rw [hnamed] at hblank; cases hblank
  | notCallable => cases hoffer
  | taken _ _ hrefused htaken =>
    rcases hfree with hforced | hfree
    · rw [hrefused] at hforced; cases hforced
    · rw [hfree] at htaken; cases htaken

theorem Refuses.unique {e f : RegistrationError} (h : r.Refuses tag overwrite offer e)
    (h' : r.Refuses tag overwrite offer f) : e = f := by
  cases h <;> cases h' <;> simp_all

/-- A registration fails just for the reasons there are. -/
theorem register_eq_error_iff {e : RegistrationError} :
    (r.register tag offer overwrite).value = .error e ↔ r.Refuses tag overwrite offer e := by
  rcases r.value_register_cases tag offer overwrite with
    ⟨f, hvalue, hrefuses⟩ | ⟨c, hoffer, hopen, hnamed, hfree, hvalue⟩
  · rw [hvalue]
    constructor
    · intro heq
      cases heq
      exact hrefuses
    · intro h
      rw [hrefuses.unique h]
  · rw [hvalue]
    constructor
    · exact nofun
    · intro h
      exact (h.not_accepted hoffer hopen hnamed hfree).elim

/-- Tags are trimmed, not empty, and all different. -/
structure WellKeyed (r : Registry) : Prop where
  nodup : r.entries.keys.Nodup
  trimmed : ∀ tag ∈ r.entries.keys, tag ≠ [] ∧ tag.trim = tag

theorem WellKeyed.store (h : r.WellKeyed) (hnamed : tag.trim.isEmpty = false) (c : Capability) :
    (r.store tag c).WellKeyed where
  nodup := Keyed.nodup_keys_set h.nodup
  trimmed := by
    intro other hother
    rcases Keyed.mem_keys_set.mp hother with rfl | hold
    · exact ⟨by simpa using hnamed, Text.trim_trim tag⟩
    · exact h.trimmed other hold

theorem WellKeyed.of_entries_eq {r' : Registry} (h : r.WellKeyed)
    (hentries : r'.entries = r.entries) : r'.WellKeyed := by
  constructor
  · rw [hentries]
    exact h.nodup
  · rw [hentries]
    exact h.trimmed

theorem wellKeyed_empty (name : Text) : (empty name).WellKeyed where
  nodup := List.nodup_nil
  trimmed := nofun

theorem wellKeyed_builtin : builtin.WellKeyed where
  nodup := by decide
  trimmed := by decide

theorem contains_iff : r.contains tag = true ↔ tag ∈ r.entries.keys := Keyed.isSome_get?_iff

theorem mem_types : tag ∈ r.types ↔ r.contains tag = true := by
  rw [types, List.mem_mergeSort, contains_iff]

theorem length_types (r : Registry) : r.types.length = r.size := by
  rw [types, List.length_mergeSort, Keyed.keys, List.length_map, size]

theorem WellKeyed.pairwise_types (h : r.WellKeyed) :
    r.types.Pairwise fun a b => Text.before a b = true :=
  Text.pairwise_before_mergeSort h.nodup

/-- Registering the builtin components one after the other makes the builtin registry. -/
theorem foldl_register_components :
    Builtin.components.foldl (fun (r : Except RegistrationError Registry) p => r.bind fun r =>
      (r.register p.1 (.capability (Builtin.capability p.1 p.2))).value) (.ok empty) =
      .ok builtin := rfl

end Registry

end AgentPanel
