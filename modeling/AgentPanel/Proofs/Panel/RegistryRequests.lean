import AgentPanel.Proofs.Panel.Registration

/-!
# Requests to a store of registries

What a request does to a store is said once: `RegistryRequest.change` for the registries that are
there, `RegistryRequest.added?` for the one that may come, and `registries_serve` says that there is
nothing else. A run changes no registry but those that its requests name
(`get?_foldl_serve_of_not_mem`), and a frozen one not at all (`get?_foldl_serve_of_frozen`). If a
run names only registries that are there, then the registry of the process is frozen
(`InstalledFrozen.foldl_serve`).
-/

namespace AgentPanel

/-! ## What a request does -/

namespace RegistryRequest

/-- The registries that a request names. -/
def handles : RegistryRequest → List Handle
  | copy h _ | register h _ _ _ | freeze h | install (some h) => [h]
  | new _ | newBuiltin | processWide | install none => []

/-- The registries that a request may change: those that it names, except to copy them. -/
def targets : RegistryRequest → List Handle
  | register h _ _ _ | freeze h | install (some h) => [h]
  | new _ | newBuiltin | copy _ _ | processWide | install none => []

/-- The request sets or unsets the registry that serves the whole process. -/
def isInstall : RegistryRequest → Bool
  | install _ => true
  | _ => false

/-- What a request makes of the registry at a handle. -/
def change (h : Handle) (r : Registry) : RegistryRequest → Registry
  | register k tag offer overwrite =>
    if k = h then
      match (r.register tag offer overwrite).value with
      | .ok changed => changed
      | .error _ => r
    else r
  | freeze k | install (some k) => if k = h then r.freeze else r
  | new _ | newBuiltin | copy _ _ | processWide | install none => r

/-- The registry that a request adds to a store. -/
def added? (s : RegistryStore) : RegistryRequest → Option Registry
  | new name => some (.empty name)
  | newBuiltin => some .builtin
  | copy h name => some (((s.get? h).getD .empty).copy name)
  | processWide => if s.installed.isSome then none else some Registry.builtin.freeze
  | register _ _ _ _ | freeze _ | install _ => none

theorem change_of_not_mem {h : Handle} {req : RegistryRequest} (r : Registry)
    (hreq : h ∉ req.targets) : req.change h r = r := by
  cases req with
  | register k tag offer overwrite =>
    have hne : k ≠ h := by simpa [targets, eq_comm] using hreq
    rw [change, if_neg hne]
  | freeze k =>
    have hne : k ≠ h := by simpa [targets, eq_comm] using hreq
    rw [change, if_neg hne]
  | install k =>
    cases k with
    | none => rfl
    | some k =>
      have hne : k ≠ h := by simpa [targets, eq_comm] using hreq
      rw [change, if_neg hne]
  | new | newBuiltin | copy | processWide => rfl

/-- A frozen registry cannot be changed. -/
theorem change_of_frozen (req : RegistryRequest) (h : Handle) {r : Registry}
    (hfrozen : r.frozen = true) : req.change h r = r := by
  have hsame : r.freeze = r := by
    rw [Registry.freeze, ← hfrozen]
  cases req with
  | register k tag offer overwrite =>
    have hrefuses : r.Refuses tag overwrite offer (.frozen r.name tag) := .frozen hfrozen
    have hrefused := Registry.register_eq_error_iff.mpr hrefuses
    rw [change, hrefused]
    exact ite_self r
  | freeze k =>
    rw [change, hsame]
    exact ite_self r
  | install k =>
    cases k with
    | none => rfl
    | some k =>
      rw [change, hsame]
      exact ite_self r
  | new | newBuiltin | copy | processWide => rfl

end RegistryRequest

namespace RegistryStore

variable {s : RegistryStore} {h k : Handle} {r : Registry} {req : RegistryRequest}

theorem get?_eq_none_iff : s.get? h = none ↔ s.registries.length ≤ h := List.getElem?_eq_none_iff

theorem lt_of_get? (hr : s.get? h = some r) : h < s.registries.length := by
  apply Nat.not_le.mp
  intro hle
  rw [get?_eq_none_iff.mpr hle] at hr
  cases hr

/-! ### Registrations -/

theorem value_register_of_none {tag : Text} {offer : Offer} {overwrite : Bool}
    (hk : s.get? k = none) : (s.register k tag offer overwrite).value = .ok s := by
  rw [register, hk]
  rfl

theorem value_register_of_some (hk : s.get? k = some r) (tag : Text) (offer : Offer)
    (overwrite : Bool) :
    (s.register k tag offer overwrite).value =
      match (r.register tag offer overwrite).value with
      | .ok changed => .ok (s.modify k fun _ => changed)
      | .error e => .error e := by
  rw [register, hk]
  simp only [Logged.value_bind]
  cases (r.register tag offer overwrite).value <;> rfl

theorem register_eq_error_iff {tag : Text} {offer : Offer} {overwrite : Bool}
    {e : RegistrationError} (hk : s.get? k = some r) :
    (s.register k tag offer overwrite).value = .error e ↔ r.Refuses tag overwrite offer e := by
  rw [value_register_of_some hk, ← Registry.register_eq_error_iff]
  cases (r.register tag offer overwrite).value with
  | ok changed => exact ⟨nofun, nofun⟩
  | error f => exact ⟨fun heq => by cases heq; rfl, fun heq => by cases heq; rfl⟩

theorem serve_register_of_error {tag : Text} {offer : Offer} {overwrite : Bool}
    {e : RegistrationError} (he : (s.register k tag offer overwrite).value = .error e) :
    s.serve (.register k tag offer overwrite) = s := by
  rw [serve, he]

theorem serve_register_of_ok {s' : RegistryStore} {tag : Text} {offer : Offer} {overwrite : Bool}
    (hok : (s.register k tag offer overwrite).value = .ok s') :
    s.serve (.register k tag offer overwrite) = s' := by
  rw [serve, hok]

/-- A registration is a change of the registry that it names, and of nothing else. -/
theorem exists_serve_register_eq_modify (s : RegistryStore) (k : Handle) (tag : Text)
    (offer : Offer) (overwrite : Bool) :
    ∃ f, s.serve (.register k tag offer overwrite) = s.modify k f ∧
      ∀ r, s.get? k = some r →
        f r = RegistryRequest.change k r (.register k tag offer overwrite) := by
  have hid : s.modify k id = s := by rw [modify, List.modify_id]
  cases hk : s.get? k with
  | none =>
    refine ⟨id, ?_, nofun⟩
    rw [serve_register_of_ok (value_register_of_none hk), hid]
  | some r =>
    have hvalue := value_register_of_some hk tag offer overwrite
    cases hr : (r.register tag offer overwrite).value with
    | error e =>
      rw [hr] at hvalue
      refine ⟨id, by rw [serve_register_of_error hvalue, hid], ?_⟩
      intro r' hr'
      cases hr'
      rw [RegistryRequest.change, if_pos rfl, hr]
      rfl
    | ok changed =>
      rw [hr] at hvalue
      refine ⟨fun _ => changed, serve_register_of_ok hvalue, ?_⟩
      intro r' hr'
      cases hr'
      rw [RegistryRequest.change, if_pos rfl, hr]

/-! ### Requests -/

theorem processWide_of_some (hk : s.installed = some k) : s.processWide = (s, k) := by
  rw [processWide, hk]

/-- The registry that was just added is frozen in its place. -/
theorem processWide_of_none (hnone : s.installed = none) :
    s.processWide =
      (⟨s.registries ++ [Registry.builtin.freeze], some s.registries.length⟩,
        s.registries.length) := by
  have hlast : (s.registries ++ [Registry.builtin]).modify s.registries.length Registry.freeze =
      s.registries ++ [Registry.builtin.freeze] := by
    rw [List.modify_eq_take_drop, List.take_left, List.drop_left]
    rfl
  rw [processWide, hnone, ← hlast]
  rfl

/-- A request changes the one registry that it may change, adds one, or leaves all as they are. -/
theorem registries_serve (s : RegistryStore) (req : RegistryRequest) :
    (∃ k f, req.targets = [k] ∧ req.added? s = none ∧
        (s.serve req).registries = s.registries.modify k f ∧
          ∀ r, s.get? k = some r → f r = req.change k r) ∨
      (∃ r, req.targets = [] ∧ req.added? s = some r ∧
        (s.serve req).registries = s.registries ++ [r]) ∨
      (req.targets = [] ∧ req.added? s = none ∧ (s.serve req).registries = s.registries) := by
  have hfreeze : ∀ k r, s.get? k = some r →
      r.freeze = RegistryRequest.change k r (.freeze k) := fun k r _ => (if_pos rfl).symm
  cases req with
  | register k tag offer overwrite =>
    obtain ⟨f, hserve, hf⟩ := s.exists_serve_register_eq_modify k tag offer overwrite
    exact .inl ⟨k, f, rfl, rfl, by rw [hserve]; rfl, hf⟩
  | freeze k => exact .inl ⟨k, Registry.freeze, rfl, rfl, rfl, hfreeze k⟩
  | install k =>
    cases k with
    | none => exact .inr (.inr ⟨rfl, rfl, rfl⟩)
    | some k => exact .inl ⟨k, Registry.freeze, rfl, rfl, rfl, hfreeze k⟩
  | new name => exact .inr (.inl ⟨_, rfl, rfl, rfl⟩)
  | newBuiltin => exact .inr (.inl ⟨_, rfl, rfl, rfl⟩)
  | copy k name => exact .inr (.inl ⟨_, rfl, rfl, rfl⟩)
  | processWide =>
    rw [serve, RegistryRequest.added?]
    cases hk : s.installed with
    | some k => exact .inr (.inr ⟨rfl, rfl, by rw [processWide_of_some hk]⟩)
    | none => exact .inr (.inl ⟨_, rfl, rfl, by rw [processWide_of_none hk]⟩)

/-- What a registry that is there becomes. -/
theorem get?_serve_of_some (hr : s.get? h = some r) (req : RegistryRequest) :
    (s.serve req).get? h = some (req.change h r) := by
  have hat : s.registries[h]? = some r := hr
  rcases s.registries_serve req with
    ⟨k, f, htargets, -, hserve, hf⟩ | ⟨new, htargets, -, hserve⟩ | ⟨htargets, -, hserve⟩
  · rw [get?, hserve]
    by_cases hkh : k = h
    · subst hkh
      rw [List.getElem?_modify_eq, hat]
      exact congrArg some (hf r hr)
    · have hnot : h ∉ req.targets := by
        rw [htargets, List.mem_singleton]
        exact Ne.symm hkh
      rw [List.getElem?_modify_ne _ _ hkh, hat, RegistryRequest.change_of_not_mem r hnot]
  · have hnot : h ∉ req.targets := by rw [htargets]; exact List.not_mem_nil
    rw [get?, hserve, List.getElem?_append_left (lt_of_get? hr), hat,
      RegistryRequest.change_of_not_mem r hnot]
  · have hnot : h ∉ req.targets := by rw [htargets]; exact List.not_mem_nil
    rw [get?, hserve, hat, RegistryRequest.change_of_not_mem r hnot]

/-- What a request adds stands at the end. -/
theorem get?_serve_length (s : RegistryStore) (req : RegistryRequest) :
    (s.serve req).get? s.registries.length = req.added? s := by
  have hend : s.registries[s.registries.length]? = none := List.getElem?_eq_none (Nat.le_refl _)
  rcases s.registries_serve req with
    ⟨k, f, -, hadded, hserve, -⟩ | ⟨new, -, hadded, hserve⟩ | ⟨-, hadded, hserve⟩
  · rw [get?, hserve, hadded, List.getElem?_modify, hend]
    rfl
  · rw [get?, hserve, hadded, List.getElem?_concat_length]
  · rw [get?, hserve, hadded, hend]

/-- A copy stands in a new place. -/
theorem get?_copy (hr : s.get? h = some r) (name : Text) :
    s.get? (s.copy h name).2 = none ∧
      (s.serve (.copy h name)).get? (s.copy h name).2 = some (r.copy name) := by
  have hadded := s.get?_serve_length (.copy h name)
  rw [RegistryRequest.added?, hr] at hadded
  exact ⟨get?_eq_none_iff.mpr (Nat.le_refl _), hadded⟩

/-! ### The registry of the process -/

/-- Only setting it, or using it for the first time, changes which registry serves the process. -/
theorem installed_serve (hinstall : req.isInstall = false) (hk : s.installed = some k) :
    (s.serve req).installed = some k := by
  cases req with
  | new | newBuiltin | copy | freeze => exact hk
  | install => cases hinstall
  | processWide =>
    rw [serve, processWide, hk]
    exact hk
  | register h tag offer overwrite =>
    obtain ⟨f, hserve, -⟩ := s.exists_serve_register_eq_modify h tag offer overwrite
    rw [hserve]
    exact hk

/-- The registry that serves the process is there, and frozen. -/
def InstalledFrozen (s : RegistryStore) : Prop :=
  ∀ k, s.installed = some k → ∃ r, s.get? k = some r ∧ r.frozen = true

/-- Using the registry of the process installs it, with the builtin components in a new place if it
was not set. -/
theorem InstalledFrozen.processWide (hs : s.InstalledFrozen) :
    s.processWide.1.installed = some s.processWide.2 ∧
      ∃ r, s.processWide.1.get? s.processWide.2 = some r ∧ r.frozen = true ∧
        (s.installed = none → s.get? s.processWide.2 = none ∧ r = Registry.builtin.freeze) := by
  cases hk : s.installed with
  | some k =>
    obtain ⟨r, hr, hfrozen⟩ := hs k hk
    rw [processWide_of_some hk]
    exact ⟨hk, r, hr, hfrozen, nofun⟩
  | none =>
    rw [processWide_of_none hk]
    refine ⟨rfl, _, List.getElem?_concat_length, rfl, ?_⟩
    intro _
    exact ⟨get?_eq_none_iff.mpr (Nat.le_refl _), rfl⟩

theorem installed_serve_cases (hk : (s.serve req).installed = some k) :
    req = .install (some k) ∨ req = .processWide ∨ s.installed = some k := by
  cases req with
  | install h =>
    have hsame : h = some k := by
      cases h with
      | none => cases hk
      | some h => exact hk
    exact .inl (congrArg RegistryRequest.install hsame)
  | processWide => exact .inr (.inl rfl)
  | new | newBuiltin | copy | freeze => exact .inr (.inr hk)
  | register h tag offer overwrite =>
    obtain ⟨f, hserve, -⟩ := s.exists_serve_register_eq_modify h tag offer overwrite
    rw [hserve] at hk
    exact .inr (.inr hk)

/-- A request that names registries that are there keeps the registry of the process frozen. -/
theorem InstalledFrozen.serve (hs : s.InstalledFrozen)
    (hthere : ∀ h ∈ req.handles, (s.get? h).isSome) : (s.serve req).InstalledFrozen := by
  intro k hk
  rcases installed_serve_cases hk with rfl | rfl | hold
  · obtain ⟨r, hr⟩ := Option.isSome_iff_exists.mp (hthere k (List.mem_singleton.mpr rfl))
    refine ⟨r.freeze, ?_, rfl⟩
    rw [get?_serve_of_some hr, RegistryRequest.change, if_pos rfl]
  · obtain ⟨hinstalled, r, hr, hfrozen, -⟩ := hs.processWide
    have hplace : k = s.processWide.2 := Option.some.inj (hk.symm.trans hinstalled)
    exact ⟨r, hplace ▸ hr, hfrozen⟩
  · obtain ⟨r, hr, hfrozen⟩ := hs k hold
    refine ⟨r, ?_, hfrozen⟩
    rw [get?_serve_of_some hr, RegistryRequest.change_of_frozen req k hfrozen]

/-! ### Histories -/

theorem afterHistory_append (history later : List RegistryRequest) :
    afterHistory (history ++ later) = later.foldl serve (afterHistory history) := List.foldl_append

theorem afterHistory_concat (history : List RegistryRequest) (req : RegistryRequest) :
    afterHistory (history ++ [req]) = (afterHistory history).serve req :=
  afterHistory_append history [req]

/-- What no request of a run changes stays as it is. -/
theorem get?_foldl_serve {later : List RegistryRequest} (hr : s.get? h = some r)
    (hsame : ∀ req ∈ later, req.change h r = r) : (later.foldl serve s).get? h = some r := by
  induction later generalizing s with
  | nil => exact hr
  | cons req later ih =>
    apply ih
    · rw [get?_serve_of_some hr, hsame req List.mem_cons_self]
    · intro other hother
      exact hsame other (List.mem_cons_of_mem req hother)

theorem get?_foldl_serve_of_frozen (hr : s.get? h = some r) (hfrozen : r.frozen = true)
    (later : List RegistryRequest) : (later.foldl serve s).get? h = some r :=
  get?_foldl_serve hr fun req _ => RegistryRequest.change_of_frozen req h hfrozen

theorem get?_foldl_serve_of_not_mem {later : List RegistryRequest} (hr : s.get? h = some r)
    (hlater : ∀ req ∈ later, h ∉ req.targets) : (later.foldl serve s).get? h = some r :=
  get?_foldl_serve hr fun req hreq => RegistryRequest.change_of_not_mem r (hlater req hreq)

theorem installed_foldl_serve {later : List RegistryRequest} (hk : s.installed = some k)
    (hlater : ∀ req ∈ later, req.isInstall = false) :
    (later.foldl serve s).installed = some k := by
  induction later generalizing s with
  | nil => exact hk
  | cons req later ih =>
    apply ih
    · exact installed_serve (hlater req List.mem_cons_self) hk
    · intro other hother
      exact hlater other (List.mem_cons_of_mem req hother)

/-- Each request of a run names only registries that are there when it is made. -/
def NamesExisting : RegistryStore → List RegistryRequest → Prop
  | _, [] => True
  | s, req :: later => (∀ h ∈ req.handles, (s.get? h).isSome) ∧ (s.serve req).NamesExisting later

instance decidableNamesExisting :
    (s : RegistryStore) → (later : List RegistryRequest) → Decidable (s.NamesExisting later)
  | _, [] => inferInstanceAs (Decidable True)
  | s, req :: later =>
    have := decidableNamesExisting (s.serve req) later
    inferInstanceAs (Decidable (_ ∧ _))

theorem InstalledFrozen.foldl_serve {later : List RegistryRequest} (hs : s.InstalledFrozen)
    (hnames : s.NamesExisting later) : (later.foldl RegistryStore.serve s).InstalledFrozen := by
  induction later generalizing s with
  | nil => exact hs
  | cons req later ih =>
    obtain ⟨hthere, hlater⟩ := hnames
    exact ih (hs.serve hthere) hlater

theorem installedFrozen_empty : empty.InstalledFrozen := nofun

end RegistryStore

end AgentPanel
