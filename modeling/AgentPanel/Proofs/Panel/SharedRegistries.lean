import Mathlib.Data.List.Forall2
import Mathlib.Data.List.Induction
import AgentPanel.Proofs.Panel.RegistryRequests

/-!
# Shared registries over time

Beside a store of registries runs a book, which only lists registrations. A registry follows its
record if each tag resolves to the latest registration of it (`Registry.Follows`); one request keeps
this for all registries (`RegistryBook.Describes.serve`), and so does a history. The main statement
is `RegistryStore.resolve_eq_latest`.
-/

namespace AgentPanel

/-! ## What the record says -/

namespace Keyed

variable {α : Type} {values : Keyed α}

/-- Of keys that are all different, the last one that fits is the only one. -/
theorem find?_reverse_eq_get? (hnodup : values.keys.Nodup) (key : Text) :
    (values.reverse.find? fun (k, _) => k = key).map Prod.snd = values.get? key := by
  induction values with
  | nil => rfl
  | cons first rest ih =>
    obtain ⟨k, a⟩ := first
    obtain ⟨hnot, hrest⟩ := List.nodup_cons.mp hnodup
    rw [List.reverse_cons, List.find?_append, get?, Option.map_or, ih hrest]
    by_cases hk : k = key
    · have hnone : get? key rest = none := by
        rw [← Option.not_isSome_iff_eq_none, isSome_get?_iff, ← hk]
        exact hnot
      rw [hnone, if_pos hk, List.find?_cons_of_pos (by simpa using hk)]
      rfl
    · rw [if_neg hk, List.find?_cons_of_neg (by simpa using hk)]
      exact Option.or_none

end Keyed

namespace Registry

variable {r : Registry} {record : RegistryRecord} {tag : Text} {offer : Offer} {overwrite : Bool}

/-- A registry is what its record makes of it: a tag resolves to its latest registration. -/
structure Follows (r : Registry) (record : RegistryRecord) : Prop where
  wellKeyed : r.WellKeyed
  frozen : r.frozen = record.frozen
  resolve : ∀ tag, r.resolve tag = record.latest tag

theorem follows_empty (name : Text) : (empty name).Follows ⟨[], false⟩ :=
  ⟨wellKeyed_empty name, rfl, fun _ => rfl⟩

theorem follows_builtin : builtin.Follows ⟨builtin.entries, false⟩ where
  wellKeyed := wellKeyed_builtin
  frozen := rfl
  resolve tag := (Keyed.find?_reverse_eq_get? wellKeyed_builtin.nodup tag).symm

theorem Follows.freeze (h : r.Follows record) : r.freeze.Follows { record with frozen := true } :=
  ⟨h.wellKeyed.of_entries_eq rfl, rfl, h.resolve⟩

theorem Follows.copy (h : r.Follows record) (name : Text) :
    (r.copy name).Follows ⟨record.registrations, false⟩ :=
  ⟨h.wellKeyed.of_entries_eq rfl, rfl, h.resolve⟩

theorem Follows.store (h : r.Follows record) (hnamed : tag.trim.isEmpty = false) (c : Capability) :
    (r.store tag c).Follows
      { record with registrations := record.registrations ++ [(tag.trim, c)] } := by
  refine ⟨h.wellKeyed.store hnamed c, h.frozen, ?_⟩
  intro other
  rw [Registry.resolve, Registry.store, Keyed.get?_set, RegistryRecord.latest,
    List.reverse_append, List.reverse_singleton, List.singleton_append]
  by_cases hother : other = tag.trim
  · rw [if_pos hother, List.find?_cons_of_pos (by simpa using hother.symm)]
    rfl
  · rw [if_neg hother, List.find?_cons_of_neg (by simpa using Ne.symm hother)]
    exact h.resolve other

/-- What a registry refuses is not recorded. -/
theorem Follows.register_of_refuses {e : RegistrationError} (h : r.Follows record)
    (hrefuses : r.Refuses tag overwrite offer e) :
    record.register tag offer overwrite = record := by
  cases offer with
  | notCallable => rfl
  | capability c =>
    rw [RegistryRecord.register, ← h.frozen, ← h.resolve]
    apply if_pos
    cases hrefuses with
    | frozen hfrozen => exact .inl hfrozen
    | blankTag _ hblank => exact .inr (.inl hblank)
    | taken _ _ hkeep htaken => exact .inr (.inr ⟨by rw [hkeep]; rfl, htaken⟩)

/-- What a registry accepts is recorded. -/
theorem Follows.register_of_accepted {c : Capability} (h : r.Follows record)
    (hopen : r.frozen = false) (hnamed : tag.trim.isEmpty = false)
    (hfree : overwrite = true ∨ r.contains tag.trim = false) :
    record.register tag (.capability c) overwrite =
      { record with registrations := record.registrations ++ [(tag.trim, c)] } := by
  rw [RegistryRecord.register, ← h.frozen, ← h.resolve]
  apply if_neg
  rintro (hfrozen | hblank | ⟨hkeep, htaken⟩)
  · rw [hopen] at hfrozen
    cases hfrozen
  · rw [hnamed] at hblank
    cases hblank
  · rcases hfree with hforced | hnew
    · rw [hforced] at hkeep
      cases hkeep
    · rw [contains] at hnew
      rw [hnew] at htaken
      cases htaken

/-- A registration makes of the registry what its record makes of the registration. -/
theorem Follows.register (h : r.Follows record) (k : Handle) (tag : Text) (offer : Offer)
    (overwrite : Bool) :
    (RegistryRequest.change k r (.register k tag offer overwrite)).Follows
      (record.register tag offer overwrite) := by
  rw [RegistryRequest.change, if_pos rfl]
  rcases r.value_register_cases tag offer overwrite with
    ⟨e, hvalue, hrefuses⟩ | ⟨c, rfl, hopen, hnamed, hfree, hvalue⟩
  · rw [hvalue, h.register_of_refuses hrefuses]
    exact h
  · rw [hvalue, h.register_of_accepted hopen hnamed hfree]
    exact h.store hnamed c

end Registry

namespace RegistryBook

variable {b : RegistryBook} {s : RegistryStore}

/-- Related lists stay related when related places of them are changed alike. -/
theorem forall₂_modify {α β : Type} {R : α → β → Prop} {l : List α} {m : List β} {k : Nat}
    {f : α → α} {g : β → β} (hlm : List.Forall₂ R l m)
    (hfg : ∀ x y, l[k]? = some x → R x y → R (f x) (g y)) :
    List.Forall₂ R (l.modify k f) (m.modify k g) := by
  induction hlm generalizing k with
  | nil =>
    rw [List.modify_nil, List.modify_nil]
    exact .nil
  | cons hxy hrest ih =>
    cases k with
    | zero =>
      rw [List.modify_zero_cons, List.modify_zero_cons]
      exact .cons (hfg _ _ rfl hxy) hrest
    | succ k =>
      rw [List.modify_succ_cons, List.modify_succ_cons]
      exact .cons hxy (ih hfg)

/-- A store holds what the book says. -/
structure Describes (b : RegistryBook) (s : RegistryStore) : Prop where
  follow : List.Forall₂ Registry.Follows s.registries b.records
  installed : s.installed = b.installed

theorem Describes.get? (hb : b.Describes s) {h : Handle} {r : Registry} (hr : s.get? h = some r) :
    ∃ record, b.get? h = some record ∧ r.Follows record := by
  have hlt := RegistryStore.lt_of_get? hr
  have hlt' : h < b.records.length := hb.follow.length_eq ▸ hlt
  have hsame : s.registries.get ⟨h, hlt⟩ = r := (List.getElem_eq_iff hlt).mpr hr
  exact ⟨b.records[h], List.getElem?_eq_getElem hlt', hsame ▸ hb.follow.get hlt hlt'⟩

theorem Describes.freeze (hb : b.Describes s) (h : Handle) : (b.freeze h).Describes (s.freeze h) :=
  ⟨forall₂_modify hb.follow fun _ _ _ hfollows => hfollows.freeze, hb.installed⟩

theorem Describes.add (hb : b.Describes s) {r : Registry} {record : RegistryRecord}
    (hfollows : r.Follows record) : (b.add record).Describes (s.add r).1 :=
  ⟨List.rel_append hb.follow (.cons hfollows .nil), hb.installed⟩

/-- Store and book take a request the same way. -/
theorem Describes.serve (hb : b.Describes s) (req : RegistryRequest) :
    (b.serve req).Describes (s.serve req) := by
  cases req with
  | new name => exact hb.add (Registry.follows_empty name)
  | newBuiltin => exact hb.add Registry.follows_builtin
  | copy h name =>
    apply hb.add
    cases hr : s.get? h with
    | some r =>
      obtain ⟨record, hrecord, hfollows⟩ := hb.get? hr
      rw [hrecord]
      exact hfollows.copy name
    | none =>
      have hnone : b.get? h = none := by
        have hle := RegistryStore.get?_eq_none_iff.mp hr
        rw [hb.follow.length_eq] at hle
        exact List.getElem?_eq_none hle
      rw [hnone]
      exact (Registry.follows_empty Registry.defaultName).copy name
  | processWide =>
    rw [RegistryBook.serve.eq_def, RegistryStore.serve]
    simp only [← hb.installed]
    cases hk : s.installed with
    | some k =>
      rw [RegistryStore.processWide_of_some hk]
      exact hb
    | none =>
      rw [RegistryStore.processWide_of_none hk]
      have hlast := hb.add Registry.follows_builtin.freeze
      exact ⟨hlast.follow, congrArg some hb.follow.length_eq⟩
  | install h =>
    cases h with
    | none => exact ⟨hb.follow, rfl⟩
    | some h => exact ⟨(hb.freeze h).follow, rfl⟩
  | register h tag offer overwrite =>
    obtain ⟨f, hserve, hf⟩ := s.exists_serve_register_eq_modify h tag offer overwrite
    rw [hserve]
    refine ⟨forall₂_modify hb.follow ?_, hb.installed⟩
    intro r record hr hfollows
    rw [hf r hr]
    exact hfollows.register h tag offer overwrite
  | freeze h => exact hb.freeze h

theorem afterHistory_concat (history : List RegistryRequest) (req : RegistryRequest) :
    afterHistory (history ++ [req]) = (afterHistory history).serve req := List.foldl_append

theorem describes_afterHistory (history : List RegistryRequest) :
    (afterHistory history).Describes (RegistryStore.afterHistory history) := by
  induction history using List.reverseRecOn with
  | nil => exact ⟨.nil, rfl⟩
  | append_singleton history req ih =>
    rw [RegistryStore.afterHistory_concat, afterHistory_concat]
    exact ih.serve req

theorem modify_congr {h : Handle} {f g : RegistryRecord → RegistryRecord}
    (hfg : ∀ record, b.get? h = some record → f record = g record) :
    b.modify h f = b.modify h g := by
  have hsame : b.records.modify h f = b.records.modify h g := by
    apply List.ext_getElem?
    intro k
    by_cases hk : h = k
    · subst hk
      rw [List.getElem?_modify_eq, List.getElem?_modify_eq]
      cases hrecord : b.records[h]? with
      | none => rfl
      | some record => exact congrArg some (hfg record hrecord)
    · rw [List.getElem?_modify_ne _ _ hk, List.getElem?_modify_ne _ _ hk]
  rw [modify, modify, hsame]

theorem modify_id (b : RegistryBook) (h : Handle) : b.modify h id = b := by
  rw [modify, List.modify_id]

section Registering

variable {h : Handle} {r : Registry} {tag : Text} {offer : Offer} {overwrite : Bool}

theorem Describes.serve_register_of_refuses {e : RegistrationError} (hb : b.Describes s)
    (hr : s.get? h = some r) (hrefuses : r.Refuses tag overwrite offer e) :
    b.serve (.register h tag offer overwrite) = b := by
  obtain ⟨record, hrecord, hfollows⟩ := hb.get? hr
  calc
    b.serve (.register h tag offer overwrite) = b.modify h id := by
      apply modify_congr
      intro other hother
      rw [hrecord] at hother
      cases hother
      exact hfollows.register_of_refuses hrefuses
    _ = b := b.modify_id h

theorem Describes.serve_register_of_accepted {c : Capability} (hb : b.Describes s)
    (hr : s.get? h = some r) (hopen : r.frozen = false) (hnamed : tag.trim.isEmpty = false)
    (hfree : overwrite = true ∨ r.contains tag.trim = false) :
    b.serve (.register h tag (.capability c) overwrite) =
      b.modify h fun record =>
        { record with registrations := record.registrations ++ [(tag.trim, c)] } := by
  obtain ⟨record, hrecord, hfollows⟩ := hb.get? hr
  apply modify_congr
  intro other hother
  rw [hrecord] at hother
  cases hother
  exact hfollows.register_of_accepted hopen hnamed hfree

theorem Describes.serve_register_of_ok {s' : RegistryStore} (hb : b.Describes s)
    (hr : s.get? h = some r) (hok : (s.register h tag offer overwrite).value = .ok s') :
    ∃ c, offer = .capability c ∧
      b.serve (.register h tag offer overwrite) = b.modify h fun record =>
        { record with registrations := record.registrations ++ [(tag.trim, c)] } := by
  rcases r.value_register_cases tag offer overwrite with
    ⟨e, -, hrefuses⟩ | ⟨c, rfl, hopen, hnamed, hfree, -⟩
  · have hfails := (RegistryStore.register_eq_error_iff hr).mpr hrefuses
    cases hok.symm.trans hfails
  · exact ⟨c, rfl, hb.serve_register_of_accepted hr hopen hnamed hfree⟩

end Registering

end RegistryBook

namespace RegistryStore

/-- Registries over time, whatever is asked of however many of them.

A registry resolves a tag to the capability of its latest registration, among those that it was
copied with and its own. Its tags are trimmed and not empty, and its types ascend. A registration is
refused for the reasons there are, and changes nothing then. A frozen registry stays as it is, and
so does one that no later request changes, whatever becomes of its copies or of what it was copied
from. The registry of the process is frozen whenever it is handed out, and it stays the same one
until another is installed. -/
theorem resolve_eq_latest (history : List RegistryRequest) :
    -- what a registry holds
    (∀ h r, (afterHistory history).get? h = some r →
      (∃ record, (RegistryBook.afterHistory history).get? h = some record ∧
        r.frozen = record.frozen ∧ ∀ tag, r.resolve tag = record.latest tag) ∧
      (∀ tag, r.contains tag = true → tag ≠ [] ∧ tag.trim = tag) ∧
      (∀ tag, tag ∈ r.types ↔ r.contains tag = true) ∧
      r.types.Pairwise (fun a b => Text.before a b = true) ∧ r.types.length = r.size) ∧
    -- a registration fails and changes nothing, or it is recorded
    (∀ h r tag offer overwrite, (afterHistory history).get? h = some r →
      let outcome := ((afterHistory history).register h tag offer overwrite).value
      let after := afterHistory (history ++ [.register h tag offer overwrite])
      let bookAfter := RegistryBook.afterHistory (history ++ [.register h tag offer overwrite])
      (∀ e, outcome = .error e ↔ r.Refuses tag overwrite offer e) ∧
      (∀ e, outcome = .error e →
        after = afterHistory history ∧ bookAfter = RegistryBook.afterHistory history) ∧
      (∀ s, outcome = .ok s → after = s ∧ ∃ c, offer = .capability c ∧
        bookAfter = (RegistryBook.afterHistory history).modify h fun record =>
          { record with registrations := record.registrations ++ [(tag.trim, c)] })) ∧
    -- what is frozen stays, and what is not named stays
    (∀ h r later, (afterHistory history).get? h = some r →
      (r.frozen = true ∨ ∀ req ∈ later, h ∉ req.targets) →
      (afterHistory (history ++ later)).get? h = some r) ∧
    -- a copy is another registry
    (∀ h r name later, (afterHistory history).get? h = some r →
      let copied := ((afterHistory history).copy h name).2
      let after := afterHistory (history ++ .copy h name :: later)
      (afterHistory history).get? copied = none ∧
      ((∀ req ∈ later, h ∉ req.targets) → after.get? h = some r) ∧
      ((∀ req ∈ later, copied ∉ req.targets) → after.get? copied = some (r.copy name))) ∧
    -- the registry of the process
    (empty.NamesExisting history → ∀ later, (∀ req ∈ later, req.isInstall = false) →
      let handed := ((afterHistory history).processWide).2
      let after := afterHistory (history ++ .processWide :: later)
      after.processWide = (after, handed) ∧
      ∃ r, ((afterHistory history).processWide).1.get? handed = some r ∧ r.frozen = true ∧
        after.get? handed = some r ∧
        ((afterHistory history).installed = none →
          (afterHistory history).get? handed = none ∧ r = Registry.builtin.freeze)) ∧
    (∀ h r later, (afterHistory history).get? h = some r →
      (∀ req ∈ later, req.isInstall = false) →
      let after := afterHistory (history ++ .install (some h) :: later)
      after.processWide = (after, h) ∧ after.get? h = some r.freeze) := by
  have hbook := RegistryBook.describes_afterHistory history
  have hconcat := fun req => RegistryBook.afterHistory_concat history req
  refine ⟨?_, ?_, ?_, ?_, ?_, ?_⟩
  · intro h r hr
    obtain ⟨record, hrecord, hfollows⟩ := hbook.get? hr
    refine ⟨⟨record, hrecord, hfollows.frozen, hfollows.resolve⟩, ?_, fun tag => Registry.mem_types,
      hfollows.wellKeyed.pairwise_types, r.length_types⟩
    intro tag htag
    exact hfollows.wellKeyed.trimmed tag (Registry.contains_iff.mp htag)
  · intro h r tag offer overwrite hr outcome after bookAfter
    have hafter : after = (afterHistory history).serve (.register h tag offer overwrite) :=
      afterHistory_concat history _
    have hbookAfter : bookAfter =
        (RegistryBook.afterHistory history).serve (.register h tag offer overwrite) := hconcat _
    refine ⟨fun e => register_eq_error_iff hr, ?_, ?_⟩
    · intro e he
      have hrefuses := (register_eq_error_iff hr).mp he
      exact ⟨hafter.trans (serve_register_of_error he),
        hbookAfter.trans (hbook.serve_register_of_refuses hr hrefuses)⟩
    · intro s hs
      obtain ⟨c, hc, hrecorded⟩ := hbook.serve_register_of_ok hr hs
      exact ⟨hafter.trans (serve_register_of_ok hs), c, hc, hbookAfter.trans hrecorded⟩
  · intro h r later hr hlater
    rw [afterHistory_append]
    rcases hlater with hfrozen | hlater
    · exact get?_foldl_serve_of_frozen hr hfrozen later
    · exact get?_foldl_serve_of_not_mem hr hlater
  · intro h r name later hr copied after
    have hafter : after = later.foldl serve ((afterHistory history).serve (.copy h name)) :=
      afterHistory_append history _
    obtain ⟨hfresh, hcopied⟩ := get?_copy hr name
    have hkept := get?_serve_of_some hr (.copy h name)
    rw [hafter]
    exact ⟨hfresh, get?_foldl_serve_of_not_mem hkept, get?_foldl_serve_of_not_mem hcopied⟩
  · intro hnames later hlater handed after
    have hafter : after = later.foldl serve (afterHistory history).processWide.1 :=
      afterHistory_append history _
    have hfrozen := installedFrozen_empty.foldl_serve hnames
    obtain ⟨hinstalled, r, hr, hrfrozen, hnew⟩ := hfrozen.processWide
    rw [hafter]
    have hsame := get?_foldl_serve_of_frozen hr hrfrozen later
    have hstays := processWide_of_some (installed_foldl_serve hinstalled hlater)
    exact ⟨hstays, r, hr, hrfrozen, hsame, hnew⟩
  · intro h r later hr hlater after
    have hafter : after = later.foldl serve ((afterHistory history).install (some h)) :=
      afterHistory_append history _
    have hfreeze : ((afterHistory history).install (some h)).get? h = some r.freeze := by
      have hserved := get?_serve_of_some hr (.install (some h))
      rw [RegistryRequest.change, if_pos rfl] at hserved
      exact hserved
    rw [hafter]
    exact ⟨processWide_of_some (installed_foldl_serve rfl hlater),
      get?_foldl_serve_of_frozen hfreeze rfl later⟩

/-- Makes the builtin registry and a copy, registers two types there, and is refused a third. -/
def copiedHistory (gauge : Capability) : List RegistryRequest :=
  [.newBuiltin, .copy 0 "panel", .register 1 " gauge " (.capability gauge) false,
    .register 1 "text" (.capability gauge) true, .register 1 "button" (.capability gauge) false]

theorem resolve_eq_latest_copied :
    let gauge := Builtin.capability "gauge" Builtin.statCard
    let history := copiedHistory gauge
    let later : List RegistryRequest := [.register 1 "dial" (.capability gauge) true]
    let installed := afterHistory (history ++ .install (some 1) :: later)
    empty.NamesExisting history ∧ (afterHistory history).get? 0 = some Registry.builtin ∧
      (∃ r, (afterHistory history).get? 1 = some r ∧ r.resolve "gauge" = some gauge ∧
        r.resolve "text" = some gauge ∧ r.resolve "dial" = none ∧
        r.resolve "button" = some (Builtin.capability "button" Builtin.button) ∧
        installed.processWide = (installed, 1) ∧ installed.get? 1 = some r.freeze) ∧
      ∃ r, (afterHistory (history ++ [.processWide, .freeze 0])).get? 2 = some r ∧
        r.frozen = true := by
  intro gauge history later installed
  have hnames : empty.NamesExisting history := by decide
  obtain ⟨r, hr⟩ : ∃ r, (afterHistory history).get? 1 = some r := ⟨_, rfl⟩
  obtain ⟨-, -, stays, -, -, -⟩ := resolve_eq_latest [.newBuiltin]
  obtain ⟨holds, -, -, -, process, install⟩ := resolve_eq_latest history
  obtain ⟨⟨record, hrecord, -, hlatest⟩, -⟩ := holds 1 r hr
  cases hrecord
  obtain ⟨hhanded, hfrozen⟩ := install 1 r later hr (by decide)
  obtain ⟨-, used, -, hused, hafter, -⟩ := process hnames [.freeze 0] (by decide)
  refine ⟨hnames, ?_, ⟨r, hr, ?_, ?_, ?_, ?_, hhanded, hfrozen⟩, used, hafter, hused⟩
  · exact stays 0 Registry.builtin _ rfl (.inr (by decide))
  all_goals
    rw [hlatest]
    rfl

end RegistryStore

end AgentPanel
