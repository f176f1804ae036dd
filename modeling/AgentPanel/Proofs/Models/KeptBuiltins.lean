import AgentPanel.Models.PlainCatalog

/-!
# When kept builtin things show

A catalog keeps each builtin thing under the key that it was asked for, and a plain catalog does
not. Most requests are answered the same by both, but not all: a key under which a builtin thing is
kept counts as taken, and what is registered later for all names of its provider is not found under
it.

`Shows` tells these two cases by the plain catalog and the kept keys alone. A catalog gives the
answers of a plain one for exactly those histories in which neither case arises
(`answers_eq_iff_unnoticed`). Look-ups can then be left out of a history, and a catalog that is
filled before it is first asked never shows what it keeps.
-/

namespace AgentPanel

namespace Text

theorem splitAtFirst?_eq_some {mark : CodePoint} {t before after : Text}
    (h : splitAtFirst? mark t = some (before, after)) :
    mark ∉ before ∧ t = before ++ mark :: after := by
  induction t generalizing before after with
  | nil => cases h
  | cons c rest ih =>
    rw [splitAtFirst?] at h
    by_cases hc : c = mark
    · rw [if_pos hc] at h
      cases h
      exact ⟨List.not_mem_nil, by rw [hc]; rfl⟩
    · rw [if_neg hc] at h
      obtain ⟨⟨first, second⟩, hrest, heq⟩ := Option.map_eq_some_iff.mp h
      obtain ⟨hmem, hsplit⟩ := ih hrest
      cases heq
      refine ⟨?_, by rw [hsplit]; rfl⟩
      rw [List.mem_cons, not_or]
      exact ⟨Ne.symm hc, hmem⟩

theorem splitAtFirst?_append {mark : CodePoint} {before : Text} (h : mark ∉ before)
    (after : Text) : splitAtFirst? mark (before ++ mark :: after) = some (before, after) := by
  induction before with
  | nil => rw [List.nil_append, splitAtFirst?, if_pos rfl]
  | cons c rest ih =>
    rw [List.mem_cons, not_or] at h
    rw [List.cons_append, splitAtFirst?, if_neg (Ne.symm h.1), ih h.2]
    rfl

end Text

namespace Catalog

/-- The key for all names of a provider is also the one that it leads to itself. -/
theorem wildcard?_of_wildcard? {key wildcard : Text} (h : wildcard? key = some wildcard) :
    wildcard? wildcard = some wildcard := by
  rw [wildcard?] at h
  obtain ⟨⟨provider, name⟩, hsplit, rfl⟩ := Option.map_eq_some_iff.mp h
  have hprovider := (Text.splitAtFirst?_eq_some hsplit).1
  have hslash : Text.splitAtFirst? '/' (provider ++ "/*") = some (provider, ("*" : Text)) :=
    Text.splitAtFirst?_append hprovider "*"
  rw [wildcard?, hslash]
  rfl

end Catalog

/-! ## Kept keys, told by a plain catalog -/

namespace PlainCatalog

variable {α : Type}

/-- The builtin thing of a trimmed key: its own, or the one of its provider. -/
def builtinThing? (p : PlainCatalog α) (key : Text) : Option α :=
  (p.builtin.get? key).or ((Catalog.wildcard? key).bind fun wildcard => p.builtin.get? wildcard)

/-- A look-up of a trimmed key falls on a builtin thing that is not kept yet. -/
def keeps (p : PlainCatalog α) (kept : List Text) (key : Text) : Bool :=
  !p.registered.has key && !kept.contains key &&
    (p.builtin.has key || (Catalog.wildcard? key).any fun wildcard =>
      !p.registered.has wildcard && !kept.contains wildcard && p.builtin.has wildcard)

/-- The kept keys after a request. -/
def keptAfter (p : PlainCatalog α) (kept : List Text) : CatalogRequest α → List Text
  | .get key => if p.keeps kept key.trim then key.trim :: kept else kept
  | .register _ _ _ => kept

/-- The answer to a request shows that something is kept: a look-up under a kept key would now find
something else than the builtin thing, or a kept key is registered as if it were free. -/
def Shows (p : PlainCatalog α) (kept : List Text) : CatalogRequest α → Prop
  | .get key => key.trim ∈ kept ∧ p.registered.get? key.trim = none ∧
      p.get? key.trim ≠ p.builtinThing? key.trim
  | .register key _ overwrite => key.trim ∈ kept ∧ p.registered.get? key.trim = none ∧
      overwrite = false ∧ key.trim.isEmpty = false

/-- Nothing that is kept shows in the answers to a history. -/
def Unnoticed (p : PlainCatalog α) (kept : List Text) : List (CatalogRequest α) → Prop
  | [] => True
  | r :: rest => ¬p.Shows kept r ∧ (p.answer r).2.Unnoticed (p.keptAfter kept r) rest

theorem get?_of_registered {p : PlainCatalog α} {key : Text} {a : α}
    (h : p.registered.get? key = some a) : p.get? key = some a := by
  rw [get?, h]
  rfl

theorem get?_of_builtin {p : PlainCatalog α} {key : Text} {a : α}
    (hfree : p.registered.get? key = none) (h : p.builtin.get? key = some a) :
    p.get? key = some a := by
  rw [get?, hfree, h]
  rfl

theorem get?_of_free {p : PlainCatalog α} {key : Text} (hfree : p.registered.get? key = none)
    (hbuiltin : p.builtin.get? key = none) :
    p.get? key = (Catalog.wildcard? key).bind fun wildcard =>
      (p.registered.get? wildcard).or (p.builtin.get? wildcard) := by
  rw [get?, hfree, hbuiltin]
  rfl

theorem answer_get_of_some {p : PlainCatalog α} {key : Text} {a : α}
    (h : p.get? key.trim = some a) : p.answer (.get key) = (.found a, p) := by
  rw [answer, h]

theorem answer_get_of_none {p : PlainCatalog α} {key : Text} (h : p.get? key.trim = none) :
    p.answer (.get key) = (.refused (.unknown p.name key.trim), p) := by
  rw [answer, h]

/-- A plain catalog stays as it is when it is asked for something. -/
theorem answer_get_snd (p : PlainCatalog α) (key : Text) : (p.answer (.get key)).2 = p := by
  rw [answer]
  split <;> rfl

end PlainCatalog

/-! ## The two catalogs side by side -/

/-- The catalog holds what is registered in the plain one, and the builtin things of the kept keys
where nothing is registered. -/
structure Remembers {α : Type} (c : Catalog α) (p : PlainCatalog α) (kept : List Text) : Prop where
  name : c.name = p.name
  builtin : c.builtin = p.builtin
  entries : ∀ key, c.entries.get? key =
    (p.registered.get? key).or (if key ∈ kept then p.builtinThing? key else none)
  kept : ∀ key ∈ kept, ∃ a, p.builtinThing? key = some a

namespace Remembers

variable {α : Type} {c : Catalog α} {p : PlainCatalog α} {kept : List Text}

theorem start (name : Text) (builtin : Keyed α) :
    Remembers (⟨name, builtin, []⟩ : Catalog α) ⟨name, builtin, []⟩ [] where
  name := rfl
  builtin := rfl
  entries := fun _ => rfl
  kept := nofun

theorem entries_of_registered (h : Remembers c p kept) {key : Text} {a : α}
    (hkey : p.registered.get? key = some a) : c.entries.get? key = some a := by
  rw [h.entries, hkey]
  rfl

theorem entries_of_kept (h : Remembers c p kept) {key : Text}
    (hfree : p.registered.get? key = none) (hkept : key ∈ kept) :
    c.entries.get? key = p.builtinThing? key := by
  rw [h.entries, hfree, if_pos hkept]
  rfl

theorem entries_of_not_kept (h : Remembers c p kept) {key : Text}
    (hfree : p.registered.get? key = none) (hkept : key ∉ kept) : c.entries.get? key = none := by
  rw [h.entries, hfree, if_neg hkept]
  rfl

/-- What is kept under the key for all names of a provider is the builtin thing of that key. -/
theorem builtin_of_kept (h : Remembers c p kept) {key wildcard : Text}
    (hkey : Catalog.wildcard? key = some wildcard) (hkept : wildcard ∈ kept) :
    ∃ a, p.builtin.get? wildcard = some a ∧ p.builtinThing? wildcard = some a := by
  obtain ⟨a, ha⟩ := h.kept wildcard hkept
  have hself : p.builtinThing? wildcard = p.builtin.get? wildcard := by
    rw [PlainCatalog.builtinThing?, Catalog.wildcard?_of_wildcard? hkey]
    exact Option.or_self
  exact ⟨a, by rw [← hself, ha], ha⟩

/-- Keeping a builtin thing under a free key. -/
theorem keep (h : Remembers c p kept) {key : Text} {a : α}
    (hfree : p.registered.get? key = none) (ha : p.builtinThing? key = some a) :
    Remembers (c.keep key a) p (key :: kept) where
  name := h.name
  builtin := h.builtin
  entries := by
    intro other
    rw [Catalog.keep, Keyed.get?_set, h.entries]
    by_cases hother : other = key
    · rw [if_pos hother, hother, hfree, if_pos (List.mem_cons_self ..), ha]
      rfl
    · have hmem : other ∈ key :: kept ↔ other ∈ kept := by simp [hother]
      rw [if_neg hother]
      simp only [hmem]
  kept := by
    intro other hmem
    rcases List.mem_cons.mp hmem with rfl | hold
    · exact ⟨a, ha⟩
    · exact h.kept other hold

/-- Registering the same thing in both catalogs. -/
theorem register (h : Remembers c p kept) (key : Text) (a : α) :
    Remembers (c.keep key a) { p with registered := p.registered.set key a } kept where
  name := h.name
  builtin := h.builtin
  entries := by
    intro other
    rw [Catalog.keep, Keyed.get?_set, h.entries, Keyed.get?_set]
    by_cases hother : other = key
    · rw [if_pos hother, if_pos hother]
      rfl
    · rw [if_neg hother, if_neg hother]
      rfl
  kept := h.kept

/-! ## One request -/

theorem answer_get_of_entry {key : Text} {a : α} (ha : c.entries.get? key.trim = some a) :
    c.answer (.get key) = (.found a, c) := by
  rw [Catalog.answer, Catalog.get, ha]
  rfl

theorem answer_get_of_lookUp {key : Text} (hnone : c.entries.get? key.trim = none) :
    c.answer (.get key) =
      (.ofLookUp (c.lookUp key.trim).1, (c.lookUp key.trim).2) := by
  rw [Catalog.answer, Catalog.get, hnone]

/-- How a look-up ends in both catalogs: on a builtin thing that is kept from then on, on a thing
that is there already, or on nothing. -/
inductive Finds (c : Catalog α) (p : PlainCatalog α) (kept : List Text) (key : Text) : Prop
  | kept (a : α) (lookUp : c.lookUp key = (.ok a, c.keep key a)) (get : p.get? key = some a)
      (thing : p.builtinThing? key = some a) (keeps : p.keeps kept key = true)
  | there (a : α) (lookUp : c.lookUp key = (.ok a, c)) (get : p.get? key = some a)
      (keeps : p.keeps kept key = false)
  | nothing (lookUp : c.lookUp key = (.error (.unknown p.name key), c)) (get : p.get? key = none)
      (keeps : p.keeps kept key = false)

theorem finds_of_builtin (h : Remembers c p kept) {key : Text} {a : α}
    (hfree : p.registered.get? key = none) (hkept : key ∉ kept)
    (hexact : p.builtin.get? key = some a) : Finds c p kept key := by
  have hlook : c.lookUp key = (.ok a, c.keep key a) := by
    rw [Catalog.lookUp, h.builtin, hexact]
  have hthing : p.builtinThing? key = some a := by
    rw [PlainCatalog.builtinThing?, hexact]
    rfl
  have hkeeps : p.keeps kept key = true := by
    simp [PlainCatalog.keeps, Keyed.has, hfree, hkept, hexact]
  exact .kept a hlook (PlainCatalog.get?_of_builtin hfree hexact) hthing hkeeps

theorem finds_of_no_provider (h : Remembers c p kept) {key : Text}
    (hfree : p.registered.get? key = none) (hexact : p.builtin.get? key = none)
    (hwild : Catalog.wildcard? key = none) : Finds c p kept key := by
  have hlook : c.lookUp key = (.error (.unknown p.name key), c) := by
    rw [Catalog.lookUp, h.builtin, h.name, hexact, hwild]
  have hget : p.get? key = none := by
    rw [PlainCatalog.get?_of_free hfree hexact, hwild]
    rfl
  have hkeeps : p.keeps kept key = false := by
    simp [PlainCatalog.keeps, Keyed.has, hexact, hwild]
  exact .nothing hlook hget hkeeps

section Provider

variable {key wildcard : Text} (hfree : p.registered.get? key = none) (hkept : key ∉ kept)
  (hexact : p.builtin.get? key = none)

include hfree hkept hexact

theorem keeps_of_provider (hwild : Catalog.wildcard? key = some wildcard) :
    p.keeps kept key =
      (!p.registered.has wildcard && !kept.contains wildcard && p.builtin.has wildcard) := by
  simp [PlainCatalog.keeps, Keyed.has, hfree, hkept, hexact, hwild]

/-- A look-up that goes on to the provider of the key finds what stands there. -/
theorem finds_of_provider (h : Remembers c p kept)
    (hwild : Catalog.wildcard? key = some wildcard) : Finds c p kept key := by
  have hget : p.get? key = (p.registered.get? wildcard).or (p.builtin.get? wildcard) := by
    rw [PlainCatalog.get?_of_free hfree hexact, hwild, Option.bind_some]
  have hkeeps := keeps_of_provider hfree hkept hexact hwild
  rw [Keyed.has] at hkeeps
  cases hregistered : p.registered.get? wildcard with
  | some a =>
    have hlook : c.lookUp key = (.ok a, c) := by
      simp only [Catalog.lookUp, h.builtin, hexact, hwild, h.entries_of_registered hregistered]
    rw [hregistered] at hget hkeeps
    exact .there a hlook hget hkeeps
  | none =>
    rw [hregistered, Option.none_or] at hget
    by_cases hmem : wildcard ∈ kept
    · -- an earlier look-up has kept the builtin thing for all names of the provider
      obtain ⟨a, hbuiltin, hthing⟩ := h.builtin_of_kept hwild hmem
      have hentry := (h.entries_of_kept hregistered hmem).trans hthing
      have hlook : c.lookUp key = (.ok a, c) := by
        simp only [Catalog.lookUp, h.builtin, hexact, hwild, hentry]
      have hcontains : kept.contains wildcard = true := List.contains_iff_mem.mpr hmem
      rw [hregistered, hcontains] at hkeeps
      exact .there a hlook (hget.trans hbuiltin) hkeeps
    · have hentry := h.entries_of_not_kept hregistered hmem
      have hcontains : kept.contains wildcard = false := by simpa using hmem
      rw [hregistered, hcontains, Keyed.has] at hkeeps
      cases hbuiltin : p.builtin.get? wildcard with
      | some a =>
        have hlook : c.lookUp key = (.ok a, c.keep key a) := by
          simp only [Catalog.lookUp, h.builtin, hexact, hwild, hentry, hbuiltin]
        have hthing : p.builtinThing? key = some a := by
          rw [PlainCatalog.builtinThing?, hexact, hwild, Option.none_or, Option.bind_some, hbuiltin]
        rw [hbuiltin] at hkeeps
        exact .kept a hlook (hget.trans hbuiltin) hthing hkeeps
      | none =>
        have hlook : c.lookUp key = (.error (.unknown p.name key), c) := by
          simp only [Catalog.lookUp, h.builtin, h.name, hexact, hwild, hentry, hbuiltin]
        rw [hbuiltin] at hkeeps
        exact .nothing hlook (hget.trans hbuiltin) hkeeps

end Provider

/-- A look-up under a free key that nothing is kept under: both catalogs find the same. -/
theorem finds (h : Remembers c p kept) {key : Text} (hfree : p.registered.get? key = none)
    (hkept : key ∉ kept) : Finds c p kept key := by
  cases hexact : p.builtin.get? key with
  | some a => exact h.finds_of_builtin hfree hkept hexact
  | none =>
    cases hwild : Catalog.wildcard? key with
    | none => exact h.finds_of_no_provider hfree hexact hwild
    | some wildcard => exact h.finds_of_provider hfree hkept hexact hwild

theorem keptAfter_get_of_registered {key : Text} {a : α}
    (hkey : p.registered.get? key.trim = some a) : p.keptAfter kept (.get key) = kept := by
  have hkeeps : p.keeps kept key.trim = false := by simp [PlainCatalog.keeps, Keyed.has, hkey]
  rw [PlainCatalog.keptAfter, hkeeps]
  rfl

theorem keptAfter_get_of_kept {key : Text} (hkept : key.trim ∈ kept) :
    p.keptAfter kept (.get key) = kept := by
  have hkeeps : p.keeps kept key.trim = false := by simp [PlainCatalog.keeps, hkept]
  rw [PlainCatalog.keptAfter, hkeeps]
  rfl

theorem answer_get (h : Remembers c p kept) {key : Text} (hshows : ¬p.Shows kept (.get key)) :
    (c.answer (.get key)).1 = (p.answer (.get key)).1 ∧
      Remembers (c.answer (.get key)).2 p (p.keptAfter kept (.get key)) := by
  cases hfree : p.registered.get? key.trim with
  | some a =>
    rw [answer_get_of_entry (h.entries_of_registered hfree),
      PlainCatalog.answer_get_of_some (PlainCatalog.get?_of_registered hfree),
      keptAfter_get_of_registered hfree]
    exact ⟨rfl, h⟩
  | none =>
    by_cases hkept : key.trim ∈ kept
    · -- what is kept is what the plain catalog finds, or else it would show
      obtain ⟨a, ha⟩ := h.kept key.trim hkept
      have hentry := (h.entries_of_kept hfree hkept).trans ha
      have hsame : p.get? key.trim = some a := by
        apply Classical.byContradiction
        intro hne
        exact hshows ⟨hkept, hfree, by rw [ha]; exact hne⟩
      rw [answer_get_of_entry hentry, PlainCatalog.answer_get_of_some hsame,
        keptAfter_get_of_kept hkept]
      exact ⟨rfl, h⟩
    · rw [answer_get_of_lookUp (h.entries_of_not_kept hfree hkept), PlainCatalog.keptAfter]
      cases h.finds hfree hkept with
      | kept a hlook hget hthing hkeeps =>
        rw [hlook, PlainCatalog.answer_get_of_some hget, if_pos hkeeps]
        exact ⟨rfl, h.keep hfree hthing⟩
      | there a hlook hget hkeeps =>
        rw [hlook, PlainCatalog.answer_get_of_some hget, hkeeps]
        exact ⟨rfl, h⟩
      | nothing hlook hget hkeeps =>
        rw [hlook, PlainCatalog.answer_get_of_none hget, hkeeps]
        exact ⟨rfl, h⟩

theorem answer_get_ne (h : Remembers c p kept) {key : Text} (hshows : p.Shows kept (.get key)) :
    (c.answer (.get key)).1 ≠ (p.answer (.get key)).1 := by
  obtain ⟨hkept, hfree, hne⟩ := hshows
  obtain ⟨a, ha⟩ := h.kept key.trim hkept
  rw [ha] at hne
  rw [answer_get_of_entry ((h.entries_of_kept hfree hkept).trans ha)]
  cases hget : p.get? key.trim with
  | none =>
    rw [PlainCatalog.answer_get_of_none hget]
    exact nofun
  | some b =>
    rw [PlainCatalog.answer_get_of_some hget]
    intro heq
    cases heq
    exact hne hget

/-! The plain catalog takes a registration under the same conditions, but for the kept keys. -/

theorem has_of_registered (h : Remembers c p kept) {key : Text} {a : α}
    (hkey : p.registered.get? key = some a) :
    c.entries.has key = true ∧ p.registered.has key = true := by
  rw [Keyed.has, Keyed.has, h.entries_of_registered hkey, hkey]
  exact ⟨rfl, rfl⟩

theorem has_of_kept (h : Remembers c p kept) {key : Text}
    (hfree : p.registered.get? key = none) (hkept : key ∈ kept) :
    c.entries.has key = true ∧ p.registered.has key = false := by
  obtain ⟨a, ha⟩ := h.kept key hkept
  rw [Keyed.has, Keyed.has, h.entries_of_kept hfree hkept, ha, hfree]
  exact ⟨rfl, rfl⟩

theorem has_of_not_kept (h : Remembers c p kept) {key : Text}
    (hfree : p.registered.get? key = none) (hkept : key ∉ kept) :
    c.entries.has key = false ∧ p.registered.has key = false := by
  rw [Keyed.has, Keyed.has, h.entries_of_not_kept hfree hkept, hfree]
  exact ⟨rfl, rfl⟩

theorem answer_register (h : Remembers c p kept) {key : Text} {a : α} {overwrite : Bool}
    (hshows : ¬p.Shows kept (.register key a overwrite)) :
    (c.answer (.register key a overwrite)).1 = (p.answer (.register key a overwrite)).1 ∧
      Remembers (c.answer (.register key a overwrite)).2
        (p.answer (.register key a overwrite)).2 kept := by
  rw [Catalog.answer, Catalog.register, PlainCatalog.answer, h.name]
  by_cases hblank : key.trim.isEmpty
  · rw [if_pos hblank, if_pos hblank]
    exact ⟨rfl, h⟩
  have hsame : (!overwrite && c.entries.has key.trim) =
      (!overwrite && p.registered.has key.trim) := by
    cases hoverwrite : overwrite with
    | true => rfl
    | false =>
      cases hfree : p.registered.get? key.trim with
      | some b => rw [(h.has_of_registered hfree).1, (h.has_of_registered hfree).2]
      | none =>
        have hkept : key.trim ∉ kept := by
          intro hmem
          exact hshows ⟨hmem, hfree, hoverwrite, by simpa using hblank⟩
        rw [(h.has_of_not_kept hfree hkept).1, (h.has_of_not_kept hfree hkept).2]
  rw [if_neg hblank, if_neg hblank, hsame]
  by_cases htaken : (!overwrite && p.registered.has key.trim) = true
  · rw [if_pos htaken, if_pos htaken]
    exact ⟨rfl, h⟩
  · rw [if_neg htaken, if_neg htaken]
    exact ⟨rfl, h.register key.trim a⟩

theorem answer_register_ne (h : Remembers c p kept) {key : Text} {a : α} {overwrite : Bool}
    (hshows : p.Shows kept (.register key a overwrite)) :
    (c.answer (.register key a overwrite)).1 ≠ (p.answer (.register key a overwrite)).1 := by
  obtain ⟨hkept, hfree, rfl, hblank⟩ := hshows
  obtain ⟨hcatalog, hplain⟩ := h.has_of_kept hfree hkept
  rw [Catalog.answer, Catalog.register, PlainCatalog.answer, hblank, hcatalog, hplain]
  exact nofun

/-- A request that shows nothing is answered the same, and the catalogs stay side by side. -/
theorem answer (h : Remembers c p kept) {r : CatalogRequest α} (hshows : ¬p.Shows kept r) :
    (c.answer r).1 = (p.answer r).1 ∧
      Remembers (c.answer r).2 (p.answer r).2 (p.keptAfter kept r) := by
  cases r with
  | get key =>
    rw [PlainCatalog.answer_get_snd]
    exact h.answer_get hshows
  | register key a overwrite => exact h.answer_register hshows

theorem answer_ne (h : Remembers c p kept) {r : CatalogRequest α} (hshows : p.Shows kept r) :
    (c.answer r).1 ≠ (p.answer r).1 := by
  cases r with
  | get key => exact h.answer_get_ne hshows
  | register key a overwrite => exact h.answer_register_ne hshows

/-! ## A history -/

/-- The first request that shows something is also the first one that is answered otherwise. -/
theorem answers_eq_iff (h : Remembers c p kept) (history : List (CatalogRequest α)) :
    c.answers history = p.answers history ↔ p.Unnoticed kept history := by
  induction history generalizing c p kept with
  | nil => exact ⟨fun _ => trivial, fun _ => rfl⟩
  | cons r rest ih =>
    rw [Catalog.answers, PlainCatalog.answers, PlainCatalog.Unnoticed, List.cons.injEq]
    by_cases hshows : p.Shows kept r
    · constructor
      · intro heq
        exact absurd heq.1 (h.answer_ne hshows)
      · intro hunnoticed
        exact absurd hshows hunnoticed.1
    · obtain ⟨hanswer, hnext⟩ := h.answer hshows
      constructor
      · intro heq
        exact ⟨hshows, (ih hnext).mp heq.2⟩
      · intro hunnoticed
        exact ⟨hanswer, (ih hnext).mpr hunnoticed.2⟩

end Remembers

/-! ## Leaving look-ups out -/

/-- The request asks for something. -/
def CatalogRequest.isGet {α : Type} : CatalogRequest α → Bool
  | get _ => true
  | register _ _ _ => false

namespace PlainCatalog

variable {α : Type}

/-- Look-ups that are left out change no other answer of a plain catalog. -/
theorem answers_filter (p : PlainCatalog α) (marked : List (CatalogRequest α × Bool))
    (hmarked : ∀ x ∈ marked, x.2 = false → x.1.isGet) :
    p.answers ((marked.filter Prod.snd).map Prod.fst) =
      (((p.answers (marked.map Prod.fst)).zip marked).filter (·.2.2)).map Prod.fst := by
  induction marked generalizing p with
  | nil => rfl
  | cons first rest ih =>
    obtain ⟨r, mark⟩ := first
    have hrest : ∀ x ∈ rest, x.2 = false → x.1.isGet :=
      fun x hx => hmarked x (List.mem_cons_of_mem _ hx)
    cases mark with
    | true =>
      simp only [List.filter_cons, List.map_cons, answers, List.zip_cons_cons, if_true]
      rw [ih _ hrest]
    | false =>
      have hget := hmarked _ (List.mem_cons_self ..) rfl
      cases r with
      | register key a overwrite => cases hget
      | get key =>
        -- the plain catalog is the same with and without the look-up
        have hsame : (p.answer (.get key)).2 = p := answer_get_snd p key
        simp only [List.filter_cons, List.map_cons, answers, List.zip_cons_cons, hsame]
        exact ih p hrest

theorem unnoticed_append {p : PlainCatalog α} {earlier later : List (CatalogRequest α)}
    (hearlier : ∀ r ∈ earlier, r.isGet = false)
    (hlater : ∀ q : PlainCatalog α, q.Unnoticed [] later) : p.Unnoticed [] (earlier ++ later) := by
  induction earlier generalizing p with
  | nil => exact hlater p
  | cons r rest ih =>
    cases r with
    | get key => cases hearlier _ (List.mem_cons_self ..)
    | register key a overwrite =>
      refine ⟨fun hshows => List.not_mem_nil hshows.1, ?_⟩
      exact ih fun r hr => hearlier r (List.mem_cons_of_mem _ hr)

theorem get?_eq_builtinThing?_of_keeps {p : PlainCatalog α} {kept : List Text} {key : Text}
    (h : p.keeps kept key = true) : p.get? key = p.builtinThing? key := by
  simp only [keeps, Bool.and_eq_true, Bool.not_eq_true', Keyed.has, Option.isSome_eq_false_iff,
    Option.isNone_iff_eq_none] at h
  obtain ⟨⟨hfree, -⟩, hbuiltin⟩ := h
  rw [get?, builtinThing?, hfree, Option.none_or]
  cases hexact : p.builtin.get? key with
  | some a => rfl
  | none =>
    rw [Option.none_or, Option.none_or]
    rw [hexact] at hbuiltin
    cases hwild : Catalog.wildcard? key with
    | none => rfl
    | some wildcard =>
      have hwildcard : p.registered.get? wildcard = none := by
        simp only [hwild, Option.isSome_none, Bool.false_or, Option.any_some, Bool.and_eq_true,
          Bool.not_eq_true', Option.isSome_eq_false_iff, Option.isNone_iff_eq_none] at hbuiltin
        exact hbuiltin.1.1
      rw [Option.bind_some, Option.bind_some, hwildcard, Option.none_or]

/-- While nothing is registered, what is kept stays what a look-up finds. -/
theorem unnoticed_of_forall_isGet {p : PlainCatalog α} {kept : List Text}
    {lookUps : List (CatalogRequest α)} (h : ∀ r ∈ lookUps, r.isGet)
    (hkept : ∀ key ∈ kept, p.get? key = p.builtinThing? key) : p.Unnoticed kept lookUps := by
  induction lookUps generalizing kept with
  | nil => trivial
  | cons r rest ih =>
    cases r with
    | register key a overwrite => cases h _ (List.mem_cons_self ..)
    | get key =>
      refine ⟨fun hshows => hshows.2.2 (hkept _ hshows.1), ?_⟩
      rw [answer_get_snd]
      apply ih (fun r hr => h r (List.mem_cons_of_mem _ hr))
      intro other hother
      rw [keptAfter] at hother
      by_cases hkeeps : p.keeps kept key.trim = true
      · rw [if_pos hkeeps] at hother
        rcases List.mem_cons.mp hother with rfl | hold
        · exact get?_eq_builtinThing?_of_keeps hkeeps
        · exact hkept other hold
      · rw [if_neg hkeeps] at hother
        exact hkept other hother

end PlainCatalog

namespace Catalog

/-- A catalog answers a history as a plain one does just when nothing that it keeps shows. Look-ups
may then be left out, and nothing shows when all registrations come before the first look-up. -/
theorem answers_eq_iff_unnoticed {α : Type} (name : Text) (builtin : Keyed α) :
    let catalog : Catalog α := ⟨name, builtin, []⟩
    let plain : PlainCatalog α := ⟨name, builtin, []⟩
    (∀ history, catalog.answers history = plain.answers history ↔ plain.Unnoticed [] history) ∧
      (∀ marked : List (CatalogRequest α × Bool), (∀ x ∈ marked, x.2 = false → x.1.isGet) →
        plain.Unnoticed [] (marked.map Prod.fst) →
          plain.Unnoticed [] ((marked.filter Prod.snd).map Prod.fst) →
            catalog.answers ((marked.filter Prod.snd).map Prod.fst) =
              (((catalog.answers (marked.map Prod.fst)).zip marked).filter (·.2.2)).map Prod.fst) ∧
      ∀ registrations lookUps : List (CatalogRequest α), (∀ r ∈ registrations, r.isGet = false) →
        (∀ r ∈ lookUps, r.isGet) → plain.Unnoticed [] (registrations ++ lookUps) := by
  intro catalog plain
  have hstart : Remembers catalog plain [] := Remembers.start name builtin
  refine ⟨hstart.answers_eq_iff, ?_, ?_⟩
  · intro marked hmarked hall hleft
    rw [(hstart.answers_eq_iff _).mpr hall, (hstart.answers_eq_iff _).mpr hleft]
    exact plain.answers_filter marked hmarked
  · intro registrations lookUps hregistrations hlookUps
    apply PlainCatalog.unnoticed_append hregistrations
    intro q
    exact PlainCatalog.unnoticed_of_forall_isGet hlookUps nofun

/-- A model registered for itself and the builtin one of its provider, each asked for twice; the
second mark leaves a look-up out. -/
def filledFirst : List (CatalogRequest Nat × Bool) := [
  (.register "google/own" 2 false, true), (.get "google/flash", false), (.get " google/own ", true),
  (.get "google/flash", true)]

theorem answers_eq_iff_unnoticed_filledFirst :
    (⟨"llms", [("google/*", 1)], []⟩ : Catalog Nat).answers (filledFirst.map Prod.fst) =
        [.registered, .found 1, .found 2, .found 1] ∧
      (⟨"llms", [("google/*", 1)], []⟩ : Catalog Nat).answers
          ((filledFirst.filter Prod.snd).map Prod.fst) = [.registered, .found 2, .found 1] := by
  obtain ⟨hsame, hleft, hfilled⟩ :=
    answers_eq_iff_unnoticed (α := Nat) "llms" [("google/*", 1)]
  have hall := hfilled [.register "google/own" 2 false]
    [.get "google/flash", .get " google/own ", .get "google/flash"] (by decide) (by decide)
  have hfewer := hfilled [.register "google/own" 2 false]
    [.get " google/own ", .get "google/flash"] (by decide) (by decide)
  have hanswers := (hsame _).mpr hall
  constructor
  · exact hanswers.trans (by decide)
  · exact (hleft filledFirst (by decide) hall hfewer).trans (by decide)

/-- A builtin thing that was asked for makes its key count as taken, though nothing was registered
under it. -/
theorem answers_ne_of_kept :
    (⟨"llms", [("google/*", 1)], []⟩ : Catalog Nat).answers
        [.get "google/pro", .register "google/pro" 2 false] =
        [.found 1, .refused (.taken "llms" "google/pro")] ∧
      (⟨"llms", [("google/*", 1)], []⟩ : PlainCatalog Nat).answers
        [.get "google/pro", .register "google/pro" 2 false] = [.found 1, .registered] ∧
      (⟨"llms", [("google/*", 1)], []⟩ : Catalog Nat).answers
        [.register "google/pro" 2 false] = [.registered] := by decide

end Catalog

end AgentPanel
