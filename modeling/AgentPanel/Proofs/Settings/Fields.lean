import AgentPanel.Proofs.Settings.Layers

/-!
# A table setting by setting

A table makes settings if each of them can be read, and then each of them is what its own key says
(`Settings.checkTable_value?_iff`, `Settings.exists_settings`). The environment replaces settings
one by one (`SettingField.get_withEnvironment`).
-/

namespace AgentPanel

namespace Checked

variable {α β : Type}

theorem value?_eq_some_iff {x : Checked α} {a : α} : x.value? = some a ↔ x = .valid a := by
  cases x with
  | valid b => exact ⟨fun h => congrArg valid (Option.some.inj h), fun h => by cases h; rfl⟩
  | faulty n => exact ⟨nofun, nofun⟩

theorem value?_map_eq_some_iff {g : α → β} {x : Checked α} {b : β} :
    (g <$> x).value? = some b ↔ ∃ a, x.value? = some a ∧ g a = b := by
  simp only [value?_eq_some_iff, map_eq_valid_iff]

theorem value?_seq_eq_some_iff {g : Checked (α → β)} {x : Checked α} {b : β} :
    (g <*> x).value? = some b ↔ ∃ h, g.value? = some h ∧ ∃ a, x.value? = some a ∧ h a = b := by
  simp only [value?_eq_some_iff, seq_eq_valid_iff, exists_and_left]

/-- What a part gives may be named before the parts after it are looked at. -/
theorem exists_exists_and {γ : Type} {P : α → Prop} {G : α → γ → Prop} {R : γ → Prop} :
    (∃ g, (∃ a, P a ∧ G a g) ∧ R g) ↔ ∃ a, P a ∧ ∃ g, G a g ∧ R g := by
  constructor
  · rintro ⟨g, ⟨a, ha, hg⟩, hr⟩
    exact ⟨a, ha, g, hg, hr⟩
  · rintro ⟨a, ha, g, hg, hr⟩
    exact ⟨g, ⟨a, ha, hg⟩, hr⟩

end Checked

namespace Settings

open SettingField (fixed)

variable {table : SettingTable}

/-! ## Single keys -/

theorem value?_checkKey {α : Type} (table : SettingTable) (key : Text) (default : α)
    (read : Setting → Option α) :
    (checkKey table key default read).value? =
      match table.get? key with
      | none => some default
      | some s => read s := by
  rw [checkKey]
  cases table.get? key with
  | none => rfl
  | some s =>
    show (Checked.ofOption (read s)).value? = read s
    cases read s <;> rfl

/-- A setting with a single name. -/
theorem valueIn?_mk {α : Type} (group : Option Text) (name : Text) (read : Setting → Option α)
    (default : α) (overrides : List Text) (accept : Text → Option α) (get : Settings → α) :
    (SettingField.mk α group [name] read default overrides accept get).valueIn? table =
      (checkKey table name default read).value? := by
  have hfound : [name].findSome? (fun name => table.get? name) = table.get? name :=
    List.findSome?_singleton
  rw [value?_checkKey, ← hfound]
  rfl

/-- A setting with two names. -/
theorem valueIn?_mk_two {α : Type} (group : Option Text) (first second : Text)
    (read : Setting → Option α) (default : α) (overrides : List Text) (accept : Text → Option α)
    (get : Settings → α) :
    (SettingField.mk α group [first, second] read default overrides accept get).valueIn? table =
      if table.has first then (checkKey table first default read).value?
      else (checkKey table second default read).value? := by
  rw [value?_checkKey, value?_checkKey, SettingField.valueIn?, List.findSome?_cons,
    List.findSome?_singleton, Keyed.has]
  cases table.get? first <;> rfl

/-! ## Sections -/

theorem value?_checkSection {α : Type} {key : Text} {default : α} {check : SettingTable → Checked α}
    (hdefault : check [] = .valid default) :
    (checkSection table key default check).value? =
      (table.group? key).bind fun inner => (check inner).value? := by
  rw [checkSection, SettingTable.group?]
  cases table.get? key with
  | none => exact (congrArg Checked.value? hdefault).symm
  | some s => cases s <;> rfl

theorem checkSection_value?_iff {α : Type} {key : Text} {default : α}
    {check : SettingTable → Checked α} {fields : List SettingField} {a : α} {s : Settings}
    (hgroup : ∀ f ∈ fields, f.group = some key) (hfields : fields ≠ [])
    (hdefault : check [] = .valid default)
    (hcheck : ∀ inner, (check inner).value? = some a ↔
      ∀ f ∈ fields, f.valueIn? inner = some (f.get s)) :
    (checkSection table key default check).value? = some a ↔
      ∀ f ∈ fields, f.fromTable? table = some (f.get s) := by
  have hfrom : ∀ f ∈ fields, f.fromTable? table = (table.group? key).bind f.valueIn? := by
    intro f hf
    rw [SettingField.fromTable?, hgroup f hf]
  rw [value?_checkSection hdefault]
  cases hkey : table.group? key with
  | some inner =>
    rw [Option.bind_some, hcheck]
    apply forall₂_congr
    intro f hf
    rw [hfrom f hf, hkey, Option.bind_some]
  | none =>
    obtain ⟨f, hf⟩ := List.exists_mem_of_ne_nil fields hfields
    refine ⟨nofun, ?_⟩
    intro hall
    have hread := hall f hf
    rw [hfrom f hf, hkey] at hread
    cases hread

theorem checkModels_value?_iff (table : SettingTable) (s : Settings) :
    (checkModels table).value? = some s.models ↔
      ∀ f ∈ SettingField.ofModels, f.valueIn? table = some (f.get s) := by
  simp only [SettingField.ofModels, SettingField.model, SettingField.text,
    List.forall_mem_singleton, valueIn?_mk_two, checkModels]
  cases table.has "default" with
  | true =>
    simp only [if_true, Checked.value?_map_eq_some_iff]
    constructor
    · rintro ⟨_, h, hmodels⟩
      rw [← hmodels]
      exact h
    · intro h
      exact ⟨_, h, rfl⟩
  | false =>
    simp only [Bool.false_eq_true, if_false, Checked.value?_map_eq_some_iff]
    constructor
    · rintro ⟨_, h, hmodels⟩
      rw [← hmodels]
      exact h
    · intro h
      exact ⟨_, h, rfl⟩

theorem models_iff (table : SettingTable) (s : Settings) :
    (checkSection table "models" ({} : Settings).models checkModels).value? = some s.models ↔
      ∀ f ∈ SettingField.ofModels, f.fromTable? table = some (f.get s) :=
  checkSection_value?_iff (by decide) (List.cons_ne_nil _ _) rfl fun inner =>
    checkModels_value?_iff inner s

theorem checkRequest_value?_iff (table : SettingTable) (s : Settings) :
    (checkRequest table).value? = some s.request ↔
      ∀ f ∈ SettingField.ofRequest, f.valueIn? table = some (f.get s) := by
  simp only [SettingField.ofRequest, SettingField.fixed, List.forall_mem_cons, valueIn?_mk,
    checkRequest, Checked.value?_seq_eq_some_iff, Checked.value?_map_eq_some_iff,
    Checked.exists_exists_and, exists_eq_left']
  constructor
  · rintro ⟨_, h₁, _, h₂, _, h₃, _, h₄, _, h₅, _, h₆, _, h₇, hrequest⟩
    rw [← hrequest]
    exact ⟨h₁, h₂, h₃, h₄, h₅, h₆, h₇, List.forall_mem_nil _⟩
  · rintro ⟨h₁, h₂, h₃, h₄, h₅, h₆, h₇, -⟩
    exact ⟨_, h₁, _, h₂, _, h₃, _, h₄, _, h₅, _, h₆, _, h₇, rfl⟩

theorem checkRequest_nil : checkRequest [] = .valid {} := by
  unfold checkRequest
  generalize ({} : RequestSettings) = default
  rfl

theorem request_iff (table : SettingTable) (s : Settings) :
    (checkSection table "llm" ({} : Settings).request checkRequest).value? = some s.request ↔
      ∀ f ∈ SettingField.ofRequest, f.fromTable? table = some (f.get s) :=
  checkSection_value?_iff (by decide) (List.cons_ne_nil _ _) checkRequest_nil fun inner =>
    checkRequest_value?_iff inner s

theorem checkPanel_value?_iff (table : SettingTable) (s : Settings) :
    (checkPanel table).value? = some s.panel ↔
      ∀ f ∈ SettingField.ofPanel, f.valueIn? table = some (f.get s) := by
  simp only [SettingField.ofPanel, SettingField.renderDepth, SettingField.fixed,
    List.forall_mem_cons, valueIn?_mk, checkPanel, Checked.value?_seq_eq_some_iff,
    Checked.value?_map_eq_some_iff, Checked.exists_exists_and, exists_eq_left']
  constructor
  · rintro ⟨_, h₁, _, h₂, hpanel⟩
    rw [← hpanel]
    exact ⟨h₁, h₂, List.forall_mem_nil _⟩
  · rintro ⟨h₁, h₂, -⟩
    exact ⟨_, h₁, _, h₂, rfl⟩

theorem panel_iff (table : SettingTable) (s : Settings) :
    (checkSection table "a2ui" ({} : Settings).panel checkPanel).value? = some s.panel ↔
      ∀ f ∈ SettingField.ofPanel, f.fromTable? table = some (f.get s) :=
  checkSection_value?_iff (by decide) (List.cons_ne_nil _ _) rfl fun inner =>
    checkPanel_value?_iff inner s

theorem checkGoogle_value?_iff (table : SettingTable) (s : Settings) :
    (checkGoogle table).value? = some s.google ↔
      ∀ f ∈ SettingField.ofGoogle, f.valueIn? table = some (f.get s) := by
  simp only [SettingField.ofGoogle, SettingField.apiKey, SettingField.text,
    List.forall_mem_singleton, valueIn?_mk, checkGoogle, Checked.value?_map_eq_some_iff]
  constructor
  · rintro ⟨_, h, hgoogle⟩
    rw [← hgoogle]
    exact h
  · intro h
    exact ⟨_, h, rfl⟩

theorem google_iff (table : SettingTable) (s : Settings) :
    (checkSection table "google" ({} : Settings).google checkGoogle).value? = some s.google ↔
      ∀ f ∈ SettingField.ofGoogle, f.fromTable? table = some (f.get s) :=
  checkSection_value?_iff (by decide) (List.cons_ne_nil _ _) rfl fun inner =>
    checkGoogle_value?_iff inner s

theorem checkVertex_value?_iff (table : SettingTable) (s : Settings) :
    (checkVertex table).value? = some s.vertex ↔
      ∀ f ∈ SettingField.ofVertex, f.valueIn? table = some (f.get s) := by
  simp only [SettingField.ofVertex, SettingField.text, List.forall_mem_cons, valueIn?_mk,
    checkVertex, Checked.value?_seq_eq_some_iff, Checked.value?_map_eq_some_iff,
    Checked.exists_exists_and, exists_eq_left']
  constructor
  · rintro ⟨_, h₁, _, h₂, hvertex⟩
    rw [← hvertex]
    exact ⟨h₁, h₂, List.forall_mem_nil _⟩
  · rintro ⟨h₁, h₂, -⟩
    exact ⟨_, h₁, _, h₂, rfl⟩

theorem vertex_iff (table : SettingTable) (s : Settings) :
    (checkSection table "vertex" ({} : Settings).vertex checkVertex).value? = some s.vertex ↔
      ∀ f ∈ SettingField.ofVertex, f.fromTable? table = some (f.get s) :=
  checkSection_value?_iff (by decide) (List.cons_ne_nil _ _) rfl fun inner =>
    checkVertex_value?_iff inner s

/-! ## Whole tables -/

theorem general_iff (table : SettingTable) (s : Settings) :
    (∀ f ∈ SettingField.general, f.fromTable? table = some (f.get s)) ↔
      (checkKey table "debug" ({} : Settings).debug Setting.bool?).value? = some s.debug ∧
        (checkKey table "log_level" ({} : Settings).logLevel Setting.text?).value? =
          some s.logLevel := by
  simp only [SettingField.general, SettingField.text, List.forall_mem_cons,
    SettingField.fromTable?, valueIn?_mk, List.not_mem_nil, false_implies, implies_true, and_true]

/-- A table makes settings of which each is what its own key says. -/
theorem checkTable_value?_iff (hnone : table.get? "loaded_from" = none) (s : Settings) :
    (checkTable table).value? = some s ↔
      (∀ f ∈ SettingField.all, f.fromTable? table = some (f.get s)) ∧ s.loadedFrom = [] := by
  have hloaded : (checkLoadedFrom table).value? = some [] := by
    rw [checkLoadedFrom, hnone]
    rfl
  simp only [SettingField.all, List.forall_mem_append, general_iff, ← models_iff, ← request_iff,
    ← panel_iff, ← google_iff, ← vertex_iff]
  simp only [checkTable, Checked.value?_seq_eq_some_iff, Checked.value?_map_eq_some_iff,
    Checked.exists_exists_and, exists_eq_left', hloaded]
  constructor
  · rintro ⟨_, h₁, _, h₂, _, h₃, _, h₄, _, h₅, _, h₆, _, h₇, _, h₈, hs⟩
    rw [← hs]
    cases h₈
    exact ⟨⟨⟨⟨⟨⟨⟨h₁, h₂⟩, h₃⟩, h₄⟩, h₅⟩, h₆⟩, h₇⟩, rfl⟩
  · rintro ⟨⟨⟨⟨⟨⟨⟨h₁, h₂⟩, h₃⟩, h₄⟩, h₅⟩, h₆⟩, h₇⟩, h₈⟩
    refine ⟨_, h₁, _, h₂, _, h₃, _, h₄, _, h₅, _, h₆, _, h₇, _, rfl, ?_⟩
    rw [← h₈]

/-- If each setting can be read, then they are the settings of the table. -/
theorem exists_settings (hread : ∀ f ∈ SettingField.all, (f.fromTable? table).isSome) :
    ∃ s : Settings, (∀ f ∈ SettingField.all, f.fromTable? table = some (f.get s)) ∧
      s.loadedFrom = [] := by
  simp only [SettingField.all, SettingField.general, SettingField.ofModels, SettingField.ofRequest,
    SettingField.ofPanel, SettingField.ofGoogle, SettingField.ofVertex, List.cons_append,
    List.nil_append, List.forall_mem_cons, Option.isSome_iff_exists] at hread ⊢
  obtain ⟨⟨debug, h₁⟩, ⟨logLevel, h₂⟩, ⟨model, h₃⟩, ⟨temperature, h₄⟩, ⟨topP, h₅⟩, ⟨topK, h₆⟩,
    ⟨maxOutputTokens, h₇⟩, ⟨timeoutSec, h₈⟩, ⟨maxRetries, h₉⟩, ⟨threshold, h₁₀⟩, ⟨version, h₁₁⟩,
    ⟨depth, h₁₂⟩, ⟨apiKey, h₁₃⟩, ⟨projectId, h₁₄⟩, ⟨location, h₁₅⟩, -⟩ := hread
  exact ⟨⟨debug, logLevel, ⟨model⟩,
    ⟨temperature, topP, topK, maxOutputTokens, timeoutSec, maxRetries, threshold⟩,
    ⟨version, depth⟩, ⟨apiKey⟩, ⟨projectId, location⟩, []⟩,
    ⟨h₁, h₂, h₃, h₄, h₅, h₆, h₇, h₈, h₉, h₁₀, h₁₁, h₁₂, h₁₃, h₁₄, h₁₅, List.forall_mem_nil _⟩, rfl⟩

end Settings

namespace SettingField

variable {f : SettingField} {table : SettingTable} {env : Environment}

/-- A key that is none of a setting's does not matter to it. -/
theorem fromTable?_without {key : Text} (hgroup : f.group ≠ some key) (hnames : key ∉ f.names) :
    f.fromTable? (table.without key) = f.fromTable? table := by
  cases hf : f.group with
  | some name =>
    have hname : name ≠ key := fun heq => hgroup (hf.trans (congrArg some heq))
    have hsame : SettingTable.group? (table.without key) name = table.group? name := by
      rw [SettingTable.group?, SettingTable.group?, Keyed.get?_without, if_neg hname]
    rw [fromTable?, fromTable?, hf]
    simp only [hsame]
  | none =>
    have hsame : (f.names.findSome? fun name => (table.without key).get? name) =
        f.names.findSome? fun name => table.get? name := by
      generalize f.names = names at hnames
      induction names with
      | nil => rfl
      | cons name rest ih =>
        obtain ⟨hname, hrest⟩ := List.ne_and_not_mem_of_not_mem_cons hnames
        rw [List.findSome?_cons, List.findSome?_cons, ih hrest, Keyed.get?_without,
          if_neg (Ne.symm hname)]
    rw [fromTable?, fromTable?, hf]
    simp only [valueIn?, hsame]

theorem fromTable?_without_loadedFrom (hf : f ∈ all) :
    f.fromTable? (table.without "loaded_from") = f.fromTable? table := by
  have hnone : ∀ f ∈ all,
      f.group ≠ some "loaded_from" ∧ Text.ofString "loaded_from" ∉ f.names := by decide
  exact fromTable?_without (hnone f hf).1 (hnone f hf).2

/-! ## The environment -/

/-- A blank is none of the known words. -/
theorem flag?_eq (env : Environment) (name : Text) :
    env.flag? name = (env.text? name).bind flagOfWord? := by
  rw [Environment.flag?, Environment.text?, Option.bind_assoc]
  congr
  funext t
  cases hblank : t.trim.isEmpty with
  | true =>
    rw [List.isEmpty_iff.mp hblank]
    rfl
  | false => rfl

theorem fromEnvironment?_of_variable {name : Text} (hname : f.overrides = [name]) :
    f.fromEnvironment? env = (env.text? name).bind f.accept := by
  rw [fromEnvironment?, hname, List.findSome?_singleton]

theorem fromEnvironment?_fixed {α : Type} (group name : Text) (read : Setting → Option α)
    (default : α) (get : Settings → α) :
    (fixed group name read default get).fromEnvironment? env = none := rfl

theorem fromEnvironment?_text (group : Option Text) (names : List Text) (default : Text)
    (name : Text) (get : Settings → Text) :
    (text group names default [name] get).fromEnvironment? env = env.text? name := by
  rw [fromEnvironment?_of_variable rfl]
  exact Option.bind_fun_some _

theorem fromEnvironment?_text_two (group : Option Text) (names : List Text) (default : Text)
    (first second : Text) (get : Settings → Text) :
    (text group names default [first, second] get).fromEnvironment? env =
      (env.text? first).orElse fun _ => env.text? second := by
  show ([first, second].findSome? fun name => (env.text? name).bind some) = _
  rw [List.findSome?_cons, List.findSome?_singleton]
  cases env.text? first with
  | some t => rfl
  | none => exact Option.bind_fun_some _

/-- The environment replaces each setting on its own. -/
theorem get_withEnvironment (hf : f ∈ all) (s : Settings) (env : Environment) :
    f.get (s.withEnvironment env) = (f.fromEnvironment? env).getD (f.get s) := by
  revert f
  simp only [all, general, ofModels, model, ofRequest, ofPanel, ofGoogle, apiKey, ofVertex,
    List.cons_append, List.nil_append, List.forall_mem_cons, fromEnvironment?_fixed,
    fromEnvironment?_text, fromEnvironment?_text_two]
  refine ⟨?_, rfl, rfl, rfl, rfl, rfl, rfl, rfl, rfl, rfl, rfl, ?_, rfl, rfl, rfl,
    List.forall_mem_nil _⟩
  · rw [fromEnvironment?_of_variable rfl]
    exact congrArg (Option.getD · s.debug) (flag?_eq env _)
  · rw [fromEnvironment?_of_variable rfl]
    exact congrArg (Option.getD · s.panel.maxRenderDepth) (Option.bind_assoc _ _ _)

/-- No variable replaces two settings. -/
theorem pairwise_overrides :
    all.Pairwise fun f g => ∀ name ∈ f.overrides, name ∉ g.overrides := by
  decide +kernel

end SettingField

end AgentPanel
