import AgentPanel.Settings.Field

/-!
# A table laid over the defaults

Settings are made of a file by laying its table over the table of the defaults. This comes to the
same as making settings of the table itself, for what the table lacks has its default either way
(`Settings.withTable_eq_checkTable`). It takes tables whose keys are all different, at the top and
in each section (`SettingTable.DistinctKeys`).
-/

namespace AgentPanel

/-- A limit is in range. -/
theorem RenderLimit.ofInt?_value (limit : RenderLimit) : ofInt? limit.value = some limit := by
  rw [ofInt?, dif_pos]
  · rfl
  · exact ⟨limit.pos, limit.lt⟩

namespace Settings

variable {α : Type} {table new inner old : SettingTable} {key : Text} {default : α}
  {read : Setting → Option α}

/-! ## One table over another -/

/-- Two sections under one key are laid over each other. -/
def layered : Option Setting → Option Setting → Option Setting
  | some (.table old), some (.table inner) => some (.table (Keyed.overlay old inner))
  | below, none => below
  | _, some s => some s

theorem layered_none (below : Option Setting) : layered below none = below := by
  cases below with
  | none => rfl
  | some s => cases s <;> rfl

theorem exists_layer_cons (table : SettingTable) (key : Text) (s : Setting) (rest : SettingTable) :
    ∃ merged, some merged = layered (table.get? key) (some s) ∧
      layer table ((key, s) :: rest) = layer (table.set key merged) rest := by
  cases hbelow : table.get? key with
  | none => exact ⟨s, rfl, by simp only [layer, List.foldl_cons, hbelow]⟩
  | some below =>
    cases below with
    | table old =>
      cases s with
      | table inner =>
        exact ⟨.table (Keyed.overlay old inner), rfl, by simp only [layer, List.foldl_cons, hbelow]⟩
      | _ => exact ⟨_, rfl, by simp only [layer, List.foldl_cons, hbelow]⟩
    | _ => exact ⟨s, rfl, by simp only [layer, List.foldl_cons, hbelow]⟩

theorem get?_layer (hnodup : new.keys.Nodup) (table : SettingTable) (key : Text) :
    (layer table new).get? key = layered (table.get? key) (new.get? key) := by
  induction new generalizing table with
  | nil => exact (layered_none _).symm
  | cons first rest ih =>
    obtain ⟨k, s⟩ := first
    obtain ⟨hnot, hrest⟩ := List.nodup_cons.mp hnodup
    obtain ⟨merged, hmerged, hlayer⟩ := exists_layer_cons table k s rest
    rw [hlayer, ih hrest, Keyed.get?_set, Keyed.get?]
    by_cases hk : key = k
    · have hnone : Keyed.get? k rest = none := Keyed.get?_eq_none_iff.mpr hnot
      rw [if_pos hk, if_pos hk.symm, hk, hnone, layered_none, hmerged]
    · rw [if_neg hk, if_neg (Ne.symm hk)]

/-! ## Settings of a table -/

/-- A default that is dumped is read back, so it may stand below the table or not. -/
theorem checkKey_overlay (hnodup : inner.keys.Nodup)
    (hdumped : (old.get? key).bind read = some default) :
    checkKey (old.overlay inner) key default read = checkKey inner key default read := by
  obtain ⟨s, hs, hread⟩ := Option.bind_eq_some_iff.mp hdumped
  rw [checkKey, checkKey, Keyed.get?_overlay hnodup]
  cases inner.get? key with
  | some t => rfl
  | none =>
    rw [hs]
    show Checked.ofOption (read s) = _
    rw [hread]
    rfl

/-- Outside of the sections, too, as far as what is dumped is no table. -/
theorem checkKey_layer (hnodup : new.keys.Nodup)
    (hdumped : (table.get? key).bind read = some default)
    (hscalar : ∀ s, layered (table.get? key) (some s) = some s) :
    checkKey (layer table new) key default read = checkKey new key default read := by
  obtain ⟨s, hs, hread⟩ := Option.bind_eq_some_iff.mp hdumped
  rw [checkKey, checkKey, get?_layer hnodup]
  cases new.get? key with
  | some t => rw [hscalar t]
  | none =>
    rw [layered_none, hs]
    show Checked.ofOption (read s) = _
    rw [hread]
    rfl

/-- A section that takes its dumped defaults below it or not. -/
theorem checkSection_layer {check : SettingTable → Checked α} (hnew : new.DistinctKeys)
    (hold : table.get? key = some (.table old))
    (hsame : ∀ inner : SettingTable, inner.keys.Nodup → check (old.overlay inner) = check inner)
    (hdefault : check old = .valid default) :
    checkSection (layer table new) key default check = checkSection new key default check := by
  rw [checkSection, checkSection, get?_layer hnew.top, hold]
  cases hs : new.get? key with
  | none => exact hdefault
  | some s =>
    cases s with
    | table inner => exact hsame inner (hnew.sections key inner hs)
    | _ => rfl

/-! ## The sections -/

/-- A section of the defaults. -/
def defaultGroup (name : Text) : SettingTable :=
  (SettingTable.group? ({} : Settings).toTable name).getD []

theorem checkModels_overlay (hnodup : inner.keys.Nodup) :
    checkModels ((defaultGroup "models").overlay inner) = checkModels inner := by
  have hname : ((defaultGroup "models").overlay inner).get? "default" = inner.get? "default" := by
    rw [Keyed.get?_overlay hnodup]
    exact Option.or_none
  have hhas : ((defaultGroup "models").overlay inner).has "default" = inner.has "default" := by
    rw [Keyed.has, Keyed.has, hname]
  have hkey : checkKey ((defaultGroup "models").overlay inner) "default"
      ({} : Settings).models.defaultModel Setting.text? =
      checkKey inner "default" ({} : Settings).models.defaultModel Setting.text? := by
    rw [checkKey, checkKey, hname]
  simp only [checkModels]
  rw [hhas, hkey, checkKey_overlay hnodup rfl]

/-- Settings of requests as a section. -/
def requestTable (r : RequestSettings) : SettingTable := [
  ("temperature", .float r.temperature), ("top_p", .float r.topP), ("top_k", .int r.topK),
  ("max_output_tokens", .int r.maxOutputTokens), ("timeout_sec", .float r.timeoutSec),
  ("max_retries", .int r.maxRetries), ("harassment_block_threshold", .text r.harassmentThreshold)]

theorem checkRequest_overlay (hnodup : inner.keys.Nodup) :
    checkRequest ((requestTable {}).overlay inner) = checkRequest inner := by
  unfold checkRequest
  -- the defaults are only passed on and need not be computed
  generalize ({} : RequestSettings) = default
  simp only
  rw [checkKey_overlay hnodup rfl, checkKey_overlay hnodup rfl, checkKey_overlay hnodup rfl,
    checkKey_overlay hnodup rfl, checkKey_overlay hnodup rfl, checkKey_overlay hnodup rfl,
    checkKey_overlay hnodup rfl]

theorem get?_maxRenderDepth :
    ((defaultGroup "a2ui").get? "max_render_depth").bind
      (fun s => s.int?.bind RenderLimit.ofInt?) = some RenderLimit.standard :=
  RenderLimit.ofInt?_value RenderLimit.standard

theorem checkPanel_overlay (hnodup : inner.keys.Nodup) :
    checkPanel ((defaultGroup "a2ui").overlay inner) = checkPanel inner := by
  simp only [checkPanel]
  rw [checkKey_overlay hnodup get?_maxRenderDepth, checkKey_overlay hnodup rfl]

theorem checkPanel_defaultGroup : checkPanel (defaultGroup "a2ui") = .valid {} := by
  have hdepth : checkKey (defaultGroup "a2ui") "max_render_depth"
      ({} : PanelSettings).maxRenderDepth (fun s => s.int?.bind RenderLimit.ofInt?) =
        .valid RenderLimit.standard :=
    congrArg Checked.ofOption (RenderLimit.ofInt?_value RenderLimit.standard)
  simp only [checkPanel, hdepth]
  rfl

theorem checkGoogle_overlay (hnodup : inner.keys.Nodup) :
    checkGoogle ((defaultGroup "google").overlay inner) = checkGoogle inner := by
  simp only [checkGoogle]
  rw [checkKey_overlay hnodup rfl]

theorem checkVertex_overlay (hnodup : inner.keys.Nodup) :
    checkVertex ((defaultGroup "vertex").overlay inner) = checkVertex inner := by
  simp only [checkVertex]
  rw [checkKey_overlay hnodup rfl, checkKey_overlay hnodup rfl]

theorem checkLoadedFrom_layer (hnodup : new.keys.Nodup) (hnone : new.get? "loaded_from" = none) :
    checkLoadedFrom (layer ({} : Settings).toTable new) = checkLoadedFrom new := by
  unfold checkLoadedFrom
  rw [get?_layer hnodup, hnone]
  rfl

/-! ## The whole table -/

theorem DistinctKeys.without (hnew : new.DistinctKeys) (key : Text) :
    SettingTable.DistinctKeys (new.without key) where
  top := Keyed.nodup_keys_without hnew.top
  sections := by
    intro name inner hinner
    rw [Keyed.get?_without] at hinner
    by_cases hname : name = key
    · rw [if_pos hname] at hinner
      cases hinner
    · rw [if_neg hname] at hinner
      exact hnew.sections name inner hinner

/-- The table of a file over the defaults, and the table on its own, make the same settings, or have
the same number of faults. -/
theorem withTable_eq_checkTable (hnew : new.DistinctKeys) :
    withTable {} new = checkTable (new.without "loaded_from") := by
  have hown := DistinctKeys.without hnew "loaded_from"
  have hnone : (new.without "loaded_from").get? "loaded_from" = none := by
    rw [Keyed.get?_without, if_pos rfl]
  rw [withTable]
  generalize new.without "loaded_from" = own at hown hnone
  simp only [checkTable]
  rw [checkKey_layer hown.top rfl (fun _ => rfl), checkKey_layer hown.top rfl (fun _ => rfl),
    checkSection_layer hown rfl (fun _ => checkModels_overlay) rfl,
    checkSection_layer hown rfl (fun _ => checkRequest_overlay) rfl,
    checkSection_layer hown rfl (fun _ => checkPanel_overlay) checkPanel_defaultGroup,
    checkSection_layer hown rfl (fun _ => checkGoogle_overlay) rfl,
    checkSection_layer hown rfl (fun _ => checkVertex_overlay) rfl,
    checkLoadedFrom_layer hown.top hnone]

end Settings

end AgentPanel
