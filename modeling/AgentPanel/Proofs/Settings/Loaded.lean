import AgentPanel.Proofs.Settings.Fields
import AgentPanel.Proofs.Toml.DistinctKeys
import AgentPanel.Proofs.Toml.Nesting

/-!
# Loaded settings

The three layers of settings together. The table of a file counts if each of its settings can be
read, and not at all otherwise; on top of that the environment replaces settings one by one
(`Settings.load_eq_layers`). There is one file that is not ignored although it is faulty: values
that are nested too deep end the loading (`Settings.load_of_tooDeep`).
-/

namespace AgentPanel

namespace FoundFile

theorem table?_content (room : Nat) (bytes : List UInt8) :
    (content bytes).table? room =
      match Text.ofUtf8 bytes with
      | .error _ => .error .encoding
      | .ok t =>
        match Toml.read room t with
        | .error fault => .error (.toml fault)
        | .ok table => .ok (some table) := by
  rw [table?]
  cases Text.ofUtf8 bytes with
  | error e => rfl
  | ok t =>
    dsimp only
    show (Toml.read room t).mapError LoadFault.toml >>= _ = _
    cases Toml.read room t with
    | error fault => rfl
    | ok table => rfl

/-- The keys of a table that was read are all different. -/
theorem distinctKeys {room : Nat} {found : FoundFile} {table : SettingTable}
    (htable : found.table? room = .ok (some table)) : table.DistinctKeys := by
  cases found with
  | nothing => cases htable
  | unreadable error => cases htable
  | content bytes =>
    rw [table?_content] at htable
    split at htable
    · cases htable
    · split at htable
      · cases htable
      case h_2 t _ _ hread =>
        cases htable
        exact Toml.distinctKeys_of_read hread

end FoundFile

namespace Settings

variable {room : Nat} {path : Path} {found : FoundFile} {env : Environment} {table : SettingTable}

/-! ## The file -/

/-- The settings of a file, or why it is not used. -/
theorem ofBytes_eq (room : Nat) (bytes : List UInt8) :
    ofBytes room bytes =
      match (FoundFile.content bytes).table? room with
      | .error fault => .error fault
      | .ok none => .ok {}
      | .ok (some table) =>
        match withTable {} table with
        | .valid s => .ok s
        | .faulty n => .error (.faulty n) := by
  rw [FoundFile.table?_content, ofBytes]
  cases Text.ofUtf8 bytes with
  | error e => rfl
  | ok t =>
    dsimp only
    show (Toml.read room t).mapError LoadFault.toml >>= _ = _
    cases Toml.read room t with
    | error fault => rfl
    | ok table => rfl

/-- What comes of a file that is not used. -/
def unused (path : Path) (fault : LoadFault) : Except Raised (Logged Settings) :=
  match fault.raised? with
  | some e => .error e
  | none => .ok do
    report .warning .settings
      ("Failed to load TOML config from " ++ path.toText ++ ": " ++ fault.name)
    return {}

theorem ofFile_of_error {fault : LoadFault} (htable : found.table? room = .error fault) :
    ofFile room path found = unused path fault := by
  cases found with
  | nothing => cases htable
  | unreadable error =>
    cases htable
    rfl
  | content bytes =>
    have hbytes : ofBytes room bytes = .error fault := by
      rw [ofBytes_eq, htable]
    rw [ofFile, hbytes]
    rfl

theorem ofFile_of_valid {s : Settings} (htable : found.table? room = .ok (some table))
    (hvalid : withTable {} table = .valid s) :
    ofFile room path found = .ok (pure { s with loadedFrom := s.loadedFrom ++ [path] }) := by
  cases found with
  | nothing => cases htable
  | unreadable error => cases htable
  | content bytes =>
    have hbytes : ofBytes room bytes = .ok s := by
      rw [ofBytes_eq, htable]
      dsimp only
      rw [hvalid]
    rw [ofFile, hbytes]
    rfl

theorem ofFile_of_faulty {n : Nat} (htable : found.table? room = .ok (some table))
    (hfaulty : withTable {} table = .faulty n) :
    ofFile room path found = unused path (.faulty n) := by
  cases found with
  | nothing => cases htable
  | unreadable error => cases htable
  | content bytes =>
    have hbytes : ofBytes room bytes = .error (.faulty n) := by
      rw [ofBytes_eq, htable]
      dsimp only
      rw [hfaulty]
    rw [ofFile, hbytes]
    rfl

/-! ## Readable and unreadable tables -/

/-- Each setting of the table can be read. -/
def Readable (table : SettingTable) : Prop :=
  ∀ f ∈ SettingField.all, (f.fromTable? table).isSome

theorem checkTable_value?_iff_fields (table : SettingTable) (s : Settings) :
    (checkTable (table.without "loaded_from")).value? = some s ↔
      (∀ f ∈ SettingField.all, f.fromTable? table = some (f.get s)) ∧ s.loadedFrom = [] := by
  have hnone : (table.without "loaded_from").get? "loaded_from" = none := by
    rw [Keyed.get?_without, if_pos rfl]
  rw [checkTable_value?_iff hnone]
  apply and_congr_left'
  apply forall₂_congr
  intro f hf
  rw [SettingField.fromTable?_without_loadedFrom hf]

theorem exists_withTable_eq_valid (hkeys : table.DistinctKeys) (hreadable : Readable table) :
    ∃ s, withTable {} table = .valid s ∧ s.loadedFrom = [] ∧
      ∀ f ∈ SettingField.all, f.fromTable? table = some (f.get s) := by
  obtain ⟨s, hs, hloaded⟩ := exists_settings hreadable
  refine ⟨s, ?_, hloaded, hs⟩
  rw [withTable_eq_checkTable hkeys, ← Checked.value?_eq_some_iff, checkTable_value?_iff_fields]
  exact ⟨hs, hloaded⟩

theorem exists_withTable_eq_faulty (hkeys : table.DistinctKeys) (hunreadable : ¬Readable table) :
    ∃ n, withTable {} table = .faulty n := by
  rw [withTable_eq_checkTable hkeys]
  cases hcheck : checkTable (table.without "loaded_from") with
  | faulty n => exact ⟨n, rfl⟩
  | valid s =>
    exfalso
    apply hunreadable
    have hs := (checkTable_value?_iff_fields table s).mp (Checked.value?_eq_some_iff.mpr hcheck)
    intro f hf
    rw [hs.1 f hf]
    rfl

/-! ## All layers -/

theorem load_of_tooDeep (env : Environment) (path : Path)
    (htable : found.table? room = .error (.toml .tooDeep)) :
    load room env path found =
      .error (.other "RecursionError" "maximum recursion depth exceeded") := by
  rw [load, ofFile_of_error htable]
  rfl

/-- No setting is read off the list of the files. -/
theorem get_loadedFrom (s : Settings) (files : List Path) :
    ∀ f ∈ SettingField.all, f.get { s with loadedFrom := files } = f.get s := by
  simp only [SettingField.all, SettingField.general, SettingField.ofModels, SettingField.model,
    SettingField.ofRequest, SettingField.ofPanel, SettingField.renderDepth, SettingField.ofGoogle,
    SettingField.apiKey, SettingField.ofVertex, SettingField.fixed, SettingField.text,
    List.cons_append, List.nil_append, List.forall_mem_cons, List.not_mem_nil, false_implies,
    implies_true, and_true]

theorem load_of_readable (env : Environment) (path : Path)
    (htable : found.table? room = .ok (some table)) (hreadable : Readable table) :
    ∃ s, load room env path found = .ok (pure s) ∧ s.loadedFrom = [path] ∧
      ∀ f ∈ SettingField.all, ∃ a, f.fromTable? table = some a ∧
        f.get s = (f.fromEnvironment? env).getD a := by
  obtain ⟨s, hvalid, hloaded, hs⟩ :=
    exists_withTable_eq_valid (FoundFile.distinctKeys htable) hreadable
  refine ⟨withEnvironment { s with loadedFrom := s.loadedFrom ++ [path] } env, ?_, ?_, ?_⟩
  · rw [load, ofFile_of_valid htable hvalid]
    rfl
  · show s.loadedFrom ++ [path] = [path]
    rw [hloaded]
    rfl
  · intro f hf
    refine ⟨f.get s, hs f hf, ?_⟩
    rw [SettingField.get_withEnvironment hf, get_loadedFrom s _ f hf]

/-- The layers without a file. -/
theorem load_nothing (room : Nat) (env : Environment) (path : Path) :
    load room env path .nothing = .ok (pure (withEnvironment {} env)) := rfl

theorem exists_unused_eq_ok {fault : LoadFault} (hfault : fault ≠ .toml .tooDeep) (path : Path) :
    ∃ logged, unused path fault = .ok logged ∧ logged.value = {} := by
  have hraised : fault.raised? = none := by
    cases fault with
    | toml reason =>
      cases reason with
      | tooDeep => exact (hfault rfl).elim
      | malformed | tooManyDigits => rfl
    | unreadable | encoding | faulty => rfl
  rw [unused, hraised]
  exact ⟨_, rfl, rfl⟩

/-- A file that cannot be decoded, or has a setting that cannot be read, leaves the defaults. -/
theorem exists_ofFile_eq_default (path : Path) (hdeep : found.table? room ≠ .error (.toml .tooDeep))
    (hunreadable : ∀ table, found.table? room = .ok (some table) → ¬Readable table) :
    ∃ logged, ofFile room path found = .ok logged ∧ logged.value = {} := by
  cases htable : found.table? room with
  | error fault =>
    rw [ofFile_of_error htable]
    apply exists_unused_eq_ok
    intro hfault
    exact hdeep (htable.trans (congrArg Except.error hfault))
  | ok table? =>
    cases table? with
    | none =>
      cases found with
      | nothing => exact ⟨_, rfl, rfl⟩
      | unreadable error => cases htable
      | content bytes =>
        rw [FoundFile.table?_content] at htable
        split at htable
        · cases htable
        · split at htable <;> cases htable
    | some table =>
      obtain ⟨n, hfaulty⟩ := exists_withTable_eq_faulty (FoundFile.distinctKeys htable)
        (hunreadable table htable)
      rw [ofFile_of_faulty htable hfaulty]
      have hfault : LoadFault.faulty n ≠ .toml .tooDeep := nofun
      exact exists_unused_eq_ok hfault path

theorem load_of_unreadable (env : Environment) (path : Path)
    (hdeep : found.table? room ≠ .error (.toml .tooDeep))
    (hunreadable : ∀ table, found.table? room = .ok (some table) → ¬Readable table) :
    ∃ loaded, load room env path found = .ok loaded ∧ loaded.value = withEnvironment {} env := by
  obtain ⟨logged, hfile, hvalue⟩ := exists_ofFile_eq_default path hdeep hunreadable
  refine ⟨(·.withEnvironment env) <$> logged, ?_, ?_⟩
  · rw [load, hfile]
    rfl
  · rw [Logged.value_map, hvalue]

theorem get_default : ∀ f ∈ SettingField.all, f.get {} = f.default := by
  simp only [SettingField.all, SettingField.general, SettingField.ofModels, SettingField.model,
    SettingField.ofRequest, SettingField.ofPanel, SettingField.renderDepth, SettingField.ofGoogle,
    SettingField.apiKey, SettingField.ofVertex, SettingField.fixed, SettingField.text,
    List.cons_append, List.nil_append, List.forall_mem_cons, List.not_mem_nil, false_implies,
    implies_true, and_true]

/-- A file with both names of one setting, and a variable that is blank beside one that counts. -/
def layeredFile : FoundFile := .content
  ("debug = true\n[models]\ndefault_llm = 'a/long'\ndefault = 'a/short'\n".toList.map
    fun c => UInt8.ofNat c.toNat)

/-- Variables: one that is blank, one that counts, and one that is out of range. -/
def layeredEnvironment : Environment := [("GOOGLE_API_KEY", " "), ("GEMINI_API_KEY", " k "),
  ("SENSORCONSOLE_MAX_RENDER_DEPTH", "200")]

/-- All settings of the table can be read, and the model has the short name's value. -/
def isLayered (table : SettingTable) : Bool :=
  let model : Option Text := SettingField.model.fromTable? table
  SettingField.all.all (fun f => (f.fromTable? table).isSome) && model == some "a/short"

theorem exists_table?_layeredFile :
    ∃ table, layeredFile.table? Toml.nestingRoom = .ok (some table) ∧ isLayered table = true := by
  have htest : (layeredFile.table? Toml.nestingRoom).toOption.join.any isLayered = true := by
    decide +kernel
  cases hfound : layeredFile.table? Toml.nestingRoom with
  | error fault =>
    rw [hfound] at htest
    cases htest
  | ok found =>
    rw [hfound] at htest
    obtain ⟨table, rfl, hlayered⟩ := (Option.any_eq_true _ _).mp htest
    exact ⟨table, rfl, hlayered⟩

end Settings

end AgentPanel
