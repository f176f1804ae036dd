import AgentPanel.Settings.Loading

/-!
# Settings one by one

Each setting on its own: where a table has it, what it is by default, and which variables of the
environment replace it. A setting is meant to depend on nothing else.
-/

namespace AgentPanel

/-- The entries of a section: none of them if it is missing, and nothing if it is no table. -/
def SettingTable.group? (table : SettingTable) (name : Text) : Option SettingTable :=
  match table.get? name with
  | none => some []
  | some (.table inner) => some inner
  | some _ => none

/-- No key stands twice in the table, nor in one of its sections. -/
structure SettingTable.DistinctKeys (table : SettingTable) : Prop where
  top : table.keys.Nodup
  sections : ∀ name (inner : SettingTable), table.get? name = some (.table inner) → inner.keys.Nodup

/-- One setting. -/
structure SettingField where
  Value : Type
  /-- the section that has it, unless it stands outside of all -/
  group : Option Text
  /-- its names in a table; the first of them that is there counts -/
  names : List Text
  read : Setting → Option Value
  default : Value
  /-- the variables that replace it; the first of them that is set to something acceptable counts -/
  overrides : List Text
  /-- the value of a variable that is not blank -/
  accept : Text → Option Value
  get : Settings → Value

namespace SettingField

/-- The setting in a table of its own section: the default if it is missing, and nothing if it
cannot be read. -/
def valueIn? (f : SettingField) (table : SettingTable) : Option f.Value :=
  match f.names.findSome? fun name => table.get? name with
  | none => some f.default
  | some s => f.read s

/-- The setting in a whole table. -/
def fromTable? (f : SettingField) (table : SettingTable) : Option f.Value :=
  match f.group with
  | none => f.valueIn? table
  | some name => (table.group? name).bind f.valueIn?

/-- The setting that the environment has in place of any other. -/
def fromEnvironment? (f : SettingField) (env : Environment) : Option f.Value :=
  f.overrides.findSome? fun name => (env.text? name).bind f.accept

/-- A setting that no variable replaces. -/
def fixed {α : Type} (group : Text) (name : Text) (read : Setting → Option α) (default : α)
    (get : Settings → α) : SettingField :=
  ⟨α, some group, [name], read, default, [], fun _ => none, get⟩

/-- A text that variables replace. -/
def text (group : Option Text) (names : List Text) (default : Text) (overrides : List Text)
    (get : Settings → Text) : SettingField :=
  ⟨Text, group, names, Setting.text?, default, overrides, some, get⟩

/-- The truth value that one of the known words stands for, in any case. -/
def flagOfWord? (t : Text) : Option Bool :=
  let word := Text.toAsciiLower t
  if Environment.yesWords.contains word then some true
  else if Environment.noWords.contains word then some false
  else none

/-! ## The settings -/

/-- The settings outside of all sections. -/
def general : List SettingField := [
  ⟨Bool, none, ["debug"], Setting.bool?, false, ["SENSORCONSOLE_DEBUG"], flagOfWord?,
    Settings.debug⟩,
  text none ["log_level"] ({} : Settings).logLevel ["SENSORCONSOLE_LOG_LEVEL"] Settings.logLevel]

/-- Which model serves the agent. The short name wins over the long one. -/
def model : SettingField :=
  text (some "models") ["default", "default_llm"] ({} : ModelSettings).defaultModel
    ["SENSORCONSOLE_DEFAULT_LLM"] fun s => s.models.defaultModel

/-- The settings on models. -/
def ofModels : List SettingField := [model]

/-- The settings on requests. -/
def ofRequest : List SettingField :=
  let default : RequestSettings := {}
  [fixed "llm" "temperature" Setting.double? default.temperature fun s => s.request.temperature,
    fixed "llm" "top_p" Setting.double? default.topP fun s => s.request.topP,
    fixed "llm" "top_k" Setting.int? default.topK fun s => s.request.topK,
    fixed "llm" "max_output_tokens" Setting.int? default.maxOutputTokens
      fun s => s.request.maxOutputTokens,
    fixed "llm" "timeout_sec" Setting.double? default.timeoutSec fun s => s.request.timeoutSec,
    fixed "llm" "max_retries" Setting.int? default.maxRetries fun s => s.request.maxRetries,
    fixed "llm" "harassment_block_threshold" Setting.text? default.harassmentThreshold
      fun s => s.request.harassmentThreshold]

/-- How deep panels are rendered. -/
def renderDepth : SettingField :=
  ⟨RenderLimit, some "a2ui", ["max_render_depth"], fun s => s.int?.bind RenderLimit.ofInt?,
    .standard, ["SENSORCONSOLE_MAX_RENDER_DEPTH"], fun t => t.readInt?.bind RenderLimit.ofInt?,
    fun s => s.panel.maxRenderDepth⟩

/-- The settings on the panel. -/
def ofPanel : List SettingField := [
  fixed "a2ui" "protocol_version" Setting.text? ({} : PanelSettings).protocolVersion
    fun s => s.panel.protocolVersion,
  renderDepth]

/-- The key that gives access. Two variables replace it, and the first one wins. -/
def apiKey : SettingField :=
  text (some "google") ["api_key"] ({} : GoogleSettings).apiKey
    ["GOOGLE_API_KEY", "GEMINI_API_KEY"] fun s => s.google.apiKey

/-- The settings on access by a key. -/
def ofGoogle : List SettingField := [apiKey]

/-- The settings on access through a project. -/
def ofVertex : List SettingField := [
  text (some "vertex") ["project_id"] ({} : VertexSettings).projectId
    ["SENSORCONSOLE_VERTEX_PROJECT_ID"] fun s => s.vertex.projectId,
  text (some "vertex") ["location"] ({} : VertexSettings).location
    ["SENSORCONSOLE_VERTEX_LOCATION"] fun s => s.vertex.location]

/-- All settings. -/
def all : List SettingField :=
  general ++ ofModels ++ ofRequest ++ ofPanel ++ ofGoogle ++ ofVertex

end SettingField

/-- The table in a file that is there, read with so much room for nesting; none if there is no
file. -/
def FoundFile.table? (room : Nat) : FoundFile → Except LoadFault (Option SettingTable)
  | nothing => .ok none
  | unreadable error => .error (.unreadable error)
  | content bytes => do
    let text ← (Text.ofUtf8 bytes).mapError fun _ => .encoding
    let table ← (Toml.read room text).mapError .toml
    return some table

end AgentPanel
