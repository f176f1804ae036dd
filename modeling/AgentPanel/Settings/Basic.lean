import AgentPanel.Checked
import AgentPanel.Panel.Rendering
import AgentPanel.Path
import AgentPanel.Settings.Reading

/-!
# Settings

The settings of the console, in sections, each with its default. `Settings.check` makes settings of
a raw table: what is missing has its default, unknown keys are ignored, and every setting that
cannot be read is one fault. `Settings.toTable` gives the table back.
-/

namespace AgentPanel

/-- Which model serves the agent. -/
structure ModelSettings where
  /-- the key of the model, provider and name with a slash between them -/
  defaultModel : Text := "google/gemini-flash-latest"
  deriving DecidableEq, Repr

/-- What is asked of a model with every request, whoever provides it. -/
structure RequestSettings where
  temperature : Double := .ofDecimal false 1 (-1)
  topP : Double := .ofDecimal false 95 (-2)
  topK : Int := 40
  maxOutputTokens : Int := 2048
  timeoutSec : Double := .ofInt 60
  maxRetries : Int := 0
  /-- the name of the threshold at which harassment is blocked -/
  harassmentThreshold : Text := "BLOCK_MEDIUM_AND_ABOVE"
  deriving DecidableEq, Repr

/-- How payloads are made and rendered. -/
structure PanelSettings where
  /-- the version of the payloads that the console makes itself -/
  protocolVersion : Text := defaultVersion
  maxRenderDepth : RenderLimit := RenderLimit.standard
  deriving DecidableEq, Repr

/-- Access to the models of Google by a key. -/
structure GoogleSettings where
  apiKey : Text := []
  deriving DecidableEq, Repr

/-- Access to the same models through a project. -/
structure VertexSettings where
  projectId : Text := []
  location : Text := "us-central1"
  deriving DecidableEq, Repr

/-- All settings. -/
structure Settings where
  debug : Bool := false
  logLevel : Text := "INFO"
  models : ModelSettings := {}
  request : RequestSettings := {}
  panel : PanelSettings := {}
  google : GoogleSettings := {}
  vertex : VertexSettings := {}
  /-- the files that the settings come from -/
  loadedFrom : List Path := []
  deriving DecidableEq, Repr

namespace Settings

/-! ## From raw tables -/

/-- One setting: its default if it is missing, and a fault if it cannot be read. -/
def checkKey {α : Type} (table : SettingTable) (key : Text) (default : α)
    (read : Setting → Option α) : Checked α :=
  match table.get? key with
  | none => .valid default
  | some s => .ofOption (read s)

/-- One section: all its defaults if it is missing, and a fault if it is no table. -/
def checkSection {α : Type} (table : SettingTable) (key : Text) (default : α)
    (check : SettingTable → Checked α) : Checked α :=
  match table.get? key with
  | none => .valid default
  | some (.table inner) => check inner
  | some _ => .faulty 1

/-- The section on models. The short name of its only key wins over the long one. -/
def checkModels (table : SettingTable) : Checked ModelSettings :=
  let default : ModelSettings := {}
  if table.has "default" then
    ModelSettings.mk <$> checkKey table "default" default.defaultModel Setting.text?
  else ModelSettings.mk <$> checkKey table "default_llm" default.defaultModel Setting.text?

/-- The section on requests. -/
def checkRequest (table : SettingTable) : Checked RequestSettings :=
  let default : RequestSettings := {}
  RequestSettings.mk
    <$> checkKey table "temperature" default.temperature Setting.double?
    <*> checkKey table "top_p" default.topP Setting.double?
    <*> checkKey table "top_k" default.topK Setting.int?
    <*> checkKey table "max_output_tokens" default.maxOutputTokens Setting.int?
    <*> checkKey table "timeout_sec" default.timeoutSec Setting.double?
    <*> checkKey table "max_retries" default.maxRetries Setting.int?
    <*> checkKey table "harassment_block_threshold" default.harassmentThreshold Setting.text?

/-- The section on the panel. -/
def checkPanel (table : SettingTable) : Checked PanelSettings :=
  let default : PanelSettings := {}
  PanelSettings.mk
    <$> checkKey table "protocol_version" default.protocolVersion Setting.text?
    <*> checkKey table "max_render_depth" default.maxRenderDepth fun s =>
      s.int?.bind RenderLimit.ofInt?

/-- The section on access by a key. -/
def checkGoogle (table : SettingTable) : Checked GoogleSettings :=
  let default : GoogleSettings := {}
  GoogleSettings.mk <$> checkKey table "api_key" default.apiKey Setting.text?

/-- The section on access through a project. -/
def checkVertex (table : SettingTable) : Checked VertexSettings :=
  let default : VertexSettings := {}
  VertexSettings.mk
    <$> checkKey table "project_id" default.projectId Setting.text?
    <*> checkKey table "location" default.location Setting.text?

/-- Paths, each of them a text. -/
def checkPaths : List Setting → Checked (List Path)
  | [] => .valid []
  | s :: rest => List.cons <$> .ofOption (s.text?.map Path.ofText) <*> checkPaths rest

/-- The files that settings come from: a list of paths. -/
def checkLoadedFrom (table : SettingTable) : Checked (List Path) :=
  match table.get? "loaded_from" with
  | none => .valid []
  | some (.list items) => checkPaths items
  | some _ => .faulty 1

/-- A raw table as settings. -/
def checkTable (table : SettingTable) : Checked Settings :=
  let default : Settings := {}
  Settings.mk
    <$> checkKey table "debug" default.debug Setting.bool?
    <*> checkKey table "log_level" default.logLevel Setting.text?
    <*> checkSection table "models" default.models checkModels
    <*> checkSection table "llm" default.request checkRequest
    <*> checkSection table "a2ui" default.panel checkPanel
    <*> checkSection table "google" default.google checkGoogle
    <*> checkSection table "vertex" default.vertex checkVertex
    <*> checkLoadedFrom table

/-- A raw setting as settings. -/
def check : Setting → Checked Settings
  | .table table => checkTable table
  | _ => .faulty 1

/-! ## To raw tables -/

/-- The settings as a raw table, every key of which is there. -/
def toTable (s : Settings) : SettingTable := [
  ("debug", .bool s.debug),
  ("log_level", .text s.logLevel),
  ("models", .table [("default_llm", .text s.models.defaultModel)]),
  ("llm", .table [
    ("temperature", .float s.request.temperature),
    ("top_p", .float s.request.topP),
    ("top_k", .int s.request.topK),
    ("max_output_tokens", .int s.request.maxOutputTokens),
    ("timeout_sec", .float s.request.timeoutSec),
    ("max_retries", .int s.request.maxRetries),
    ("harassment_block_threshold", .text s.request.harassmentThreshold)]),
  ("a2ui", .table [
    ("protocol_version", .text s.panel.protocolVersion),
    ("max_render_depth", .int s.panel.maxRenderDepth.value)]),
  ("google", .table [("api_key", .text s.google.apiKey)]),
  ("vertex", .table [
    ("project_id", .text s.vertex.projectId), ("location", .text s.vertex.location)]),
  ("loaded_from", .list (s.loadedFrom.map fun path => .text path.toText))]

end Settings

end AgentPanel
