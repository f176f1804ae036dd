import AgentPanel.Failure
import AgentPanel.Journal
import AgentPanel.Settings.Basic
import AgentPanel.Text.Upper

/-!
# Gemini models

How a Gemini model is connected to: its name, the request controls, the threshold of the harassment
filter, and either a key or a project that gives access. A project wins over a key.
-/

namespace AgentPanel

/-- From where on the harassment filter blocks. -/
inductive HarassmentThreshold where
  | unspecified
  | lowAndAbove
  | mediumAndAbove
  | onlyHigh
  | never
  | off
  deriving DecidableEq, Repr

namespace HarassmentThreshold

/-- All thresholds. -/
def all : List HarassmentThreshold :=
  [unspecified, lowAndAbove, mediumAndAbove, onlyHigh, never, off]

/-- The name of a threshold. -/
def name : HarassmentThreshold → Text
  | unspecified => "HARM_BLOCK_THRESHOLD_UNSPECIFIED"
  | lowAndAbove => "BLOCK_LOW_AND_ABOVE"
  | mediumAndAbove => "BLOCK_MEDIUM_AND_ABOVE"
  | onlyHigh => "BLOCK_ONLY_HIGH"
  | never => "BLOCK_NONE"
  | off => "OFF"

/-- The threshold with the given name. -/
def ofName? (name : Text) : Option HarassmentThreshold := all.find? (·.name = name)

end HarassmentThreshold

/-- What gives access to the models. -/
inductive GeminiAccess where
  | key (apiKey : Text)
  | project (id location : Text)
  deriving DecidableEq, Repr

/-- A connection to a Gemini model. -/
structure Gemini where
  model : Text
  temperature : Json.Value
  topP : Double
  topK : Int
  maxOutputTokens : Json.Value
  timeoutSec : Double
  maxRetries : Int
  threshold : HarassmentThreshold
  access : GeminiAccess
  deriving DecidableEq, Repr

namespace Gemini

open Json (Value Members)

/-- The model if none is named. -/
def defaultModel : Text := "gemini-flash-latest"

/-- Why there is no connection. -/
inductive Fault where
  /-- the name of the model is not a text but a value of the given kind -/
  | modelName (kind : String)
  /-- there is no threshold of this name -/
  | threshold (name : Text)
  /-- neither a key nor a project is set -/
  | noAccess
  deriving DecidableEq, Repr

/-- The error of a fault. -/
def Fault.error : Fault → Raised
  | modelName kind =>
    .other "AttributeError" ("'" ++ Text.ofString kind ++ "' object has no attribute 'strip'")
  | threshold name =>
    .own (.configuration ("Unknown llm.harassment_block_threshold: " ++ name.quoted))
  | noAccess =>
    .own (.configuration "GeminiLLM requires google.api_key (GOOGLE_API_KEY) or vertex.project_id")

/-- The model that an option names, trimmed; the default model for none or a blank one. -/
def modelName (options : Members) : Except Fault Text :=
  match (options.get? "model_name").getD .null with
  | .text t => .ok (if t.trim.isEmpty then defaultModel else t.trim)
  | v => if v.isEmpty then .ok defaultModel else .error (.modelName v.kindName)

/-- The threshold that a setting names, in any case. -/
def thresholdOf (setting : Text) : Except Fault HarassmentThreshold :=
  let name := setting.trim.toUpper
  match HarassmentThreshold.ofName? name with
  | some threshold => .ok threshold
  | none => .error (.threshold name)

/-- The access that the settings give. -/
def accessOf (settings : Settings) : Except Fault GeminiAccess :=
  if !settings.vertex.projectId.isEmpty then
    .ok (.project settings.vertex.projectId settings.vertex.location)
  else if !settings.google.apiKey.isEmpty then .ok (.key settings.google.apiKey)
  else .error .noAccess

/-- An option, or the value of a setting if the option is missing or null. -/
def optionOr (options : Members) (name : Text) (setting : Value) : Value :=
  match options.get? name with
  | none | some .null => setting
  | some v => v

/-- The connection that settings and options describe. -/
def ofSettings (settings : Settings) (options : Members) : Except Fault Gemini := do
  let model ← modelName options
  let threshold ← thresholdOf settings.request.harassmentThreshold
  let access ← accessOf settings
  return {
    model, threshold, access
    temperature := optionOr options "temperature" (.float settings.request.temperature)
    topP := settings.request.topP
    topK := settings.request.topK
    maxOutputTokens := optionOr options "max_output_tokens" (.int settings.request.maxOutputTokens)
    timeoutSec := settings.request.timeoutSec
    maxRetries := settings.request.maxRetries }

/-- Connects to the model that settings and options describe. -/
def connect (settings : Settings) (options : Members) : Logged (Except Raised Gemini) := do
  match ofSettings settings options with
  | .error fault => return .error fault.error
  | .ok g =>
    if let .project id _ := g.access then
      report .debug .gemini ("GeminiLLM: using Vertex AI project " ++ id)
    return .ok g

end Gemini

end AgentPanel
