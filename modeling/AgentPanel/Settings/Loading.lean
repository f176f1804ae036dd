import AgentPanel.Environment
import AgentPanel.Failure
import AgentPanel.Journal
import AgentPanel.Settings.Basic
import AgentPanel.Text.Utf8
import AgentPanel.Toml.Document

/-!
# Loading settings

Settings come from three layers: the defaults, one settings file, and environment variables. A file
counts as a whole or not at all: a file that cannot be read, or holds a single faulty setting,
leaves the defaults as they are. Only a file whose values are nested too deep ends the loading; how
deep that is depends on the stack of the reader, so it is read with a given room for nesting. Each
environment variable that is set and acceptable replaces its own setting and no other.
-/

namespace AgentPanel

/-- What is found where a settings file is looked for. -/
inductive FoundFile where
  | nothing
  /-- something that cannot be opened or read, with the name of the error: a directory, or a file
  that the program has no right to -/
  | unreadable (error : Text)
  | content (bytes : List UInt8)

/-- A directory where a file is looked for. -/
def FoundFile.directory : FoundFile := .unreadable "IsADirectoryError"

/-- Why a settings file is not used. -/
inductive LoadFault where
  /-- it cannot be opened or read, with the name of the error -/
  | unreadable (error : Text)
  /-- it is not UTF-8 -/
  | encoding
  /-- it is not TOML -/
  | toml (fault : Toml.Fault)
  /-- so many settings in it are faulty -/
  | faulty (faults : Nat)
  deriving DecidableEq, Repr

/-- The name of the fault, for reports. -/
def LoadFault.name : LoadFault → Text
  | unreadable error => error
  | encoding => "UnicodeDecodeError"
  | toml .malformed => "TOMLDecodeError"
  | toml .tooManyDigits => "ValueError"
  | toml .tooDeep => "RecursionError"
  | faulty n => "ValidationError(" ++ Text.ofNat n ++ ")"

/-- The error with which a fault ends the loading. With all other faults the loading goes on. -/
def LoadFault.raised? : LoadFault → Option Raised
  | fault@(toml .tooDeep) => some (.other fault.name "maximum recursion depth exceeded")
  | _ => none

namespace Settings

/-- The file that is looked for if no other is named. -/
def fileName : Text := "settings.toml"

/-- Where the settings file is: at the given path, else at the one that the environment names, else
under its own name in the working directory. -/
def filePath (given : Option Text) (env : Environment) (workingDirectory : Path) : Path :=
  match given with
  | some path@(_ :: _) => .ofText path
  | _ =>
    match env.text? "SENSORCONSOLE_CONFIG_PATH" with
    | some path => workingDirectory.resolve (.ofText path)
    | none => workingDirectory.child fileName

/-- A table with another one laid over it: two sections of one name are laid over each other key by
key, anything else is replaced. -/
def layer (table new : SettingTable) : SettingTable :=
  new.foldl
    (fun table (key, s) =>
      match table.get? key, s with
      | some (.table old), .table inner => table.set key (.table (Keyed.overlay old inner))
      | _, s => table.set key s)
    table

/-- Settings with the table of a file laid over them. Which files settings come from is not for a
file to say. -/
def withTable (s : Settings) (table : SettingTable) : Checked Settings :=
  checkTable (layer s.toTable (table.without "loaded_from"))

/-- The settings of a file that is there. -/
def ofBytes (room : Nat) (bytes : List UInt8) : Except LoadFault Settings := do
  let text ← (Text.ofUtf8 bytes).mapError fun _ => .encoding
  let table ← (Toml.read room text).mapError .toml
  match withTable {} table with
  | .valid s => return s
  | .faulty n => throw (.faulty n)

/-- The settings before the environment is asked: those of the file, or the defaults. A file that is
not used is reported, unless it ends the loading. -/
def ofFile (room : Nat) (path : Path) (found : FoundFile) : Except Raised (Logged Settings) :=
  let result : Except LoadFault Settings := match found with
    | .nothing => .ok {}
    | .unreadable error => .error (.unreadable error)
    | .content bytes =>
      (ofBytes room bytes).map fun s => { s with loadedFrom := s.loadedFrom ++ [path] }
  match result with
  | .ok s => .ok (pure s)
  | .error fault =>
    match fault.raised? with
    | some e => .error e
    | none => .ok do
      report .warning .settings
        ("Failed to load TOML config from " ++ path.toText ++ ": " ++ fault.name)
      return {}

/-- The environment variables that settings come from. -/
def variableNames : List Text := [
  "SENSORCONSOLE_CONFIG_PATH", "SENSORCONSOLE_DEBUG", "SENSORCONSOLE_LOG_LEVEL",
  "SENSORCONSOLE_DEFAULT_LLM", "SENSORCONSOLE_MAX_RENDER_DEPTH", "GOOGLE_API_KEY",
  "GEMINI_API_KEY", "SENSORCONSOLE_VERTEX_PROJECT_ID", "SENSORCONSOLE_VERTEX_LOCATION"]

/-- The settings with those of the environment in place of their own. -/
def withEnvironment (s : Settings) (env : Environment) : Settings where
  debug := (env.flag? "SENSORCONSOLE_DEBUG").getD s.debug
  logLevel := (env.text? "SENSORCONSOLE_LOG_LEVEL").getD s.logLevel
  models.defaultModel := (env.text? "SENSORCONSOLE_DEFAULT_LLM").getD s.models.defaultModel
  request := s.request
  panel.protocolVersion := s.panel.protocolVersion
  panel.maxRenderDepth :=
    ((env.whole? "SENSORCONSOLE_MAX_RENDER_DEPTH").bind RenderLimit.ofInt?).getD
      s.panel.maxRenderDepth
  google.apiKey :=
    ((env.text? "GOOGLE_API_KEY").orElse fun _ => env.text? "GEMINI_API_KEY").getD s.google.apiKey
  vertex.projectId := (env.text? "SENSORCONSOLE_VERTEX_PROJECT_ID").getD s.vertex.projectId
  vertex.location := (env.text? "SENSORCONSOLE_VERTEX_LOCATION").getD s.vertex.location
  loadedFrom := s.loadedFrom

/-- The settings of all three layers, or the error with which the file ended the loading. -/
def load (room : Nat) (env : Environment) (path : Path) (found : FoundFile) :
    Except Raised (Logged Settings) :=
  (ofFile room path found).map fun s => (·.withEnvironment env) <$> s

end Settings

end AgentPanel
