import AgentPanel.Console.Output
import AgentPanel.Conversation.Assistant
import AgentPanel.Models.Creation
import AgentPanel.Settings.Loading

/-!
# Runs of the console

What each command writes. A run is cut into the steps between which the console has to look
something up, read a line or wait for a model; each step is a function from what was found to what
is written.
-/

namespace AgentPanel.Console

/-- What all commands need: the settings, the weight from which on events are logged, and the
registry of components. -/
structure Context where
  settings : Settings
  threshold : Nat
  registry : Registry

namespace Context

/-- The context of a run with the given settings, or the error that their log level raises. -/
def ofSettings (verbose : Bool) (registry : Registry) (s : Settings) : Except Raised Context :=
  if verbose || s.debug then .ok ⟨s, Level.debug.weight, registry⟩
  else (Console.threshold s.logLevel).map fun threshold => ⟨s, threshold, registry⟩

/-- The version of the payloads that the console makes. -/
def version (c : Context) : Text := c.settings.panel.protocolVersion

/-- The log lines of what was reported. -/
def log {α : Type} (c : Context) (x : Logged α) : List Output := logLines c.threshold x.events

/-- Rendered trees, after the log lines of the rendering. -/
def showRendered (c : Context) (format : Format) (trees : Logged (List Rendered)) : List Output :=
  c.log trees ++ showTrees trees.value format

/-- A payload, rendered. -/
def showPayload (c : Context) (format : Format) (p : Payload) : List Output :=
  c.showRendered format (Payload.render (.standard c.registry) c.settings.panel.maxRenderDepth p)

/-- A turn, rendered. -/
def showTurn (c : Context) (format : Format) (t : Turn) : List Output :=
  c.showRendered format (t.render (.standard c.registry) c.settings.panel.maxRenderDepth c.version)

end Context

/-- The beginning of a run whose settings have been loaded, or not: what is written before its
command, and the context of the command or the error that ends the run. -/
def beginRun (verbose : Bool) (registry : Registry) :
    Except Raised (Logged Settings) → List Output × Except Raised Context
  | .error e => ([], .error e)
  | .ok loaded => (earlyLines loaded.events, Context.ofSettings verbose registry loaded.value)

/-! ## Components -/

/-- The component types, one per line. -/
def listComponents (c : Context) : List Output := c.registry.types.map screenLine

/-! ## Render -/

/-- The notice about a reply that was repaired. -/
def repairNotice : Text := "(response was truncated and has been repaired)"

/-- Renders a reply. -/
def renderReply (c : Context) (format : Format) (reply : Text) : List Output × Ending :=
  let parsed := Reply.parse Json.maxNesting reply
  match parsed.value with
  | .error e =>
    (c.log parsed ++ [noticeLine ("Error [" ++ Text.ofString e.code ++ "]: " ++ e.message)],
      .exit 1)
  | .ok p =>
    let notice := if p.repaired then [noticeLine repairNotice] else []
    (c.log parsed ++ notice ++ c.showPayload format p.payload, .exit 0)

/-- Renders the reply in the bytes of a source. -/
def renderBytes (c : Context) (format : Format) (bytes : List UInt8) : List Output × Ending :=
  match Text.ofUtf8 bytes with
  | .error fault => ([], .raised (.other "UnicodeDecodeError" fault.message))
  | .ok text => renderReply c format text.unifyLineEnds

/-! ## Chat -/

/-- What stands before each line of the user. -/
def prompt : Text := "you> "

/-- The lines that end a chat. -/
def farewells : List Text := ["/quit", "/exit"]

/-- How a chat ends that has no model: panel errors are shown, others are not handled. -/
def noModel : CreationError → List Output × Ending
  | .raised (.own e) => ([noticeLine ("Error: " ++ e.message)], .exit 1)
  | .raised e => ([], .raised e)
  | .lookUp e =>
    ([], .raised (.other (match e with | .blankKey _ => "ValueError" | _ => "KeyError") e.message))
  | .noProvider => ([], .raised (.other "ValueError" noProviderMessage))

/-- The beginning of a chat: the assistant, and the welcome on the screen. -/
def beginChat (c : Context) (format : Format) : Assistant × List Output :=
  let assistant := Assistant.start c.version [] true
  (assistant, match assistant.log.getLast? with
    | some turn => c.showTurn format turn
    | none => [])

/-- What a line of the user means to a chat. -/
inductive Heard where
  /-- the end -/
  | farewell
  /-- nothing -/
  | nothing
  /-- a request to the model -/
  | request (a : Assistant)

/-- Hears a line of the user. -/
def hear (a : Assistant) (line : Text) : Heard :=
  if farewells.contains line.trim then .farewell
  else match a.submit line with
    | .accepted a => .request a
    | .ignored | .refused _ => .nothing

/-- The notice about a failed turn. -/
def failureNotice : Turn → List Output
  | .error e => [noticeLine ("[" ++ Text.ofString e.failure.name ++ "]")]
  | _ => []

/-- The request has ended: the turn on the screen, and the assistant, or the error that ends the
chat. -/
def answered (c : Context) (format : Format) (a : Assistant) (outcome : ModelOutcome) :
    List Output × Except Raised Assistant :=
  let finished := a.finish .standard c.version outcome
  let (a, answer) := finished.value
  match answer with
  | .turn turn => (c.log finished ++ failureNotice turn ++ c.showTurn format turn, .ok a)
  | .escaped e => (c.log finished, .error e)

end AgentPanel.Console
