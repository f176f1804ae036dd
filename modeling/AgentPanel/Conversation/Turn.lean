import AgentPanel.Failure
import AgentPanel.Panel.Rendering

/-!
# Turns of a conversation

A conversation is a list of turns, the oldest first. The user's turns are texts. The agent's turns
are texts, payloads, or errors that stand in place of a payload; an error has a payload of its own,
which shows it.
-/

namespace AgentPanel

/-- Who takes a turn. -/
inductive Sender where
  | user
  | agent
  deriving DecidableEq, Repr

/-- The name of a sender. -/
def Sender.name : Sender → String
  | user => "user"
  | agent => "agent"

/-- How an agent turn failed: the agent could not be reached, or its reply could not be used. -/
inductive TurnFailure where
  | transport
  | parse
  deriving DecidableEq, Repr

/-- The name of a failure. -/
def TurnFailure.name : TurnFailure → String
  | transport => "transport"
  | parse => "parse"

/-- A failed agent turn. The reply is kept whole if there was one. -/
structure ErrorTurn where
  payload : Payload
  failure : TurnFailure
  code : String
  message : Text
  rawText : Option Text
  deriving DecidableEq, Repr

/-- One turn. -/
inductive Turn where
  | userText (text : Text)
  | agentText (text : Text)
  | payload (p : Payload) (repaired : Bool)
  | error (e : ErrorTurn)
  deriving DecidableEq, Repr

/-! ## Payloads of the console -/

/-- A text component without children. -/
def textComponent (id content : Text) (style : Option Text := none) : Component where
  id := id
  type := "text"
  props := ("content", .text content) :: (style.map fun s => (("style" : Text), .text s)).toList
  children := []

/-- The style of texts that the console shows as a payload of their own. -/
def plainStyle : Text := "body"

/-- A payload of one text. -/
def Payload.ofText (version id content : Text) : Payload :=
  ⟨version, [textComponent id content (some plainStyle)]⟩

/-- The payload that opens a conversation. -/
def Payload.welcome (version : Text) : Payload := ⟨version, [
  textComponent "welcome-heading" "Advanced AI technical support" (some "caption"),
  textComponent "welcome-title" "How can I help you today?" (some "title"),
  textComponent "welcome-body" ("Ask me to show sensor readings, explain the system or analyse " ++
    "sensor data. I reply with visual interfaces." : String)]⟩

namespace ErrorTurn

/-- The message of an error that has none. -/
def defaultMessage : Text := "Failed to connect to AI Agent."

/-- The turn that shows an error of the agent. -/
def ofError (version : Text) (e : PanelError) : ErrorTurn :=
  let message := if e.message.isEmpty then defaultMessage else e.message
  { payload := Payload.ofText version "err" ("Error: " ++ message)
    failure := if e.isTransport then .transport else .parse
    code := e.code
    message := message
    rawText := e.rawText? }

end ErrorTurn

namespace Turn

/-- Who takes the turn. -/
def sender : Turn → Sender
  | userText _ => .user
  | _ => .agent

/-- What is shown of a turn: its payload, or a payload of its text. -/
def shownPayload (version : Text) : Turn → Payload
  | payload p _ => p
  | error e => e.payload
  | userText text => Payload.ofText version "user-text" text
  | agentText text => Payload.ofText version "agent-text" text

/-- A turn, rendered. -/
def render (engine : Engine) (limit : RenderLimit) (version : Text) (t : Turn) :
    Logged (List Rendered) :=
  Payload.render engine limit (t.shownPayload version)

end Turn

end AgentPanel
