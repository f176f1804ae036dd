import AgentPanel.Conversation.Prompt
import AgentPanel.Journal
import AgentPanel.Text.Blank

/-!
# One request to the model

What comes out of a request for the conversation: the text of the reply, or an error that says that
the agent could not be reached. A reply is taken as it is, however malformed. Any error of the model
becomes a transport error; one that speaks of a quota or a rate becomes the error for that.

Both need a text: a reply that is none is read as the text of its value, and what an error says
decides what becomes of it. If a text cannot be made, the fault leaves the request as it is.
-/

namespace AgentPanel.Request

/-- What an error says if the provider refused for reasons of quota or rate. -/
def quotaMarkers : List Text :=
  ["429", "quota", "resource exhausted", "resource_exhausted", "rate limit"]

/-- An error of this name and text speaks of a quota or a rate. -/
def speaksOfQuota (name text : Text) : Bool :=
  let said := Text.toAsciiLower (name ++ " " ++ text)
  quotaMarkers.any (Text.contains said)

/-- The message of a refusal for reasons of quota or rate. -/
def quotaMessage : Text := "Quota exceeded. Please wait a minute."

/-- The text of a reply, where so many levels of a value can be written: nothing for null, the text
of any other value. -/
def replyText (room : Nat) : Json.Value → Except TextFault Text
  | .null => .ok []
  | v => v.shown? room

/-- The transport error that an error of this name and text becomes. -/
def transportError (name text : Text) : PanelError :=
  if speaksOfQuota name text then .rateLimited quotaMessage
  else .transport (if text.isEmpty then name else text)

/-- The error with which a request ends whose model raised an error. Transport errors stay as they
are, whatever they say. An error without a text is not reported either, since the report would say
the text. -/
def failure (e : Raised) : Logged Raised :=
  if e.isTransport then return e
  else match e.text with
    | .error fault => return fault.raised
    | .ok text => do
      report .error .session ("Agent request failed: " ++ text)
      return .own (transportError e.name text)

/-- Why a request gives no text. -/
inductive Fault where
  /-- the user said nothing -/
  | blank
  /-- an error ended the request: that of a model, of making a text, or of giving up -/
  | raised (e : Raised)
  deriving DecidableEq, Repr

/-- The message for a user who says nothing. -/
def blankMessage : Text := "user_text must be non-empty"

/-- The text that a request gives when it ends. -/
def receive (room : Nat) : ModelOutcome → Logged (Except Fault Text)
  | .reply v => return (replyText room v).mapError fun fault => .raised fault.raised
  | .raised e => do return .error (.raised (← failure e))
  | .aborted name text => return .error (.raised (.other name text))

/-- Asks a model; the user has to say something. -/
def ask (room : Nat) (instructions userText : Text) (model : List Message → ModelOutcome) :
    Logged (Except Fault Text) :=
  if userText.isBlank then return .error .blank
  else receive room (model (Prompt.messages instructions userText))

end AgentPanel.Request
