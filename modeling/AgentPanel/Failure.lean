import AgentPanel.Text.Basic

/-!
# The error family

The errors that the panel itself raises or passes on. Each carries a stable code, so that callers
can branch on it without looking at the message. The errors that end an agent turn form a family of
their own: the agent could not be reached, or its reply could not be used. An unusable reply is kept
whole in the error.

Errors of others are known by their names and texts. An error of others may have no text, though:
making the text can itself end in an error, a `TextFault`.
-/

namespace AgentPanel

/-- An error of the panel. -/
inductive PanelError where
  /-- any error of the panel -/
  | general (message : Text)
  /-- the settings do not allow what was asked -/
  | configuration (message : Text)
  /-- a registration after the registry was frozen -/
  | registryFrozen (message : Text)
  /-- a submission while a turn is in flight -/
  | agentBusy (message : Text)
  /-- an agent turn ended without a usable payload -/
  | agentTurn (message : Text)
  /-- the agent could not be reached -/
  | transport (message : Text)
  /-- the provider refused for quota or rate reasons -/
  | rateLimited (message : Text)
  /-- the agent replied, but not with a payload -/
  | unusable (message rawText : Text)
  /-- the reply is JSON without the shape of a payload -/
  | schema (message rawText : Text)
  /-- the reply is not JSON, even after repair -/
  | malformed (message rawText : Text)
  deriving DecidableEq, Repr

namespace PanelError

/-- The stable code. -/
def code : PanelError → String
  | general _ => "INTERNAL_ERROR"
  | configuration _ => "CONFIGURATION_ERROR"
  | registryFrozen _ => "REGISTRY_FROZEN"
  | agentBusy _ => "AGENT_BUSY"
  | agentTurn _ => "AGENT_TURN_ERROR"
  | transport _ => "TRANSPORT_ERROR"
  | rateLimited _ => "RATE_LIMITED"
  | unusable _ _ => "PARSE_ERROR"
  | schema _ _ => "SCHEMA_ERROR"
  | malformed _ _ => "MALFORMED_RESPONSE"

/-- The message. -/
def message : PanelError → Text
  | general m | configuration m | registryFrozen m | agentBusy m | agentTurn m | transport m
  | rateLimited m | unusable m _ | schema m _ | malformed m _ => m

/-- The reply that could not be used, whole, in the errors that have one. -/
def rawText? : PanelError → Option Text
  | unusable _ raw | schema _ raw | malformed _ raw => some raw
  | _ => none

/-- The name, which stands in for the text of an error that has none. -/
def name : PanelError → String
  | general _ => "SensorConsoleError"
  | configuration _ => "ConfigurationError"
  | registryFrozen _ => "RegistryFrozenError"
  | agentBusy _ => "AgentBusyError"
  | agentTurn _ => "AgentTurnError"
  | transport _ => "TransportError"
  | rateLimited _ => "RateLimitError"
  | unusable _ _ => "ParseError"
  | schema _ _ => "SchemaError"
  | malformed _ _ => "MalformedResponseError"

/-- The agent could not be reached, for whatever reason. -/
def isTransport : PanelError → Bool
  | transport _ | rateLimited _ => true
  | _ => false

end PanelError

/-- Why something has no text: the error that making the text ends in. It comes from the language of
the program, so it is none of the panel's own, and it has a text itself. -/
structure TextFault where
  name : Text
  message : Text
  deriving DecidableEq, Repr

/-- An error as it comes out of a model provider or a component: one of the panel's own, or any
other, known by its name and its text. -/
inductive Raised where
  | own (e : PanelError)
  | other (name text : Text)
  /-- an error whose text cannot be made -/
  | textless (name : Text) (fault : TextFault)
  deriving DecidableEq, Repr

/-- The error that a fault is, where nobody handles it. -/
def TextFault.raised (fault : TextFault) : Raised := .other fault.name fault.message

namespace Raised

/-- The name of the error. -/
def name : Raised → Text
  | own e => e.name
  | other name _ | textless name _ => name

/-- The text of the error, if it can be made. -/
def text : Raised → Except TextFault Text
  | own e => .ok e.message
  | other _ text => .ok text
  | textless _ fault => .error fault

/-- The error is one of the panel's own and says that the agent could not be reached. -/
def isTransport : Raised → Bool
  | own e => e.isTransport
  | other _ _ | textless _ _ => false

end Raised

end AgentPanel
