import AgentPanel.Conversation.Request
import AgentPanel.Conversation.Turn
import AgentPanel.Reply.Parsed

/-!
# The assistant

The assistant runs what the user submits through the model and the reader of replies, and keeps the
log. Submitting and answering are two steps, because the model takes its time: a submission puts the
user's turn into the log and leaves a request in flight, and the end of the request puts the agent's
turn behind it. Meanwhile nothing else may be submitted.

Not every request ends with a turn. The errors of a conversation become turns, but any other error
leaves the submission: the one of giving up, and a fault in making the text of a reply or of an
error. The log keeps the user's turn alone then, and the conversation can go on.
-/

namespace AgentPanel

/-- How deep values may nest in the two places where a conversation depends on the stack. -/
structure NestingLimits where
  /-- for JSON to be read -/
  reading : Nat
  /-- for the text of a value to be written -/
  writing : Nat

/-- The limits of the program. -/
def NestingLimits.standard : NestingLimits := ⟨Json.maxNesting, Json.Value.standardRoom⟩

/-- The log of a conversation, the oldest turn first, and what the request in flight asks. -/
structure Assistant where
  log : List Turn
  inFlight : Option Text
  deriving DecidableEq, Repr

namespace Assistant

/-- The assistant of a conversation that has come so far. An empty one may open with a welcome. -/
def start (version : Text) (log : List Turn) (welcome : Bool) : Assistant where
  log := if welcome && log.isEmpty then [.payload (Payload.welcome version) false] else log
  inFlight := none

/-- A request is in flight. -/
def isPending (a : Assistant) : Bool := a.inFlight.isSome

/-- What comes of a submission. -/
inductive Submission where
  /-- nothing: it is blank -/
  | ignored
  /-- an error: a request is in flight -/
  | refused (e : PanelError)
  /-- a request -/
  | accepted (a : Assistant)
  deriving DecidableEq, Repr

/-- The error of a submission while a request is in flight. -/
def busy : PanelError := .agentBusy "An agent turn is already in progress"

/-- Submits a text. -/
def submit (a : Assistant) (text : Text) : Submission :=
  if text.isBlank then .ignored
  else if a.isPending then .refused busy
  else .accepted { log := a.log ++ [.userText text], inFlight := some text }

/-- The turn that shows an error of the agent. -/
def failedTurn (version : Text) (e : PanelError) : Logged Turn := do
  report .error .conversation ("Agent turn failed [" ++ Text.ofString e.code ++ "]: " ++ e.message)
  return .error (.ofError version e)

/-- What a submission that was accepted ends with. -/
inductive Answer where
  /-- a turn of the agent -/
  | turn (t : Turn)
  /-- an error that the conversation does not handle -/
  | escaped (e : Raised)
  deriving DecidableEq, Repr

/-- The turn of the agent, if there is one. -/
def Answer.turn? : Answer → Option Turn
  | turn t => some t
  | escaped _ => none

/-- What a request ends with for its submission. Of the errors that leave a request, only the
panel's own are those of a conversation. -/
def answer (limits : NestingLimits) (version : Text) (outcome : ModelOutcome) : Logged Answer := do
  match ← Request.receive limits.writing outcome with
  | .error .blank => return .escaped (.other "ValueError" Request.blankMessage)
  | .error (.raised (.own e)) => return .turn (← failedTurn version e)
  | .error (.raised e) => return .escaped e
  | .ok reply =>
    match ← Reply.parse limits.reading reply with
    | .error e => return .turn (← failedTurn version e)
    | .ok parsed => return .turn (.payload parsed.payload parsed.repaired)

/-- The request in flight ends. Whatever it ends with, none is in flight any more. -/
def finish (a : Assistant) (limits : NestingLimits) (version : Text) (outcome : ModelOutcome) :
    Logged (Assistant × Answer) := do
  let answer ← answer limits version outcome
  return ({ log := a.log ++ answer.turn?.toList, inFlight := none }, answer)

/-- What the model is asked by the request in flight. -/
def messages (a : Assistant) (instructions : Text) : List Message :=
  match a.inFlight with
  | some text => Prompt.messages instructions text
  | none => []

end Assistant

end AgentPanel
