import AgentPanel.Conversation.Assistant

/-!
# Histories of a conversation

What happens to an assistant over time: submissions, and the ends of the requests that they led to,
in any order in which they can come. A `Timeline` knows every request that has not ended, so it can
be asked whether there are several. Beside it stands what a log is meant to hold: one `Exchange`
after the other, each a submission and what came of it.
-/

namespace AgentPanel

/-- Something that happens to an assistant. -/
inductive Happening where
  /-- somebody submits a text -/
  | submit (text : Text)
  /-- one of the open requests ends -/
  | ends (request : Nat) (outcome : ModelOutcome)

/-- What somebody is told about it. -/
inductive Notice where
  /-- the submission is blank -/
  | ignored
  /-- the submission is refused -/
  | refused (e : PanelError)
  /-- the submission has led to a request -/
  | accepted
  /-- the request has ended, and so has its submission -/
  | ended (answer : Assistant.Answer)
  /-- there is no such request -/
  | unknown

/-- An assistant, and the submissions whose requests have not ended. -/
structure Timeline where
  assistant : Assistant
  waiting : List Text

namespace Timeline

/-- An assistant at rest. -/
def start (a : Assistant) : Timeline := ⟨a, []⟩

/-- Something happens. -/
def next (limits : NestingLimits) (version : Text) (t : Timeline) : Happening → Timeline × Notice
  | .submit text =>
    match t.assistant.submit text with
    | .ignored => (t, .ignored)
    | .refused e => (t, .refused e)
    | .accepted a => (⟨a, t.waiting ++ [text]⟩, .accepted)
  | .ends request outcome =>
    if request < t.waiting.length then
      let (a, answer) := (t.assistant.finish limits version outcome).value
      (⟨a, t.waiting.eraseIdx request⟩, .ended answer)
    else (t, .unknown)

/-- One thing happens after the other. -/
def after (limits : NestingLimits) (version : Text) (t : Timeline)
    (happenings : List Happening) : Timeline :=
  happenings.foldl (fun t h => (t.next limits version h).1) t

end Timeline

/-! ## Exchanges -/

/-- A submission that was accepted, and what came of it. -/
inductive Exchange where
  /-- nothing yet -/
  | unanswered (text : Text)
  /-- the agent's turn -/
  | answered (text : Text) (turn : Turn)
  /-- nothing but an error that left it -/
  | broken (text : Text) (e : Raised)
  deriving DecidableEq, Repr

namespace Exchange

/-- The turns that an exchange leaves in a log. -/
def turns : Exchange → List Turn
  | unanswered text => [.userText text]
  | answered text turn => [.userText text, turn]
  | broken text _ => [.userText text]

/-- Nothing has come of the exchange yet. -/
def isUnanswered : Exchange → Bool
  | unanswered _ => true
  | answered _ _ | broken _ _ => false

/-- The exchange after its request has ended. -/
def close (limits : NestingLimits) (version : Text) (outcome : ModelOutcome) : Exchange → Exchange
  | unanswered text =>
    match (Assistant.answer limits version outcome).value with
    | .turn turn => answered text turn
    | .escaped e => broken text e
  | e => e

/-- The exchanges after something has happened. A text begins one if it is not blank and all are
answered; the first request that has not ended is that of the exchange without an answer. -/
def next (limits : NestingLimits) (version : Text) (exchanges : List Exchange) :
    Happening → List Exchange
  | .submit text =>
    if text.isBlank || exchanges.any isUnanswered then exchanges
    else exchanges ++ [unanswered text]
  | .ends request outcome =>
    if request = 0 then exchanges.map (close limits version outcome) else exchanges

/-- The exchanges of a history. -/
def ofHistory (limits : NestingLimits) (version : Text) (happenings : List Happening) :
    List Exchange :=
  happenings.foldl (next limits version) []

end Exchange

end AgentPanel
