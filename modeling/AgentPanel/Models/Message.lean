import AgentPanel.Json.Showing

/-!
# Messages to and from a model

A request is a row of messages, each by a person or by the model. What comes back is a value of any
kind, usually a text or a list of blocks, or an error.
-/

namespace AgentPanel

/-- Who says a message. -/
inductive Role where
  | human
  | ai
  deriving DecidableEq, Repr

/-- The name of a role. -/
def Role.name : Role → String
  | human => "human"
  | ai => "ai"

/-- One message of a request. -/
structure Message where
  role : Role
  content : Text
  deriving DecidableEq, Repr

/-- How a request to a model ends. -/
inductive ModelOutcome where
  /-- with a reply -/
  | reply (v : Json.Value)
  /-- with an error -/
  | raised (e : Raised)
  /-- given up before the model answered, for the named reason -/
  | aborted (name text : Text)
  deriving DecidableEq, Repr

namespace Message

open Json (Value Members)

/-- The block is one of text: its type says so, or it has no type. -/
def isTextBlock (block : Members) : Bool :=
  (block.get? "type").getD (.text "text") = .text "text"

/-- The text of one block; blocks of other kinds are left out. -/
def blockText (room : Nat) : Value → Except TextFault Text
  | .text t => .ok t
  | .object block =>
    if isTextBlock block then ((Keyed.get? "text" block).getD (.text [])).shown? room else .ok []
  | _ => .ok []

/-- The text of a message's content, where so many levels of a value can be written: a text, or
blocks one after the other. -/
def contentText (room : Nat) : Value → Except TextFault Text
  | .text t => .ok t
  | .array blocks => (blocks.mapM (blockText room)).map List.flatten
  | .null => .ok []
  | v => v.shown? room

end Message

end AgentPanel
