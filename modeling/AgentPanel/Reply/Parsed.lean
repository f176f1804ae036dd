import AgentPanel.Failure
import AgentPanel.Journal
import AgentPanel.Json.Reader
import AgentPanel.Payload.Checking
import AgentPanel.Reply.Candidate
import AgentPanel.Reply.DeepCut
import AgentPanel.Reply.Repair

/-!
# From replies to payloads

A reply is read in two attempts: its candidate as strict JSON, and if that fails, the candidate with
its missing closing punctuation. Repair recovers structure, never values: a repaired component
passes the check of a payload, or the reply is unusable. An unusable reply is an error that keeps
the whole reply.

How deep JSON may nest to be read depends on the stack of the reader, so all readings take a limit.
-/

namespace AgentPanel.Reply

open Json (Value)

/-- What a usable reply comes to: the payload, whether it took a repair, and the text that was
read. -/
structure Parsed where
  payload : Payload
  repaired : Bool
  candidate : Text
  deriving DecidableEq, Repr

/-- Why a reply is unusable. -/
inductive Fault where
  /-- JSON, but a value of the given kind in place of an object -/
  | notObject (kind : String)
  /-- an object without components -/
  | noComponents
  /-- an object that fails the check of a payload in so many places -/
  | mismatch (faults : Nat)
  /-- not JSON, even after repair -/
  | notJson
  deriving DecidableEq, Repr

/-- The message of a fault. -/
def Fault.message : Fault → Text
  | notObject kind => "Agent response is a JSON " ++ Text.ofString kind ++ ", expected an object"
  | noComponents => "Agent response is missing 'components'"
  | mismatch faults =>
    "Agent response does not match the A2UI schema (" ++ Text.ofNat faults ++ " errors)"
  | notJson => "The AI response was invalid. Please try a simpler request."

/-- The error of a fault in a reply. -/
def Fault.error (reply : Text) : Fault → PanelError
  | notJson => .malformed Fault.notJson.message reply
  | fault => .schema fault.message reply

/-- How much of a reply a report shows. -/
def previewLength : Nat := 200

/-- The beginning of a reply, for reports. -/
def preview (reply : Text) : Text :=
  if reply.length ≤ previewLength then reply else reply.take previewLength ++ "..."

/-- The payload that a decoded value is. -/
def payloadOf (v : Value) : Logged (Except Fault Payload) :=
  match v with
  | .object members =>
    if (Keyed.get? "components" members).isNone then return .error .noComponents
    else do
      if 0 < cutCount members then
        report .warning .reply ("A2UI response nested deeper than " ++ Text.ofNat deepestLevel ++
          " levels, cut " ++ Text.ofNat (cutCount members) ++ " subtrees")
      match Payload.check (.object (cutDeep members)) with
      | .valid payload => return .ok payload
      | .faulty n => return .error (.mismatch n)
  | v => return .error (.notObject v.kindName)

/-- Reads the repaired candidate of a reply. -/
def parseRepaired (limit : Nat) (reply candidate : Text) : Logged (Except Fault Parsed) := do
  let repaired := repair candidate
  report .warning .reply ("A2UI response malformed, attempting truncation repair (" ++
    Text.ofNat (repaired.length - candidate.length) ++ " chars appended)")
  match Json.decodeWithin? limit repaired with
  | none =>
    report .error .reply ("Unrecoverable A2UI response: " ++ (preview reply).quoted)
    return .error .notJson
  | some v =>
    match ← payloadOf v with
    | .error fault => return .error fault
    | .ok payload =>
      report .info .reply ("A2UI response recovered by repair (" ++
        Text.ofNat payload.components.length ++ " root components)")
      return .ok ⟨payload, true, repaired⟩

/-- Reads a reply; an unusable one gives its fault. -/
def parse? (limit : Nat) (reply : Text) : Logged (Except Fault Parsed) := do
  let candidate := candidate reply
  match Json.decodeWithin? limit candidate with
  | some v => return (← payloadOf v).map fun payload => ⟨payload, false, candidate⟩
  | none => parseRepaired limit reply candidate

/-- Reads a reply whose JSON may nest so deep; an unusable one gives an error that keeps it
whole. -/
def parse (limit : Nat) (reply : Text) : Logged (Except PanelError Parsed) := do
  return (← parse? limit reply).mapError (Fault.error reply)

end AgentPanel.Reply
