import AgentPanel.Panel.Gauge
import AgentPanel.Panel.Rendering
import AgentPanel.Reply.Parsed

/-!
# A sample reply

A reply with two gauges that was cut off in the middle of a number, and what the panel makes of it
with the gauge component registered.
-/

namespace AgentPanel.Sample

/-- The lines of the reply. -/
def replyLines : List String := [
  "Here is the humidity overview:",
  "```json",
  "\x7b\"version\": \"1.0\", \"components\": [",
  "  \x7b\"id\": \"g\", \"type\": \"grid-container\", \"children\": [",
  "    \x7b\"id\": \"h1\", \"type\": \"sensor-gauge\", " ++
    "\"props\": \x7b\"label\": \"Hub A humidity\", \"value\": 64, \"max\": 100\x7d\x7d,",
  "    \x7b\"id\": \"h2\", \"type\": \"sensor-gauge\", " ++
    "\"props\": \x7b\"label\": \"Hub B humidity\", \"value\": 71",
  ""]

/-- The reply. -/
def reply : Text := Text.join "\n" (replyLines.map Text.ofString)

/-- The reply on the screen. -/
def screen (limit : RenderLimit) : Logged (Except PanelError Text) := do
  match ← Reply.parse Json.maxNesting reply with
  | .error e => return .error e
  | .ok parsed =>
    let trees ← Payload.render (.standard Gauge.consoleRegistry) limit parsed.payload
    return .ok (trees.flatMap fun tree => tree.outline ++ "\n")

end AgentPanel.Sample
