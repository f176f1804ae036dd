import AgentPanel.Models.Message

/-!
# The prompt

What a model is told with every request: the instructions, as if they had been given and accepted in
an earlier exchange, and then what the user says.
-/

namespace AgentPanel.Prompt

/-- The lines of the instructions of the console. -/
def instructionLines : List String := [
  "",
  "You are the AI assistant of a smart environmental-monitoring system.",
  "You communicate exclusively through A2UI (Agent-to-User Interface) JSON.",
  "",
  "### IMPORTANT RULES:",
  "- Always return valid JSON.",
  "- No comments inside the JSON.",
  "- No extra text outside the JSON.",
  "",
  "### JSON STRUCTURE:",
  "\x7b",
  "  \"version\": \"1.0\",",
  "  \"components\": [",
  "    \x7b",
  "      \"id\": \"unique_id\",",
  "      \"type\": \"container\",",
  "      \"props\": \x7b\x7d,",
  "      \"children\": [",
  "        \x7b",
  "          \"id\": \"comp_1\",",
  "          \"type\": \"stat-card\",",
  "          \"props\": \x7b",
  "            \"title\": \"Temperature\",",
  "            \"value\": \"24°C\",",
  "            \"icon\": \"thermostat\",",
  "            \"colorClass\": \"text-orange-400\"",
  "          \x7d",
  "        \x7d",
  "      ]",
  "    \x7d",
  "  ]",
  "\x7d",
  "",
  "### COMPONENT TYPES:",
  "- type: \"container\", \"grid-container\", \"text\", \"button\", \"stat-card\"",
  "- icons: thermostat, humidity_percentage, air, eco, warning, trending_up",
  "- text styles: \"title\", \"body\", \"caption\"",
  "",
  "If the user asks to see data or readings, use a grid-container of stat-cards.",
  "If the user asks a question, use text components.",
  ""]

/-- The instructions of the console. -/
def instructions : Text := Text.join "\n" (instructionLines.map Text.ofString)

/-- What is added to any instructions. -/
def reminder : Text :=
  "\nIMPORTANT: Ensure the JSON is complete and valid. Close all brackets."

/-- How the model is taken to have accepted the instructions. -/
def acceptance : Text :=
  "Understood. I will provide strictly valid and complete A2UI JSON payloads."

/-- The messages of a request. -/
def messages (instructions userText : Text) : List Message := [
  ⟨.human, instructions ++ reminder⟩,
  ⟨.ai, acceptance⟩,
  ⟨.human, userText⟩]

end AgentPanel.Prompt
