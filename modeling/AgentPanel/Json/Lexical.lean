import AgentPanel.Text.Basic

/-!
# The small pieces of JSON

The blanks between tokens, and the escapes of one letter inside strings.
-/

namespace AgentPanel.Json

/-- The blanks between the tokens of JSON. -/
def isSpace (c : CodePoint) : Bool := c = ' ' ∨ c = '\t' ∨ c = '\n' ∨ c = '\r'

/-- The code point that a backslash and a letter write. -/
def letterEscape? (letter : CodePoint) : Option CodePoint :=
  match letter with
  | .scalar '"' => some '"'
  | .scalar '\\' => some '\\'
  | .scalar '/' => some '/'
  | .scalar 'b' => some '\x08'
  | .scalar 'f' => some '\x0c'
  | .scalar 'n' => some '\n'
  | .scalar 'r' => some '\r'
  | .scalar 't' => some '\t'
  | _ => none

end AgentPanel.Json
