import AgentPanel.Keyed
import AgentPanel.Number.Numeral

/-!
# Environment variables

A variable that is blank counts as not set. Flags have a few words for yes and no; a word that is
neither, and a number that is none, leave things as they are.
-/

namespace AgentPanel

/-- The environment variables of the process. -/
abbrev Environment := Keyed Text

namespace Environment

/-- The trimmed text of a variable that is not blank. -/
def text? (env : Environment) (name : Text) : Option Text :=
  (env.get? name).bind fun t => if t.trim.isEmpty then none else some t.trim

/-- The words for yes. -/
def yesWords : List Text := ["1", "true", "yes", "y", "on"]

/-- The words for no. -/
def noWords : List Text := ["0", "false", "no", "n", "off"]

/-- The truth value that a variable gives in one of the known words, in any case. -/
def flag? (env : Environment) (name : Text) : Option Bool :=
  (env.get? name).bind fun t =>
    let word := Text.toAsciiLower t.trim
    if yesWords.contains word then some true
    else if noWords.contains word then some false
    else none

/-- The whole number that a variable gives. -/
def whole? (env : Environment) (name : Text) : Option Int := (env.text? name).bind Text.readInt?

end Environment

end AgentPanel
