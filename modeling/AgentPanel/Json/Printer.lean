import AgentPanel.Json.Value

/-!
# Printing JSON

The indented form in which the console prints values: one item or member per line, two spaces per
level, and characters outside ASCII as they are.
-/

namespace AgentPanel.Json

/-- A code point as it stands inside a JSON string. -/
def escapedPoint (c : CodePoint) : Text :=
  if c = '"' then "\\\""
  else if c = '\\' then "\\\\"
  else if c = '\n' then "\\n"
  else if c = '\r' then "\\r"
  else if c = '\t' then "\\t"
  else if c = '\x08' then "\\b"
  else if c = '\x0c' then "\\f"
  else if c.toNat < 0x20 then "\\u" ++ Text.ofHex 4 c.toNat
  else [c]

/-- A text as a JSON string. -/
def stringText (t : Text) : Text := "\"" ++ t.flatMap escapedPoint ++ "\""

/-- A double as a JSON number, or the name of one that is not finite. -/
def floatText : Double → Text
  | .nan => "NaN"
  | .infinity negative => if negative then "-Infinity" else "Infinity"
  | x => x.toText

/-- The beginning of a line on the given level. -/
def newLine (level : Nat) : Text := '\n' :: Text.times level "  "

namespace Value

mutual

/-- The indented form of a value whose lines are on the given level. -/
def indented (level : Nat) : Value → Text
  | null => "null"
  | bool b => if b then "true" else "false"
  | int n => Text.ofInt n
  | float x => floatText x
  | text t => stringText t
  | array [] => "[]"
  | array (v :: rest) =>
    "[" ++ newLine (level + 1) ++ indented (level + 1) v ++ indentedItems level rest ++
      newLine level ++ "]"
  | object [] => "\x7b\x7d"
  | object ((k, v) :: rest) =>
    "\x7b" ++ newLine (level + 1) ++ stringText k ++ ": " ++ indented (level + 1) v ++
      indentedMembers level rest ++ newLine level ++ "\x7d"

/-- The further items of an array, each after a comma. -/
def indentedItems (level : Nat) : List Value → Text
  | [] => []
  | v :: rest =>
    "," ++ newLine (level + 1) ++ indented (level + 1) v ++ indentedItems level rest

/-- The further members of an object, each after a comma. -/
def indentedMembers (level : Nat) : List (Text × Value) → Text
  | [] => []
  | (k, v) :: rest =>
    "," ++ newLine (level + 1) ++ stringText k ++ ": " ++ indented (level + 1) v ++
      indentedMembers level rest

end

end Value

end AgentPanel.Json
