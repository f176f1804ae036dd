import AgentPanel.Json.Value

/-!
# Raw settings

What a settings file or a caller hands in, before anything is known about its meaning: a JSON value
or the content of a TOML file. TOML has no null, and JSON has no moments in time.
-/

namespace AgentPanel

/-- A raw setting. No setting of the panel is a moment in time, so nothing is kept of one. -/
inductive Setting where
  | null
  | bool (b : Bool)
  | int (n : Int)
  | float (x : Double)
  | text (t : Text)
  | moment
  | list (items : List Setting)
  | table (entries : List (Text × Setting))
  deriving Repr

/-- The entries of a table. -/
abbrev SettingTable := Keyed Setting

namespace Setting

mutual

/-- A JSON value as a raw setting. -/
def ofValue : Json.Value → Setting
  | .null => .null
  | .bool b => .bool b
  | .int n => .int n
  | .float x => .float x
  | .text t => .text t
  | .array items => .list (ofItems items)
  | .object members => .table (ofMembers members)

/-- Item by item. -/
def ofItems : List Json.Value → List Setting
  | [] => []
  | v :: rest => ofValue v :: ofItems rest

/-- Member by member. -/
def ofMembers : List (Text × Json.Value) → List (Text × Setting)
  | [] => []
  | (k, v) :: rest => (k, ofValue v) :: ofMembers rest

end

end Setting

end AgentPanel
