import AgentPanel.Json.Value

/-!
# Looking into values

A pointer leads from a value into its parts. `Value.at?` follows it, and `Value.shape` is what
stands at its end without what stands further inside, so a value is known when the shapes at all
pointers are.
-/

namespace AgentPanel.Json

/-- One step into a value. -/
inductive PointerStep where
  /-- to the value under a key of an object -/
  | key (key : Text)
  /-- to an item of an array -/
  | item (index : Nat)
  deriving DecidableEq, Repr

/-- A way into a value, step by step. -/
abbrev Pointer := List PointerStep

namespace Value

/-- The part of a value that one step leads to. -/
def part? : Value → PointerStep → Option Value
  | object members, .key key => Keyed.get? key members
  | array items, .item index => items[index]?
  | _, _ => none

/-- The part of a value that a pointer leads to. -/
def at? (v : Value) : Pointer → Option Value
  | [] => some v
  | step :: rest => (v.part? step).bind fun part => part.at? rest

/-- A scalar as it is, an array without its items, and an object with null under all its keys. -/
def shape : Value → Value
  | array _ => array []
  | object members => object (members.map fun (key, _) => (key, null))
  | v => v

end Value

end AgentPanel.Json
