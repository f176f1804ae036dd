import AgentPanel.Toml.Statement

/-!
# The table of a settings file

The statements of a file, one after the other, fill one table. A header says to which table the
assignments after it belong.
-/

namespace AgentPanel.Toml

/-- A file as far as its statements have been carried out: its table, the key of the last header,
and the number of headers. -/
structure Document where
  entries : Entries
  header : Key
  part : Nat

namespace Document

/-- Before the first statement. -/
def empty : Document := ⟨[], [], 0⟩

/-- Opens the table of a header by way of `enter`. -/
def underHeader? (d : Document) (enter : Text → Entries → Option Entries) (key : Key) :
    Option Document := do
  let name ← key.getLast?
  let entries ← d.entries.within (enter name) key.dropLast
  return ⟨entries, key, d.part + 1⟩

/-- Carries out one statement; none if it gives one thing two meanings. -/
def carryOut? (d : Document) : Statement → Option Document
  | .assignment key s => do
    let entries ← d.entries.within (Entries.assign d.part s key) d.header
    return { d with entries }
  | .tableHeader key => d.underHeader? Entries.declare key
  | .itemHeader key => d.underHeader? Entries.declareItem key

end Document

/-- The table that a TOML text writes, read with so much room for nesting. Each statement is carried
out before the next one is read, so a fault in one that comes later does not matter. -/
def read (room : Nat) (t : Text) : Except Fault SettingTable := do
  let (statements, fault) := statements room (tokens t)
  match statements.foldlM Document.carryOut? .empty, fault with
  | none, _ => throw .malformed
  | some _, some fault => throw fault
  | some d, none => return toSettings d.entries

end AgentPanel.Toml
