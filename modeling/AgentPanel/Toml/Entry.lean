import AgentPanel.Settings.Setting

/-!
# What keys stand for

While a settings file is read, each key stands for a value, a table or a list of tables. A file may
not give one thing two meanings, so a table remembers how it came to be: its own header may open it
once, and dotted keys may extend it only in the part of the file in which dotted keys made it. The
parts of a file are counted by its headers.
-/

namespace AgentPanel.Toml

/-- The parts of a dotted key. -/
abbrev Key := List Text

/-- How a table came to be. -/
inductive Status where
  /-- as part of the key of another header -/
  | implied
  /-- by a dotted key in the given part of the file -/
  | dotted (part : Nat)
  /-- by its own header -/
  | declared
  deriving DecidableEq, Repr

/-- Dotted keys in the given part of the file may extend the table. -/
def Status.isOpen (part : Nat) : Status → Bool
  | implied => true
  | dotted madeIn => madeIn = part
  | declared => false

/-- What a key stands for. -/
inductive Entry where
  /-- a value, closed for good -/
  | value (s : Setting)
  /-- a table -/
  | table (status : Status) (entries : List (Text × Entry))
  /-- a list of tables: the earlier ones, last first, and the current one -/
  | tables (earlier : List (List (Text × Entry))) (current : List (Text × Entry))

/-- The entries of a table. -/
abbrev Entries := Keyed Entry

namespace Entries

/-- Gives a dotted key a value; none if the key has a meaning already, or leads through something
that dotted keys may not extend. -/
def assign (part : Nat) (s : Setting) : Key → Entries → Option Entries
  | [], _ => none
  | [last], entries => if entries.has last then none else some (entries.set last (.value s))
  | first :: rest, entries =>
    match entries.get? first with
    | none =>
      (assign part s rest []).map fun inner => entries.set first (.table (.dotted part) inner)
    | some (.table status inner) =>
      if status.isOpen part then
        (assign part s rest inner).map fun inner => entries.set first (.table (.dotted part) inner)
      else none
    | some _ => none

/-- Changes the table that a header's key leads to. In a list of tables the current one is meant;
missing tables on the way are made. -/
def within (change : Entries → Option Entries) : Key → Entries → Option Entries
  | [], entries => change entries
  | first :: rest, entries =>
    match entries.get? first with
    | none => (within change rest []).map fun inner => entries.set first (.table .implied inner)
    | some (.table status inner) =>
      (within change rest inner).map fun inner => entries.set first (.table status inner)
    | some (.tables earlier current) =>
      (within change rest current).map fun current => entries.set first (.tables earlier current)
    | some (.value _) => none

/-- Opens a table by its header. -/
def declare (name : Text) (entries : Entries) : Option Entries :=
  match entries.get? name with
  | none => some (entries.set name (.table .declared []))
  | some (.table .implied inner) => some (entries.set name (.table .declared inner))
  | some _ => none

/-- Begins the next item of a list of tables. -/
def declareItem (name : Text) (entries : Entries) : Option Entries :=
  match entries.get? name with
  | none => some (entries.set name (.tables [] []))
  | some (.tables earlier current) => some (entries.set name (.tables (current :: earlier) []))
  | some _ => none

end Entries

mutual

/-- What a key stands for, as a setting. -/
def Entry.toSetting : Entry → Setting
  | .value s => s
  | .table _ entries => .table (toSettings entries)
  | .tables earlier current => .list ((toTables earlier).reverse ++ [.table (toSettings current)])

/-- The entries of a table as settings. -/
def toSettings : List (Text × Entry) → List (Text × Setting)
  | [] => []
  | (key, entry) :: rest => (key, entry.toSetting) :: toSettings rest

/-- Tables as settings. -/
def toTables : List (List (Text × Entry)) → List Setting
  | [] => []
  | entries :: rest => .table (toSettings entries) :: toTables rest

end

end AgentPanel.Toml
