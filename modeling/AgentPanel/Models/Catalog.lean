import AgentPanel.Keyed
import AgentPanel.Text.Blank

/-!
# Catalogs

Named things under keys of the form `provider/name`. Beside what was registered, a catalog knows
builtin things. Either may stand under a key, or under `provider/*` for all names of one provider. A
builtin thing that was asked for is kept under the key that was asked for, as if it had been
registered there.
-/

namespace AgentPanel

/-- Things under keys, and the builtin ones. -/
structure Catalog (α : Type) where
  name : Text
  builtin : Keyed α
  entries : Keyed α := []

/-- Why a catalog refuses. -/
inductive CatalogError where
  /-- nothing stands under the key -/
  | unknown (catalog key : Text)
  /-- the key holds nothing but blanks -/
  | blankKey (catalog : Text)
  /-- the key is taken, and replacing was not asked for -/
  | taken (catalog key : Text)
  deriving DecidableEq, Repr

/-- The message of a refusal. -/
def CatalogError.message : CatalogError → Text
  | unknown catalog key => catalog ++ ": unknown key '" ++ key ++ "'"
  | blankKey catalog => catalog ++ ": registry key must be non-empty"
  | taken catalog key => catalog ++ ": '" ++ key ++ "' already registered"

namespace Catalog

variable {α : Type}

/-- The key for all names of the provider that a key names. -/
def wildcard? (key : Text) : Option Text :=
  (Text.splitAtFirst? '/' key).map fun (provider, _) => provider ++ "/*"

/-- The catalog with a thing under a key. -/
def keep (c : Catalog α) (key : Text) (a : α) : Catalog α :=
  { c with entries := c.entries.set key a }

/-- What is found for a trimmed key that nothing is registered under: the builtin thing of the key,
what is registered for its provider, or the builtin thing of its provider. -/
def lookUp (c : Catalog α) (key : Text) : Except CatalogError α × Catalog α :=
  let unknown := (.error (.unknown c.name key), c)
  match c.builtin.get? key with
  | some a => (.ok a, c.keep key a)
  | none =>
    match wildcard? key with
    | none => unknown
    | some wildcard =>
      match c.entries.get? wildcard, c.builtin.get? wildcard with
      | some a, _ => (.ok a, c)
      | none, some a => (.ok a, c.keep key a)
      | none, none => unknown

/-- What stands under a key, and the catalog after that. -/
def get (c : Catalog α) (key : Text) : Except CatalogError α × Catalog α :=
  match c.entries.get? key.trim with
  | some a => (.ok a, c)
  | none => c.lookUp key.trim

/-- Registers a thing under the trimmed key. -/
def register (c : Catalog α) (key : Text) (a : α) (overwrite : Bool := false) :
    Except CatalogError (Catalog α) :=
  let key := key.trim
  if key.isEmpty then .error (.blankKey c.name)
  else if !overwrite && c.entries.has key then .error (.taken c.name key)
  else .ok (c.keep key a)

end Catalog

end AgentPanel
