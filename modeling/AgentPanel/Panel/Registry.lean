import AgentPanel.Journal
import AgentPanel.Keyed
import AgentPanel.Panel.Builtin
import AgentPanel.Text.Blank

/-!
# The component registry

Which capability renders which type tag. A registry is filled at startup, where a later
registration replaces an earlier one unless the caller refuses that, and is then frozen: from there
on it is only read. A registration that fails changes nothing.
-/

namespace AgentPanel

/-- One capability per type tag, in the order of first registration. -/
structure Registry where
  name : Text
  entries : Keyed Capability
  frozen : Bool

/-- What a caller offers for registration: a capability, or something that cannot be called. -/
inductive Offer where
  | capability (c : Capability)
  | notCallable

/-- Why a registration fails. -/
inductive RegistrationError where
  /-- the registry is frozen -/
  | frozen (registry tag : Text)
  /-- the tag holds nothing but blanks -/
  | blankTag (registry : Text)
  /-- what is registered cannot be called -/
  | notCallable (registry tag : Text)
  /-- the tag is taken, and replacing was refused -/
  | taken (registry tag : Text)
  deriving DecidableEq, Repr

/-- The message of a failed registration. -/
def RegistrationError.message : RegistrationError → Text
  | frozen registry tag => registry ++ ": cannot register '" ++ tag ++ "' after freeze()"
  | blankTag registry => registry ++ ": registry key must be non-empty"
  | notCallable registry tag => registry ++ ": capability for '" ++ tag ++ "' must be callable"
  | taken registry tag => registry ++ ": '" ++ tag ++ "' already registered"

namespace Registry

/-- The name of a registry that is given none. -/
def defaultName : Text := "a2ui-components"

/-- A registry without entries. -/
def empty (name : Text := defaultName) : Registry := ⟨name, [], false⟩

/-- The capability under a tag, by exact match. -/
def resolve (r : Registry) (tag : Text) : Option Capability := r.entries.get? tag

/-- The tag has a capability. -/
def contains (r : Registry) (tag : Text) : Bool := (r.resolve tag).isSome

/-- The number of tags. -/
def size (r : Registry) : Nat := r.entries.length

/-- The tags in text order. -/
def types (r : Registry) : List Text :=
  r.entries.keys.mergeSort fun a b => !Text.before b a

/-- The registry, frozen. -/
def freeze (r : Registry) : Registry := { r with frozen := true }

/-- An open registry with the same entries, under another name if one is given. -/
def copy (r : Registry) (name : Text := []) : Registry :=
  { r with name := if name.isEmpty then r.name else name, frozen := false }

/-- Registers a capability under the trimmed tag. -/
def register (r : Registry) (tag : Text) (offer : Offer) (overwrite : Bool := true) :
    Logged (Except RegistrationError Registry) :=
  let key := tag.trim
  if r.frozen then return .error (.frozen r.name tag)
  else if key.isEmpty then return .error (.blankTag r.name)
  else match offer with
    | .notCallable => return .error (.notCallable r.name key)
    | .capability c =>
      if r.contains key then
        if overwrite then do
          report .debug .components (r.name ++ ": overwriting capability for '" ++ key ++ "'")
          return .ok { r with entries := r.entries.set key c }
        else return .error (.taken r.name key)
      else return .ok { r with entries := r.entries.set key c }

/-- An open registry with the builtin components. -/
def builtin : Registry :=
  { empty with entries := Builtin.components.map fun (type, build) =>
      (type, Builtin.capability type build) }

end Registry

end AgentPanel
