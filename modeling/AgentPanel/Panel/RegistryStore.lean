import AgentPanel.Panel.Registry

/-!
# Registries with identity

Registries are shared: two names may refer to one registry, and what is registered through one is
seen through the other. A store holds all registries that were ever made, a handle is the place of
one of them, and the store knows which one serves the whole process. That one is made on first use,
and it is frozen whenever it is handed out.
-/

namespace AgentPanel

/-- The place of a registry in a store. -/
abbrev Handle := Nat

/-- All registries, and the one that serves the whole process, if it is set. -/
structure RegistryStore where
  registries : List Registry
  installed : Option Handle

namespace RegistryStore

/-- No registry yet. -/
def empty : RegistryStore := ⟨[], none⟩

/-- The registry at a handle. -/
def get? (s : RegistryStore) (h : Handle) : Option Registry := s.registries[h]?

/-- Adds a registry and gives its handle. -/
def add (s : RegistryStore) (r : Registry) : RegistryStore × Handle :=
  ({ s with registries := s.registries ++ [r] }, s.registries.length)

/-- Changes the registry at a handle. -/
def modify (s : RegistryStore) (h : Handle) (f : Registry → Registry) : RegistryStore :=
  { s with registries := s.registries.modify h f }

/-- Makes an empty registry. -/
def new (s : RegistryStore) (name : Text := Registry.defaultName) : RegistryStore × Handle :=
  s.add (Registry.empty name)

/-- Makes a registry with the builtin components. -/
def newBuiltin (s : RegistryStore) : RegistryStore × Handle := s.add Registry.builtin

/-- Makes an open copy of a registry. -/
def copy (s : RegistryStore) (h : Handle) (name : Text := []) : RegistryStore × Handle :=
  s.add (((s.get? h).getD Registry.empty).copy name)

/-- Freezes a registry. -/
def freeze (s : RegistryStore) (h : Handle) : RegistryStore := s.modify h Registry.freeze

/-- Registers a capability. The store changes only if the registration succeeds. -/
def register (s : RegistryStore) (h : Handle) (tag : Text) (offer : Offer)
    (overwrite : Bool := true) : Logged (Except RegistrationError RegistryStore) :=
  match s.get? h with
  | none => return .ok s
  | some r => do
    match ← r.register tag offer overwrite with
    | .ok changed => return .ok (s.modify h fun _ => changed)
    | .error e => return .error e

/-- Sets the registry that serves the process, and freezes it; `none` leaves it to be made on the
next use. -/
def install (s : RegistryStore) : Option Handle → RegistryStore
  | none => { s with installed := none }
  | some h => { s.freeze h with installed := some h }

/-- The registry that serves the process: the installed one, else a frozen one with the builtin
components, which is installed by that. -/
def processWide (s : RegistryStore) : RegistryStore × Handle :=
  match s.installed with
  | some h => (s, h)
  | none =>
    let (s, h) := s.newBuiltin
    (s.install (some h), h)

end RegistryStore

end AgentPanel
