import AgentPanel.Panel.RegistryStore

/-!
# Histories of registries

What is asked of a store of registries over time, and what each registry is meant to hold. A
`RegistryRecord` never replaces anything: it lists all registrations of a registry, also those that
it took over as a copy, and the latest one of a tag is the one that counts. A `RegistryBook` has one
record for each registry.
-/

namespace AgentPanel

/-- Something that is asked of a store and may change it. -/
inductive RegistryRequest where
  | new (name : Text)
  | newBuiltin
  | copy (h : Handle) (name : Text)
  | processWide
  | install (h : Option Handle)
  | register (h : Handle) (tag : Text) (offer : Offer) (overwrite : Bool)
  | freeze (h : Handle)

namespace RegistryStore

/-- The store after a request. A registration that fails leaves it as it is. -/
def serve (s : RegistryStore) : RegistryRequest → RegistryStore
  | .new name => (s.new name).1
  | .newBuiltin => s.newBuiltin.1
  | .copy h name => (s.copy h name).1
  | .processWide => s.processWide.1
  | .install h => s.install h
  | .register h tag offer overwrite =>
    match (s.register h tag offer overwrite).value with
    | .ok s => s
    | .error _ => s
  | .freeze h => s.freeze h

/-- The store after a history. -/
def afterHistory (history : List RegistryRequest) : RegistryStore := history.foldl serve empty

end RegistryStore

/-- All registrations of a registry, the earliest first, and whether it takes more. -/
structure RegistryRecord where
  registrations : List (Text × Capability)
  frozen : Bool

namespace RegistryRecord

/-- The latest registration of a tag. -/
def latest (r : RegistryRecord) (tag : Text) : Option Capability :=
  (r.registrations.reverse.find? fun (key, _) => key = tag).map Prod.snd

/-- The record after a registration that is accepted: the registry is open, the tag is not blank,
the offer can be called, and the tag is free or may be taken over. -/
def register (r : RegistryRecord) (tag : Text) (offer : Offer) (overwrite : Bool) :
    RegistryRecord :=
  match offer with
  | .notCallable => r
  | .capability c =>
    if r.frozen ∨ tag.trim.isEmpty ∨ (!overwrite ∧ (r.latest tag.trim).isSome) then r
    else { r with registrations := r.registrations ++ [(tag.trim, c)] }

end RegistryRecord

/-- One record for each registry, and the one that serves the whole process, if it is set. -/
structure RegistryBook where
  records : List RegistryRecord
  installed : Option Handle

namespace RegistryBook

/-- No record yet. -/
def empty : RegistryBook := ⟨[], none⟩

/-- The record of a registry. -/
def get? (b : RegistryBook) (h : Handle) : Option RegistryRecord := b.records[h]?

/-- Adds a record. -/
def add (b : RegistryBook) (r : RegistryRecord) : RegistryBook :=
  { b with records := b.records ++ [r] }

/-- Changes the record of a registry. -/
def modify (b : RegistryBook) (h : Handle) (f : RegistryRecord → RegistryRecord) : RegistryBook :=
  { b with records := b.records.modify h f }

/-- Closes the record of a registry for good. -/
def freeze (b : RegistryBook) (h : Handle) : RegistryBook := b.modify h ({ · with frozen := true })

/-- The book after a request. -/
def serve (b : RegistryBook) : RegistryRequest → RegistryBook
  | .new _ => b.add ⟨[], false⟩
  | .newBuiltin => b.add ⟨Registry.builtin.entries, false⟩
  | .copy h _ => b.add ⟨((b.get? h).map RegistryRecord.registrations).getD [], false⟩
  | .processWide =>
    match b.installed with
    | some _ => b
    | none =>
      { b.add ⟨Registry.builtin.entries, true⟩ with installed := some b.records.length }
  | .install none => { b with installed := none }
  | .install (some h) => { b.freeze h with installed := some h }
  | .register h tag offer overwrite => b.modify h fun r => r.register tag offer overwrite
  | .freeze h => b.freeze h

/-- The book after a history. -/
def afterHistory (history : List RegistryRequest) : RegistryBook := history.foldl serve empty

end RegistryBook

end AgentPanel
