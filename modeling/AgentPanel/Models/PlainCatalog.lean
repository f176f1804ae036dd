import AgentPanel.Models.Catalog

/-!
# Catalogs without memory

A plain catalog keeps what was registered and nothing else: asking it changes nothing. It gives what
a catalog would give that did not keep the builtin things it was asked for.
-/

namespace AgentPanel

/-- Something that is asked of a catalog. -/
inductive CatalogRequest (α : Type) where
  | get (key : Text)
  | register (key : Text) (a : α) (overwrite : Bool)

/-- What comes of it: a thing, a registration, or a refusal. -/
inductive CatalogAnswer (α : Type) where
  | found (a : α)
  | registered
  | refused (e : CatalogError)
  deriving DecidableEq

namespace CatalogAnswer

variable {α : Type}

/-- The answer to a look-up. -/
def ofLookUp : Except CatalogError α → CatalogAnswer α
  | .ok a => found a
  | .error e => refused e

end CatalogAnswer

namespace Catalog

variable {α : Type}

/-- Answers a request, and gives the catalog after that. -/
def answer (c : Catalog α) : CatalogRequest α → CatalogAnswer α × Catalog α
  | .get key => let (found, c) := c.get key; (.ofLookUp found, c)
  | .register key a overwrite =>
    match c.register key a overwrite with
    | .ok c => (.registered, c)
    | .error e => (.refused e, c)

/-- Answers requests one after the other. -/
def answers (c : Catalog α) : List (CatalogRequest α) → List (CatalogAnswer α)
  | [] => []
  | r :: rest => let (a, c) := c.answer r; a :: answers c rest

end Catalog

/-- A catalog that keeps what was registered and nothing else. -/
structure PlainCatalog (α : Type) where
  name : Text
  builtin : Keyed α
  registered : Keyed α := []

namespace PlainCatalog

variable {α : Type}

/-- What stands under a trimmed key: what is registered there, the builtin thing of the key, what is
registered for its provider, or the builtin thing of its provider. -/
def get? (c : PlainCatalog α) (key : Text) : Option α :=
  ((c.registered.get? key).or (c.builtin.get? key)).or
    ((Catalog.wildcard? key).bind fun wildcard =>
      (c.registered.get? wildcard).or (c.builtin.get? wildcard))

/-- Answers a request, and gives the catalog after that. -/
def answer (c : PlainCatalog α) : CatalogRequest α → CatalogAnswer α × PlainCatalog α
  | .get key =>
    match c.get? key.trim with
    | some a => (.found a, c)
    | none => (.refused (.unknown c.name key.trim), c)
  | .register key a overwrite =>
    if key.trim.isEmpty then (.refused (.blankKey c.name), c)
    else if !overwrite && c.registered.has key.trim then (.refused (.taken c.name key.trim), c)
    else (.registered, { c with registered := c.registered.set key.trim a })

/-- Answers requests one after the other. -/
def answers (c : PlainCatalog α) : List (CatalogRequest α) → List (CatalogAnswer α)
  | [] => []
  | r :: rest => let (a, c) := c.answer r; a :: answers c rest

end PlainCatalog

end AgentPanel
