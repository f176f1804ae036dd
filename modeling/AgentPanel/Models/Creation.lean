import AgentPanel.Models.Catalog
import AgentPanel.Models.Gemini

/-!
# Creating models

Which makers of models there are, under keys of the form `provider/name`. Creating a model looks its
maker up and passes on the settings and the options. The name part of the key is the name of the
model, unless the options name another one.
-/

namespace AgentPanel

open Json (Members)

/-- A way to make models of some kind `μ`. -/
structure ModelMaker (μ : Type) where
  name : Text
  make : Settings → Members → Logged (Except Raised μ)

/-- The makers of models. -/
abbrev ModelRegistry (μ : Type) := Catalog (ModelMaker μ)

/-- The key of a model: provider and name. -/
def modelKey (provider name : Text) : Text := provider ++ "/" ++ name

/-- Why no model is created. -/
inductive CreationError where
  /-- the key names no provider -/
  | noProvider
  /-- there is no maker under the key -/
  | lookUp (e : CatalogError)
  /-- the maker raised an error -/
  | raised (e : Raised)
  deriving DecidableEq, Repr

/-- The message for a key that names no provider. -/
def noProviderMessage : Text :=
  "LLM key must be 'provider/name' (e.g. 'google/gemini-flash-latest')"

namespace ModelRegistry

variable {μ : Type}

/-- A registry with the builtin makers alone: Gemini serves every model of its provider. `ofGemini`
says what a Gemini model is among the models of the kind `μ`. -/
def builtin (ofGemini : Gemini → μ) : ModelRegistry μ where
  name := "llms"
  builtin := [("google/*",
    { name := "GeminiLLM", make := fun settings options => do
        return (← Gemini.connect settings options).map ofGemini })]

/-- Registers a maker for a model of a provider. -/
def registerModel (r : ModelRegistry μ) (provider name : Text) (maker : ModelMaker μ)
    (overwrite : Bool := false) : Except CatalogError (ModelRegistry μ) :=
  r.register (modelKey provider name) maker overwrite

/-- The key of the model to create: the given one, or that of the settings if none or the empty one
is given. -/
def chosenKey (key : Option Text) (settings : Settings) : Text :=
  Text.trim <| match key with
    | some key@(_ :: _) => key
    | _ => settings.models.defaultModel

/-- Options that name the model. -/
def named (options : Members) (model : Text) : Members :=
  if options.has "model_name" then options else options.set "model_name" (.text model)

/-- Creates a model, and gives the registry after that. -/
def create (r : ModelRegistry μ) (key : Option Text) (settings : Settings) (options : Members) :
    Logged (Except CreationError μ × ModelRegistry μ) :=
  let key := chosenKey key settings
  match Text.splitAtFirst? '/' key with
  | none => return (.error .noProvider, r)
  | some (_, model) =>
    match r.get key with
    | (.error e, r) => return (.error (.lookUp e), r)
    | (.ok maker, r) => do
      report .debug .models ("Creating LLM " ++ key ++ " via " ++ maker.name)
      return ((← maker.make settings (named options model)).mapError .raised, r)

end ModelRegistry

end AgentPanel
