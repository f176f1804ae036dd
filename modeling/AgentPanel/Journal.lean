import AgentPanel.Text.Basic

/-!
# The journal

What the panel reports while it works. An operation that reports has the type `Logged α`: its value,
and the events in the order in which they happened. The events never decide a value: `value_bind`
says that the value of a sequence is the sequence of the values.
-/

namespace AgentPanel

/-- How much an event matters. -/
inductive Level where
  | debug
  | info
  | warning
  | error
  deriving DecidableEq, Repr

namespace Level

/-- The name of a level, as log lines begin. -/
def name : Level → String
  | debug => "DEBUG"
  | info => "INFO"
  | warning => "WARNING"
  | error => "ERROR"

/-- Levels by weight, the scale on which a threshold is set. -/
def weight : Level → Nat
  | debug => 10
  | info => 20
  | warning => 30
  | error => 40

end Level

/-- The part of the panel that an event comes from. -/
inductive Topic where
  | reply
  | rendering
  | components
  | models
  | gemini
  | session
  | conversation
  | settings
  deriving DecidableEq, Repr

/-- Something worth reporting. -/
structure Event where
  level : Level
  topic : Topic
  message : Text
  deriving DecidableEq, Repr

/-- A value and the events on the way to it, the first one first. -/
structure Logged (α : Type) where
  value : α
  events : List Event

namespace Logged

variable {α β : Type}

instance : Monad Logged where
  pure a := ⟨a, []⟩
  bind x f := ⟨(f x.value).value, x.events ++ (f x.value).events⟩

@[simp] theorem value_pure (a : α) : (pure a : Logged α).value = a := rfl

@[simp] theorem events_pure (a : α) : (pure a : Logged α).events = [] := rfl

@[simp] theorem value_bind (x : Logged α) (f : α → Logged β) :
    (x >>= f).value = (f x.value).value := rfl

@[simp] theorem events_bind (x : Logged α) (f : α → Logged β) :
    (x >>= f).events = x.events ++ (f x.value).events := rfl

instance : LawfulMonad Logged := LawfulMonad.mk' Logged
  (fun _ => by simp [Functor.map])
  (fun _ _ => rfl)
  (fun _ _ _ => by simp [bind])

@[simp] theorem value_map (f : α → β) (x : Logged α) : (f <$> x).value = f x.value := rfl

theorem value_mapM (f : α → Logged β) (xs : List α) :
    (xs.mapM f).value = xs.map fun x => (f x).value := by
  induction xs with
  | nil => rfl
  | cons x xs ih =>
    rw [List.mapM_cons, List.map_cons, ← ih]
    rfl

end Logged

/-- Reports one event. -/
def report (level : Level) (topic : Topic) (message : Text) : Logged Unit :=
  ⟨(), [⟨level, topic, message⟩]⟩

@[simp] theorem value_report (level : Level) (topic : Topic) (message : Text) :
    (report level topic message).value = () := rfl

end AgentPanel
