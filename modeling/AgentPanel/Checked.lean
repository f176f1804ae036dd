/-!
# Checking with a count of faults

A check of a structured value goes through all of its parts, and a failed one says how many faults
it found. Checks are combined with `<*>`: the faults of the parts add up.
-/

namespace AgentPanel

/-- What a check gives: the checked value, or the number of faults. -/
inductive Checked (α : Type) where
  | valid (a : α)
  | faulty (faults : Nat)
  deriving DecidableEq, Repr

namespace Checked

variable {α β : Type}

/-- Applies a function to a valid value. -/
def map (f : α → β) : Checked α → Checked β
  | valid a => valid (f a)
  | faulty n => faulty n

/-- Both parts are checked, and the faults of both count. -/
def both (f : Checked (α → β)) (x : Unit → Checked α) : Checked β :=
  match f, x () with
  | valid f, valid a => valid (f a)
  | faulty m, faulty n => faulty (m + n)
  | faulty m, valid _ => faulty m
  | valid _, faulty n => faulty n

instance : Applicative Checked where
  map := map
  pure := valid
  seq := both

@[simp] theorem map_valid (f : α → β) (a : α) : f <$> (valid a) = valid (f a) := rfl

@[simp] theorem valid_seq_valid (f : α → β) (a : α) : valid f <*> valid a = valid (f a) := rfl

theorem map_eq_valid_iff {f : α → β} {x : Checked α} {b : β} :
    f <$> x = valid b ↔ ∃ a, x = valid a ∧ f a = b := by
  cases x with
  | valid a => simp
  | faulty n =>
    constructor
    · intro h
      cases h
    · rintro ⟨a, h, -⟩
      cases h

/-- Both parts of a valid combination are valid. -/
theorem seq_eq_valid_iff {f : Checked (α → β)} {x : Checked α} {b : β} :
    f <*> x = valid b ↔ ∃ g a, f = valid g ∧ x = valid a ∧ g a = b := by
  cases f with
  | valid g =>
    cases x with
    | valid a => simp
    | faulty n =>
      constructor
      · intro h
        cases h
      · rintro ⟨g, a, -, h, -⟩
        cases h
  | faulty m =>
    constructor
    · intro h
      cases x <;> cases h
    · rintro ⟨g, a, h, -⟩
      cases h

/-- The number of faults. -/
def faults : Checked α → Nat
  | valid _ => 0
  | faulty n => n

/-- The value, if there is no fault. -/
def value? : Checked α → Option α
  | valid a => some a
  | faulty _ => none

/-- A single fault unless there is a value. -/
def ofOption : Option α → Checked α
  | some a => valid a
  | none => faulty 1

end Checked

end AgentPanel
