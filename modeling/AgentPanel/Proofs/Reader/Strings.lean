import AgentPanel.Json.Document
import AgentPanel.Json.Reader

/-!
# Strings and their spelling

The reader keeps the code points of a string, a document keeps how they are spelled. `ofAtoms` is
the state of the reader after a row of atoms; what it holds are the code points that the atoms spell
(`reverse_done_ofAtoms`). The reader joins two escapes when it meets the second one, `Atom.points`
when it meets the first, which is why that needs an argument.

`Spelled` relates a state to the text that has been read of the string, an escape under way
included.
-/

namespace AgentPanel.Json

/-! ## Pairs of atoms -/

theorem Atom.points_cons_cons {a b : Atom} (h : isPair a b = false) (rest : List Atom) :
    points (a :: b :: rest) = a.point :: points (b :: rest) := by
  rw [points, h]
  rfl

theorem Atom.points_cons {a : Atom} (h : ∀ b, isPair a b = false) (rest : List Atom) :
    points (a :: rest) = a.point :: points rest := by
  cases rest with
  | nil => rfl
  | cons b rest => exact points_cons_cons (h b) rest

theorem Atom.isPair_long {digits : Text} (h : (point (long digits)).isHighSurrogate = false)
    (b : Atom) : isPair (long digits) b = false := by
  cases b <;> simp [isPair, h]

namespace Reader.StringState

/-! ## The state after a row of atoms -/

theorem pushNumbered_of_halfPair {high c : CodePoint} {done : Text} {escape : Escape}
    (h : c.isLowSurrogate) :
    pushNumbered ⟨high :: done, true, escape⟩ c =
      ⟨.joinSurrogates high c :: done, false, .none⟩ := by
  simp [pushNumbered, h]

theorem pushNumbered_of_not_low {s : StringState} {c : CodePoint} (h : c.isLowSurrogate = false) :
    s.pushNumbered c = ⟨c :: s.done, c.isHighSurrogate, .none⟩ := by
  unfold pushNumbered
  split
  · next done _ hdone => rw [h, hdone]; rfl
  · rfl

theorem pushNumbered_of_whole {done : Text} {escape : Escape} (c : CodePoint) :
    pushNumbered ⟨done, false, escape⟩ c = ⟨c :: done, c.isHighSurrogate, .none⟩ := rfl

/-- One more atom. -/
def add (s : StringState) : Atom → StringState
  | .plain c => s.push c
  | .short letter => s.push (Atom.point (.short letter))
  | .long digits => s.pushNumbered (Atom.point (.long digits))

/-- The state after a row of atoms. -/
def ofAtoms (atoms : List Atom) : StringState := atoms.foldl add start

theorem ofAtoms_concat (atoms : List Atom) (a : Atom) :
    ofAtoms (atoms ++ [a]) = (ofAtoms atoms).add a := by
  simp [ofAtoms]

/-- A state that does not wait for the second half of a pair adds what the atoms spell. After the
first half of a pair it adds what the atoms spell together with that half. -/
theorem done_foldl_add (atoms : List Atom) :
    (∀ done escape, (atoms.foldl add ⟨done, false, escape⟩).done =
      (Atom.points atoms).reverse ++ done) ∧
    ∀ digits done escape, (Atom.point (.long digits)).isHighSurrogate →
      (atoms.foldl add ⟨Atom.point (.long digits) :: done, true, escape⟩).done =
        (Atom.points (.long digits :: atoms)).reverse ++ done := by
  induction atoms with
  | nil => simp [Atom.points]
  | cons a atoms ih =>
    obtain ⟨ihWhole, ihHalf⟩ := ih
    -- a long atom that stands alone, whatever came before it
    have hlong : ∀ digits done,
        (atoms.foldl add ⟨Atom.point (.long digits) :: done,
          (Atom.point (.long digits)).isHighSurrogate, .none⟩).done =
            (Atom.points (.long digits :: atoms)).reverse ++ done := by
      intro digits done
      cases hhigh : (Atom.point (.long digits)).isHighSurrogate with
      | true => exact ihHalf digits done .none hhigh
      | false =>
        rw [ihWhole, Atom.points_cons (Atom.isPair_long hhigh)]
        simp
    constructor
    · intro done escape
      rw [List.foldl_cons]
      cases a with
      | long digits =>
        rw [add, pushNumbered_of_whole]
        exact hlong digits done
      | _ =>
        rw [add, push, ihWhole, Atom.points_cons fun _ => rfl]
        simp [Atom.point]
    · intro digits done escape hhigh
      rw [List.foldl_cons]
      cases a with
      | long low =>
        rw [add]
        cases hlow : (Atom.point (.long low)).isLowSurrogate with
        | true =>
          have hpair : Atom.isPair (.long digits) (.long low) := by simp [Atom.isPair, hhigh, hlow]
          rw [pushNumbered_of_halfPair hlow, ihWhole, Atom.points, if_pos hpair]
          simp
        | false =>
          have hpair : Atom.isPair (.long digits) (.long low) = false := by
            simp [Atom.isPair, hlow]
          rw [pushNumbered_of_not_low hlow, hlong, Atom.points_cons_cons hpair]
          simp
      | _ =>
        rw [add, push, ihWhole, Atom.points_cons_cons rfl, Atom.points_cons fun _ => rfl]
        simp [Atom.point]

theorem reverse_done_ofAtoms (atoms : List Atom) :
    (ofAtoms atoms).done.reverse = Atom.points atoms := by
  rw [ofAtoms, start, (done_foldl_add atoms).1]
  simp

theorem escape_foldl_add (atoms : List Atom) {s : StringState} (h : s.escape = .none) :
    (atoms.foldl add s).escape = .none := by
  induction atoms generalizing s with
  | nil => exact h
  | cons a atoms ih =>
    apply ih
    cases a <;> simp [add]

@[simp] theorem escape_ofAtoms (atoms : List Atom) : (ofAtoms atoms).escape = .none :=
  escape_foldl_add atoms rfl

end Reader.StringState

/-! ## The text of a state -/

/-- The text of an escape under way. -/
inductive Reader.Escape.Spelled : Escape → Text → Prop
  | none : Spelled .none []
  | started : Spelled .started [CodePoint.scalar '\\']
  | hex {digits : Text} (short : digits.length < 4)
      (hexadecimal : ∀ c ∈ digits, c.hexDigit?.isSome) :
      Spelled (.hex digits.length (Atom.hexValue digits))
        (CodePoint.scalar '\\' :: CodePoint.scalar 'u' :: digits)

namespace Reader.StringState

/-- The text is what has been read of the string after its opening quote. -/
def Spelled (s : StringState) (t : Text) : Prop :=
  ∃ (atoms : List Atom) (rest : Text), (∀ a ∈ atoms, a.Proper) ∧
    s.done = (ofAtoms atoms).done ∧ s.halfPair = (ofAtoms atoms).halfPair ∧
    s.escape.Spelled rest ∧ t = atoms.flatMap Atom.text ++ rest

theorem spelled_start : start.Spelled [] :=
  ⟨[], [], by simp, rfl, rfl, .none, rfl⟩

theorem spelled_of_atoms {atoms : List Atom} (proper : ∀ a ∈ atoms, a.Proper) :
    (ofAtoms atoms).Spelled (atoms.flatMap Atom.text) := by
  refine ⟨atoms, [], proper, rfl, rfl, ?_, (List.append_nil _).symm⟩
  rw [escape_ofAtoms]
  exact .none

end Reader.StringState

theorem Atom.hexValue_concat (digits : Text) (c : CodePoint) :
    hexValue (digits ++ [c]) = 16 * hexValue digits + c.hexDigit?.getD 0 := by
  simp [hexValue]

namespace Reader.StringState

/-- A completed atom joins the ones before it. -/
theorem spelled_concat {atoms : List Atom} {a : Atom} {t : Text} (proper : ∀ a ∈ atoms, a.Proper)
    (hproper : a.Proper) (ht : t = atoms.flatMap Atom.text ++ a.text) :
    ((ofAtoms atoms).add a).Spelled t := by
  have hall : ∀ b ∈ atoms ++ [a], b.Proper := by
    intro b hb
    rcases List.mem_append.mp hb with hb | hb
    · exact proper b hb
    · rwa [List.mem_singleton.mp hb]
  have := spelled_of_atoms hall
  rwa [ofAtoms_concat, List.flatMap_append, List.flatMap_singleton, ← ht] at this

theorem spelled_of_goesOn {s s' : StringState} {c : CodePoint} {t : Text}
    (hs : s.Spelled t) (h : s.step c = .goesOn s') : s'.Spelled (t ++ [c]) := by
  obtain ⟨done, halfPair, escape⟩ := s
  obtain ⟨atoms, rest, proper, rfl, rfl, hrest, rfl⟩ := hs
  cases hrest with
  | none =>
    simp only [step] at h
    split at h
    · cases h
    split at h
    · subst c
      cases h
      exact ⟨atoms, _, proper, rfl, rfl, .started, by simp⟩
    split at h
    · cases h
    · next hquote hslash hcontrol =>
      cases h
      have hatom : Atom.Proper (.plain c) := ⟨hquote, hslash, Nat.le_of_not_lt hcontrol⟩
      exact spelled_concat proper hatom (by simp [Atom.text])
  | started =>
    simp only [step] at h
    split at h
    · subst c
      cases h
      exact ⟨atoms, _, proper, rfl, rfl, @Escape.Spelled.hex [] (by simp) (by simp), by simp⟩
    split at h
    · next written hletter =>
      cases h
      have hatom : Atom.Proper (.short c) := by simp [Atom.Proper, hletter]
      have hpoint : written = Atom.point (.short c) := by simp [Atom.point, hletter]
      rw [hpoint]
      exact spelled_concat proper hatom (by simp [Atom.text])
    · cases h
  | @hex digits short hexadecimal =>
    simp only [step] at h
    split at h
    · cases h
    next digit hdigit =>
    have hall : ∀ d ∈ digits ++ [c], d.hexDigit?.isSome := by
      intro d hd
      rcases List.mem_append.mp hd with hd | hd
      · exact hexadecimal d hd
      · rw [List.mem_singleton.mp hd, hdigit]; rfl
    have hvalue : 16 * Atom.hexValue digits + digit = Atom.hexValue (digits ++ [c]) := by
      rw [Atom.hexValue_concat, hdigit]
      rfl
    split at h
    · next hcount =>
      cases h
      have hatom : Atom.Proper (.long (digits ++ [c])) := ⟨by simp [hcount], hall⟩
      rw [hvalue]
      exact spelled_concat proper hatom (by simp [Atom.text])
    · next hcount =>
      cases h
      refine ⟨atoms, '\\' :: 'u' :: (digits ++ [c]), proper, rfl, rfl, ?_, by simp⟩
      have hlength : (digits ++ [c]).length = digits.length + 1 := by simp
      rw [hvalue, ← hlength]
      exact .hex (by omega) hall

theorem spelled_of_ends {s : StringState} {c : CodePoint} {t written : Text}
    (hs : s.Spelled t) (h : s.step c = .ends written) :
    ∃ atoms : List Atom, (∀ a ∈ atoms, a.Proper) ∧ written = Atom.points atoms ∧
      CodePoint.scalar '"' :: t ++ [c] = Atom.quotedText atoms := by
  obtain ⟨done, halfPair, escape⟩ := s
  obtain ⟨atoms, rest, proper, rfl, rfl, hrest, rfl⟩ := hs
  cases hrest with
  | none =>
    simp only [step] at h
    split at h
    · subst c
      cases h
      exact ⟨atoms, proper, reverse_done_ofAtoms atoms, by simp [Atom.quotedText]⟩
    split at h
    · cases h
    split at h <;> cases h
  | started =>
    simp only [step] at h
    split at h
    · cases h
    split at h <;> cases h
  | hex =>
    simp only [step] at h
    split at h
    · cases h
    split at h <;> cases h

end Reader.StringState

end AgentPanel.Json
