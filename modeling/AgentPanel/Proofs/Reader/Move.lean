import AgentPanel.Json.Document
import AgentPanel.Json.Reader

/-!
# The moves of the reader

Everything that one code point can do to the reader, as a relation with one constructor per move.
`Begins` is how a value begins, `Follows` what may come after a complete one, and `Move` is all of
it. Invariants of the reader are proved by cases on a move (`move_of_step`); no later proof opens
`step`.
-/

namespace AgentPanel.Json.Reader

variable {limit : Nat}

/-! ## The relation -/

/-- How a value begins inside the given containers. -/
inductive Begins (limit : Nat) (frames : List Frame) : CodePoint → State → Prop
  | string : Begins limit frames '"' ⟨frames, .inString .start⟩
  | array (room : frames.length < limit) : Begins limit frames '[' ⟨frames, .firstItem⟩
  | object (room : frames.length < limit) : Begins limit frames '\x7b' ⟨frames, .firstKey⟩
  | number {c : CodePoint} {stage : NumberStage} (first : NumberStage.first? c = some stage) :
      Begins limit frames c ⟨frames, .inNumber [c] stage⟩
  | word {c : CodePoint} {rest : Text} (w : Word) (spelled : w.text = c :: rest) :
      Begins limit frames c ⟨frames, .inWord rest w.value⟩

/-- What may follow a complete value inside the given containers. -/
inductive Follows (v : Value) : List Frame → CodePoint → State → Prop
  | blank {frames : List Frame} {c : CodePoint} (space : isSpace c) :
      Follows v frames c ⟨frames, .after v⟩
  | nextItem {items : List Value} {outer : List Frame} :
      Follows v (.array items :: outer) ',' ⟨.array (v :: items) :: outer, .value⟩
  | endArray {items : List Value} {outer : List Frame} :
      Follows v (.array items :: outer) ']' ⟨outer, .after (.array (v :: items).reverse)⟩
  | nextMember {members : Members} {key : Text} {outer : List Frame} :
      Follows v (.object members key :: outer) ',' ⟨outer, .nextKey (members.set key v)⟩
  | endObject {members : Members} {key : Text} {outer : List Frame} :
      Follows v (.object members key :: outer) '\x7d' ⟨outer, .after (.object (members.set key v))⟩

/-- Blanks may stand here without an effect. -/
def Phase.isLoose : Phase → Bool
  | .value | .firstItem | .firstKey | .nextKey _ | .colon _ _ => true
  | _ => false

/-- What one code point does to the reader. -/
inductive Move (limit : Nat) : State → CodePoint → State → Prop
  | blank {frames : List Frame} {phase : Phase} {c : CodePoint} (space : isSpace c)
      (loose : phase.isLoose) : Move limit ⟨frames, phase⟩ c ⟨frames, phase⟩
  | value {frames : List Frame} {c : CodePoint} {σ : State} (begins : Begins limit frames c σ) :
      Move limit ⟨frames, .value⟩ c σ
  | firstItem {frames : List Frame} {c : CodePoint} {σ : State}
      (begins : Begins limit (.array [] :: frames) c σ) : Move limit ⟨frames, .firstItem⟩ c σ
  | noItem {frames : List Frame} :
      Move limit ⟨frames, .firstItem⟩ ']' ⟨frames, .after (.array [])⟩
  | firstKey {frames : List Frame} :
      Move limit ⟨frames, .firstKey⟩ '"' ⟨frames, .inKey [] .start⟩
  | noMember {frames : List Frame} :
      Move limit ⟨frames, .firstKey⟩ '\x7d' ⟨frames, .after (.object [])⟩
  | nextKey {frames : List Frame} {members : Members} :
      Move limit ⟨frames, .nextKey members⟩ '"' ⟨frames, .inKey members .start⟩
  | keyGoesOn {frames : List Frame} {members : Members} {s s' : StringState} {c : CodePoint}
      (goesOn : s.step c = .goesOn s') :
      Move limit ⟨frames, .inKey members s⟩ c ⟨frames, .inKey members s'⟩
  | keyEnds {frames : List Frame} {members : Members} {s : StringState} {c : CodePoint} {key : Text}
      (ends : s.step c = .ends key) :
      Move limit ⟨frames, .inKey members s⟩ c ⟨frames, .colon members key⟩
  | colon {frames : List Frame} {members : Members} {key : Text} :
      Move limit ⟨frames, .colon members key⟩ ':' ⟨.object members key :: frames, .value⟩
  | stringGoesOn {frames : List Frame} {s s' : StringState} {c : CodePoint}
      (goesOn : s.step c = .goesOn s') :
      Move limit ⟨frames, .inString s⟩ c ⟨frames, .inString s'⟩
  | stringEnds {frames : List Frame} {s : StringState} {c : CodePoint} {t : Text}
      (ends : s.step c = .ends t) : Move limit ⟨frames, .inString s⟩ c ⟨frames, .after (.text t)⟩
  | digit {frames : List Frame} {literal : Text} {stage stage' : NumberStage} {c : CodePoint}
      (next : stage.next? c = some stage') :
      Move limit ⟨frames, .inNumber literal stage⟩ c ⟨frames, .inNumber (c :: literal) stage'⟩
  | numberEnds {frames : List Frame} {literal : Text} {stage : NumberStage} {c : CodePoint}
      {v : Value} {σ : State} (complete : stage.isComplete)
      (value : numberValue? literal.reverse = some v) (follows : Follows v frames c σ) :
      Move limit ⟨frames, .inNumber literal stage⟩ c σ
  | minusInfinity {frames : List Frame} {literal : Text} :
      Move limit ⟨frames, .inNumber literal .sign⟩ 'I'
        ⟨frames, .inWord "nfinity" (.float (.infinity true))⟩
  | letter {frames : List Frame} {c next : CodePoint} {rest : Text} {v : Value} :
      Move limit ⟨frames, .inWord (c :: next :: rest) v⟩ c ⟨frames, .inWord (next :: rest) v⟩
  | lastLetter {frames : List Frame} {c : CodePoint} {v : Value} :
      Move limit ⟨frames, .inWord [c] v⟩ c ⟨frames, .after v⟩
  | after {frames : List Frame} {v : Value} {c : CodePoint} {σ : State}
      (follows : Follows v frames c σ) : Move limit ⟨frames, .after v⟩ c σ

/-! ## Every step is a move -/

theorem begins_of_beginValue {frames : List Frame} {c : CodePoint} {σ : State}
    (h : beginValue limit frames c = some σ) : Begins limit frames c σ := by
  unfold beginValue at h
  split at h
  · subst c; cases h; exact .string
  split at h
  · split at h
    · next room => subst c; cases h; exact .array room
    · cases h
  split at h
  · split at h
    · next room => subst c; cases h; exact .object room
    · cases h
  split at h
  · next stage first => cases h; exact .number first
  unfold beginWord at h
  split at h
  · subst c; cases h; exact .word .true rfl
  split at h
  · subst c; cases h; exact .word .false rfl
  split at h
  · subst c; cases h; exact .word .null rfl
  split at h
  · subst c; cases h; exact .word .nan rfl
  split at h
  · subst c; cases h; exact .word .infinity rfl
  · cases h

theorem follows_of_afterValue {frames : List Frame} {v : Value} {c : CodePoint} {σ : State}
    (h : afterValue frames v c = some σ) : Follows v frames c σ := by
  unfold afterValue at h
  split at h
  · next space => cases h; exact .blank space
  split at h
  · cases h
  · split at h
    · subst c; cases h; exact .nextItem
    split at h
    · subst c; cases h; exact .endArray
    · cases h
  · split at h
    · subst c; cases h; exact .nextMember
    split at h
    · subst c; cases h; exact .endObject
    · cases h

theorem move_of_step {σ σ' : State} {c : CodePoint} (h : step limit σ c = some σ') :
    Move limit σ c σ' := by
  obtain ⟨frames, phase⟩ := σ
  cases phase with
  | value =>
    simp only [step] at h
    split at h
    · next space => cases h; exact .blank space rfl
    · exact .value (begins_of_beginValue h)
  | firstItem =>
    simp only [step] at h
    split at h
    · next space => cases h; exact .blank space rfl
    split at h
    · subst c; cases h; exact .noItem
    · exact .firstItem (begins_of_beginValue h)
  | firstKey =>
    simp only [step] at h
    split at h
    · next space => cases h; exact .blank space rfl
    split at h
    · subst c; cases h; exact .noMember
    split at h
    · subst c; cases h; exact .firstKey
    · cases h
  | nextKey members =>
    simp only [step] at h
    split at h
    · next space => cases h; exact .blank space rfl
    split at h
    · subst c; cases h; exact .nextKey
    · cases h
  | inKey members s =>
    simp only [step] at h
    split at h
    · next goesOn => cases h; exact .keyGoesOn goesOn
    · next ends => cases h; exact .keyEnds ends
    · cases h
  | colon members key =>
    simp only [step] at h
    split at h
    · next space => cases h; exact .blank space rfl
    split at h
    · subst c; cases h; exact .colon
    · cases h
  | inString s =>
    simp only [step] at h
    split at h
    · next goesOn => cases h; exact .stringGoesOn goesOn
    · next ends => cases h; exact .stringEnds ends
    · cases h
  | inNumber literal stage =>
    simp only [step] at h
    split at h
    · next next => cases h; exact .digit next
    -- the code point is not part of the literal: it follows the value, if the literal is complete
    split at h
    · next complete =>
      obtain ⟨v, value, follows⟩ := Option.bind_eq_some_iff.mp h
      exact .numberEnds complete value (follows_of_afterValue follows)
    split at h
    · next sign =>
      obtain ⟨rfl, rfl⟩ := sign
      cases h
      exact .minusInfinity
    · cases h
  | inWord rest v =>
    simp only [step] at h
    split at h
    · cases h
    · split at h
      · subst c; cases h; exact .lastLetter
      · cases h
    · next first rest hne =>
      split at h
      · subst c
        cases h
        cases rest with
        | nil => exact absurd rfl hne
        | cons next rest => exact .letter
      · cases h
  | after v => exact .after (follows_of_afterValue h)

/-! ## Opening a container -/

theorem eq_of_step_square {frames : List Frame} {σ : State}
    (h : step limit ⟨frames, .value⟩ '[' = some σ) : σ = ⟨frames, .firstItem⟩ := by
  have hstep : step limit ⟨frames, .value⟩ '[' =
      if frames.length < limit then some ⟨frames, .firstItem⟩ else none := rfl
  rw [hstep] at h
  split at h
  · cases h; rfl
  · cases h

theorem eq_of_step_curly {frames : List Frame} {σ : State}
    (h : step limit ⟨frames, .value⟩ '\x7b' = some σ) : σ = ⟨frames, .firstKey⟩ := by
  have hstep : step limit ⟨frames, .value⟩ '\x7b' =
      if frames.length < limit then some ⟨frames, .firstKey⟩ else none := rfl
  rw [hstep] at h
  split at h
  · cases h; rfl
  · cases h

/-! ## Runs -/

@[simp] theorem run_nil (σ : State) : run limit σ [] = some σ := rfl

theorem run_cons (σ : State) (c : CodePoint) (t : Text) :
    run limit σ (c :: t) = (step limit σ c).bind fun σ' => run limit σ' t := rfl

theorem run_append (σ : State) (s t : Text) :
    run limit σ (s ++ t) = (run limit σ s).bind fun σ' => run limit σ' t :=
  List.foldlM_append

/-- A relation between the text that has been read and the state holds after a run if it holds
before and every move keeps it. -/
theorem run_induction {motive : Text → State → Prop} {σ σ' : State} {s t : Text}
    (h : run limit σ t = some σ') (before : motive s σ)
    (move : ∀ s σ c σ', motive s σ → Move limit σ c σ' → motive (s ++ [c]) σ') :
    motive (s ++ t) σ' := by
  induction t generalizing s σ with
  | nil =>
    cases h
    rwa [List.append_nil]
  | cons c t ih =>
    obtain ⟨σ₁, hstep, hrun⟩ := Option.bind_eq_some_iff.mp (run_cons σ c t ▸ h)
    have := ih hrun (move s σ c σ₁ before (move_of_step hstep))
    rwa [List.append_assoc] at this

end AgentPanel.Json.Reader
