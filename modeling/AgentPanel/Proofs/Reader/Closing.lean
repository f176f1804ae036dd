import AgentPanel.Proofs.Reader.Unfinished

/-!
# Closing what is open

A state of the reader says what its text comes to when everything that is open is closed where it
stands: `State.cut?`. The punctuation that closes a state leads the reader there
(`ending?_closing`), so `decodeWithin?_repair` says what a repaired text comes to, valid or not,
with no repair on the other side of the equation.
-/

namespace AgentPanel.Json.Reader

open Reply (Bracket IsPlain Quote Unfinished unfinished missing repair)

variable {limit : Nat}

/-! ## The value of a cut -/

/-- The container with one more value in it. -/
def Frame.close : Frame → Value → Value
  | array items, v => .array (v :: items).reverse
  | object members key, v => .object (members.set key v)

/-- The value with the given containers around it, the innermost first. -/
def wrap (frames : List Frame) (v : Value) : Value := frames.foldl (fun v f => f.close v) v

/-- The text of a string that is closed where it stands. -/
def StringState.cut? (s : StringState) : Option Text :=
  match s.escape with
  | .none => some s.done.reverse
  | .started => some (CodePoint.scalar '\\' :: s.done).reverse
  | .hex _ _ => none

/-- The value of a phase that is closed where it stands. -/
def Phase.cut? : Phase → Option Value
  | firstItem => some (.array [])
  | firstKey => some (.object [])
  | inString s => .text <$> s.cut?
  | inNumber literal stage => if stage.isComplete then numberValue? literal.reverse else none
  | after v => some v
  | _ => none

/-- The value of a state in which everything is closed where it stands. -/
def State.cut? (σ : State) : Option Value := wrap σ.frames <$> σ.phase.cut?

/-! ## Reading to the end -/

/-- What a text comes to that begins in a state. -/
def ending? (limit : Nat) (σ : State) (t : Text) : Option Value :=
  (run limit σ t).bind State.finish?

theorem ending?_cons (σ : State) (c : CodePoint) (t : Text) :
    ending? limit σ (c :: t) = (step limit σ c).bind fun σ' => ending? limit σ' t := by
  rw [ending?, run_cons, Option.bind_assoc]
  rfl

theorem ending?_append (σ : State) (s t : Text) :
    ending? limit σ (s ++ t) = (run limit σ s).bind fun σ' => ending? limit σ' t := by
  rw [ending?, run_append, Option.bind_assoc]
  rfl

/-- What closes the containers. -/
def closers (frames : List Frame) : Text := frames.map fun f => f.bracket.closer

theorem closing_unfinished (σ : State) :
    σ.unfinished.closing =
      Unfinished.closeString σ.phase.quote ++ (σ.phase.brackets.map Bracket.closer ++
        closers σ.frames) := by
  simp [Unfinished.closing, State.unfinished, closers, Function.comp_def]

theorem ending?_after (frames : List Frame) (v : Value) :
    ending? limit ⟨frames, .after v⟩ (closers frames) = some (wrap frames v) := by
  induction frames generalizing v with
  | nil => rfl
  | cons f outer ih => cases f <;> exact ih _

theorem closer_mem_marks (b : Bracket) : b.closer ∈ Reply.marks := by cases b <;> decide

/-- Before a closing bracket a complete number is as good as its value. -/
theorem step_inNumber_closer (f : Frame) (outer : List Frame) (literal : Text)
    (stage : NumberStage) :
    step limit ⟨f :: outer, .inNumber literal stage⟩ f.bracket.closer =
      if stage.isComplete then
        (numberValue? literal.reverse).bind fun v =>
          step limit ⟨f :: outer, .after v⟩ f.bracket.closer
      else none := by
  have hnext : stage.next? f.bracket.closer = none :=
    Option.eq_none_iff_forall_ne_some.mpr fun _ h =>
      Reply.isPlain_of_next? h (closer_mem_marks _)
  have hsign : ¬(stage = .sign ∧ f.bracket.closer = 'I') := by
    rintro ⟨-, hletter⟩
    exact absurd (hletter ▸ closer_mem_marks f.bracket) (by decide)
  simp only [step, hnext, if_neg hsign]

theorem step_inWord_closer (f : Frame) (outer : List Frame) (rest : Text) (v : Value)
    (plain : ∀ c ∈ rest, IsPlain c) :
    step limit ⟨f :: outer, .inWord rest v⟩ f.bracket.closer = none := by
  refine Option.eq_none_iff_forall_ne_some.mpr fun σ h => ?_
  generalize hc : f.bracket.closer = c at h
  have hmark : c ∈ Reply.marks := hc ▸ closer_mem_marks f.bracket
  cases move_of_step h with
  | blank space loose => cases loose
  | letter => exact plain c (by simp) hmark
  | lastLetter => exact plain c (by simp) hmark

/-- The punctuation that closes a state leads to the value of the cut. -/
theorem ending?_closing (σ : State) (plain : σ.PlainWord) :
    ending? limit σ σ.unfinished.closing = σ.cut? := by
  rw [closing_unfinished]
  obtain ⟨frames, phase⟩ := σ
  -- no closing bracket may stand where a value, a key or a colon has to
  cases phase with
  | value =>
    cases frames with
    | nil => rfl
    | cons f outer => cases f <;> rfl
  | firstItem => exact ending?_after frames _
  | firstKey => exact ending?_after frames _
  | nextKey members => rfl
  | inKey members s =>
    obtain ⟨done, halfPair, escape⟩ := s
    cases escape <;> rfl
  | colon members key => rfl
  | inString s =>
    obtain ⟨done, halfPair, escape⟩ := s
    cases escape with
    | none => exact ending?_after frames _
    | started => exact ending?_after frames _
    | hex count value => rfl
  | inNumber literal stage =>
    cases frames with
    | nil =>
      show (if stage.isComplete then numberValue? literal.reverse else none) = _
      simp only [State.cut?, Phase.cut?]
      cases (if stage.isComplete then numberValue? literal.reverse else none) <;> rfl
    | cons f outer =>
      show ending? limit _ (f.bracket.closer :: closers outer) = _
      rw [ending?_cons, step_inNumber_closer]
      simp only [State.cut?, Phase.cut?]
      split
      · cases numberValue? literal.reverse with
        | none => rfl
        | some v =>
          show (step limit ⟨f :: outer, .after v⟩ f.bracket.closer).bind _ = _
          rw [← ending?_cons]
          exact ending?_after (f :: outer) v
      · rfl
  | inWord rest v =>
    cases frames with
    | nil => rfl
    | cons f outer =>
      show ending? limit _ (f.bracket.closer :: closers outer) = _
      rw [ending?_cons, step_inWord_closer f outer rest v (plain rest v rfl)]
      rfl
  | after v => exact ending?_after frames v

/-- What a repaired text comes to. -/
theorem decodeWithin?_repair (t : Text) :
    decodeWithin? limit (repair t) = (run limit .start t).bind State.cut? := by
  have hending : decodeWithin? limit (repair t) = ending? limit .start (t ++ missing t) := rfl
  rw [hending, ending?_append]
  cases h : run limit .start t with
  | none => rfl
  | some σ =>
    have hmissing : missing t = σ.unfinished.closing := by rw [missing, unfinished_of_run h]
    rw [hmissing]
    exact ending?_closing σ (plainWord_of_run h)

end AgentPanel.Json.Reader
