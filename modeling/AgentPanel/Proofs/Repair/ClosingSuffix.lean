import AgentPanel.Proofs.Reader.Closing

/-!
# The only closing suffix

A closing suffix is an optional backslash, an optional quote and any closing brackets. If some
closing suffix makes a text strict JSON, it is the one that repair appends
(`repair_eq_append_of_isClosing`).

Outside strings the reader takes the closer of its innermost container and no other one, so the
brackets of the suffix are spelled by the stack. What comes before them is settled by the scan for
quotes alone.
-/

namespace AgentPanel.Reply

/-! ## Closing suffixes -/

/-- Nothing or a single code point. -/
def IsOptional (c : CodePoint) (t : Text) : Prop := t = [] ∨ t = [c]

/-- Closing brackets only. -/
def IsClosers (t : Text) : Prop := ∀ c ∈ t, c = '\x7d' ∨ c = ']'

/-- An optional backslash, an optional quote and any closing brackets. -/
def IsClosing (s : Text) : Prop :=
  ∃ slash quote closers : Text,
    IsOptional '\\' slash ∧ IsOptional '"' quote ∧ IsClosers closers ∧ s = slash ++ quote ++ closers

/-! ## The part before the brackets -/

theorem IsClosers.exists_head {c : CodePoint} {t : Text} (h : IsClosers (c :: t)) :
    ∃ b : Bracket, c = b.closer := by
  rcases h c (List.mem_cons_self ..) with rfl | rfl
  · exact ⟨.curly, rfl⟩
  · exact ⟨.square, rfl⟩

theorem IsClosers.tail {c : CodePoint} {t : Text} (h : IsClosers (c :: t)) : IsClosers t :=
  fun c hc => h c (List.mem_cons_of_mem _ hc)

theorem IsClosers.foldl_next_inside {t : Text} (h : IsClosers t) :
    t.foldl Quote.next .inside = .inside := by
  induction t with
  | nil => rfl
  | cons c t ih =>
    have hstays : Quote.inside.next c = .inside := by
      obtain ⟨b, rfl⟩ := h.exists_head
      cases b <;> rfl
    rw [List.foldl_cons, hstays]
    exact ih h.tail

theorem IsClosers.foldl_next_escaping {t : Text} (h : IsClosers t) :
    t.foldl Quote.next .escaping ≠ .outside := by
  cases t with
  | nil => decide
  | cons c t =>
    show t.foldl Quote.next .inside ≠ .outside
    rw [h.tail.foldl_next_inside]
    decide

/-- Only one way to begin a closing suffix leads out of an open string. -/
theorem slash_append_quote_eq {q : Quote} {slash quote closers : Text}
    (hslash : IsOptional '\\' slash) (hquote : IsOptional '"' quote)
    (hclosers : IsClosers closers) (houtside : q = .outside → slash = [])
    (hend : (slash ++ quote ++ closers).foldl Quote.next q = .outside) :
    slash ++ quote = Unfinished.closeString q := by
  have hinside : closers.foldl Quote.next .inside ≠ .outside := by
    rw [hclosers.foldl_next_inside]; decide
  have hescaping := hclosers.foldl_next_escaping
  cases q with
  | outside =>
    rw [houtside rfl] at hend ⊢
    rcases hquote with rfl | rfl
    · rfl
    · exact absurd hend hinside
  | inside =>
    rcases hslash with rfl | rfl <;> rcases hquote with rfl | rfl
    · exact absurd hend hinside
    · rfl
    · exact absurd hend hescaping
    · exact absurd hend hinside
  | escaping =>
    rcases hslash with rfl | rfl <;> rcases hquote with rfl | rfl
    · exact absurd hend hescaping
    · exact absurd hend hinside
    · exact absurd hend hinside
    · rfl

end AgentPanel.Reply

namespace AgentPanel.Json.Reader

open Reply (Bracket IsPlain IsClosers IsClosing Quote Unfinished unfinished missing repair)

variable {limit : Nat}

/-! ## Closing brackets and the reader -/

theorem Begins.isPlain_or {frames : List Frame} {c : CodePoint} {σ : State}
    (h : Begins limit frames c σ) : IsPlain c ∨ c = '"' ∨ (Bracket.opened? c).isSome := by
  cases h with
  | string => exact .inr (.inl rfl)
  | array => exact .inr (.inr rfl)
  | object => exact .inr (.inr rfl)
  | number first => exact .inl (Reply.isPlain_of_first? first)
  | word w spelled => exact .inl (Reply.isPlain_of_mem_word (w := w) (by simp [spelled]))

theorem Follows.isPlain_or {v : Value} {frames : List Frame} {c : CodePoint} {σ : State}
    (h : Follows v frames c σ) :
    IsPlain c ∨ ∃ b : Bracket, c = b.closer ∧
      frames.map Frame.bracket = b :: σ.unfinished.brackets ∧ ∃ w, σ.phase = .after w := by
  cases h with
  | blank space => exact .inl (Reply.isPlain_of_isSpace space)
  | nextItem => exact .inl (by decide)
  | endArray => exact .inr ⟨.square, rfl, rfl, _, rfl⟩
  | nextMember => exact .inl (by decide)
  | endObject => exact .inr ⟨.curly, rfl, rfl, _, rfl⟩

/-- Outside strings the reader takes plain code points, quotes, opening brackets, and the one
closing bracket that fits the innermost open one, which completes a value. -/
theorem Move.isPlain_or {σ σ' : State} {c : CodePoint} (h : Move limit σ c σ')
    (plain : σ.PlainWord) (outside : σ.unfinished.quote = .outside) :
    IsPlain c ∨ c = '"' ∨ (Bracket.opened? c).isSome ∨
      ∃ b : Bracket, c = b.closer ∧ σ.unfinished.brackets = b :: σ'.unfinished.brackets ∧
        ∃ w, σ'.phase = .after w := by
  cases h with
  | blank space loose => exact .inl (Reply.isPlain_of_isSpace space)
  | value begins => exact begins.isPlain_or.imp_right (·.imp_right .inl)
  | firstItem begins => exact begins.isPlain_or.imp_right (·.imp_right .inl)
  | noItem => exact .inr (.inr (.inr ⟨.square, rfl, rfl, _, rfl⟩))
  | firstKey => exact .inr (.inl rfl)
  | noMember => exact .inr (.inr (.inr ⟨.curly, rfl, rfl, _, rfl⟩))
  | nextKey => exact .inr (.inl rfl)
  | keyGoesOn => exact absurd outside (StringState.quote_ne_outside _)
  | keyEnds => exact absurd outside (StringState.quote_ne_outside _)
  | colon => exact .inl (by decide)
  | stringGoesOn => exact absurd outside (StringState.quote_ne_outside _)
  | stringEnds => exact absurd outside (StringState.quote_ne_outside _)
  | digit next => exact .inl (Reply.isPlain_of_next? next)
  | numberEnds complete value follows => exact follows.isPlain_or.imp_right (.inr ∘ .inr)
  | minusInfinity => exact .inl (by decide)
  | letter => exact .inl (plain _ _ rfl _ (by simp))
  | lastLetter => exact .inl (plain _ _ rfl _ (by simp))
  | after follows => exact follows.isPlain_or.imp_right (.inr ∘ .inr)

theorem Move.brackets_of_closer {σ σ' : State} {b : Bracket} (h : Move limit σ b.closer σ')
    (plain : σ.PlainWord) (outside : σ.unfinished.quote = .outside) :
    σ.unfinished.brackets = b :: σ'.unfinished.brackets := by
  rcases h.isPlain_or plain outside with hplain | hquote | hopened | ⟨b', hcloser, hbrackets, -⟩
  · cases b <;> exact absurd hplain (by decide)
  · cases b <;> cases hquote
  · cases b <;> cases hopened
  · have hb : b = b' := by cases b <;> cases b' <;> first | rfl | cases hcloser
    rw [hb, hbrackets]

theorem Move.ne_backslash {σ σ' : State} {c : CodePoint} (h : Move limit σ c σ')
    (plain : σ.PlainWord) (outside : σ.unfinished.quote = .outside) : c ≠ '\\' := by
  rintro rfl
  rcases h.isPlain_or plain outside with hplain | hquote | hopened | ⟨b, hcloser, -⟩
  · exact absurd hplain (by decide)
  · cases hquote
  · cases hopened
  · cases b <;> cases hcloser

/-! ## The suffix of an accepted text -/

/-- If closing brackets leave nothing open, they close the open brackets one by one. -/
theorem closers_eq_of_run {σ σ' : State} {t : Text} (hclosers : IsClosers t)
    (plain : σ.PlainWord) (outside : σ.unfinished.quote = .outside)
    (hrun : run limit σ t = some σ') (hend : σ'.unfinished.brackets = []) :
    t = σ.unfinished.brackets.map Bracket.closer := by
  induction t generalizing σ with
  | nil =>
    cases hrun
    rw [hend]
    rfl
  | cons c t ih =>
    obtain ⟨b, rfl⟩ := hclosers.exists_head
    obtain ⟨σ₁, hstep, hrest⟩ := Option.bind_eq_some_iff.mp (run_cons σ b.closer t ▸ hrun)
    have hmove := move_of_step hstep
    have houtside : σ₁.unfinished.quote = .outside := by
      rw [← hmove.next_unfinished plain, Unfinished.quote_next, outside]
      cases b <;> rfl
    rw [hmove.brackets_of_closer plain outside, List.map_cons,
      ← ih hclosers.tail (hmove.plainWord plain) houtside hrest]

/-- A closing suffix that completes a text is what closes its state. -/
theorem eq_closing_of_isClosing {s t : Text} {σ : State} {v : Value} (hclosing : IsClosing s)
    (hrun : run limit .start t = some σ) (hend : ending? limit σ s = some v) :
    s = σ.unfinished.closing := by
  obtain ⟨slash, quote, closers, hslash, hquote, hclosers, rfl⟩ := hclosing
  obtain ⟨σ', hrun', hfinish⟩ := Option.bind_eq_some_iff.mp hend
  have hnothing : σ'.unfinished = .nothing := State.unfinished_of_finish? hfinish
  have plain : σ.PlainWord := plainWord_of_run hrun
  have hquotes : (slash ++ quote ++ closers).foldl Quote.next σ.unfinished.quote = .outside := by
    have htracks := unfinished_foldl_of_run hrun hrun'
    rw [← Unfinished.quote_foldl_next, htracks, hnothing]
    rfl
  have houtside : σ.unfinished.quote = .outside → slash = [] := by
    intro outside
    rcases hslash with rfl | rfl
    · rfl
    · obtain ⟨σ₁, hstep, -⟩ := Option.bind_eq_some_iff.mp (run_cons σ .. ▸ hrun')
      exact absurd rfl ((move_of_step hstep).ne_backslash plain outside)
  have hbegin := Reply.slash_append_quote_eq hslash hquote hclosers houtside hquotes
  rw [hbegin] at hrun' ⊢
  obtain ⟨σ₁, hrun₁, hrun₂⟩ := Option.bind_eq_some_iff.mp (run_append σ _ _ ▸ hrun')
  have hσ₁ : σ₁.unfinished = ⟨.outside, σ.unfinished.brackets⟩ := by
    rw [← unfinished_foldl_of_run hrun hrun₁]
    exact Unfinished.foldl_next_closeString σ.unfinished
  have hplain₁ : σ₁.PlainWord :=
    plainWord_of_run (run_append_of_run hrun hrun₁)
  have hbrackets := closers_eq_of_run hclosers hplain₁ (by rw [hσ₁]) hrun₂ (by rw [hnothing]; rfl)
  rw [hbrackets, hσ₁]
  rfl

end AgentPanel.Json.Reader

namespace AgentPanel.Reply

open Json (decode? decodeWithin?)
open Json.Reader (ending?)

/-! ## Repair -/

/-- If a closing suffix completes a text, repair appends this suffix and no other one. -/
theorem repair_eq_append_of_isClosing {limit : Nat} {s t : Text} (hclosing : IsClosing s)
    (haccepted : (decodeWithin? limit (t ++ s)).isSome) : repair t = t ++ s := by
  obtain ⟨v, hv⟩ := Option.isSome_iff_exists.mp haccepted
  have hsplit : decodeWithin? limit (t ++ s) = ending? limit .start (t ++ s) := rfl
  rw [hsplit, Json.Reader.ending?_append] at hv
  obtain ⟨σ, hrun, hend⟩ := Option.bind_eq_some_iff.mp hv
  rw [repair, missing, Json.Reader.unfinished_of_run hrun,
    Json.Reader.eq_closing_of_isClosing hclosing hrun hend]

/-- A text that ends after a backslash in an open string. -/
theorem repair_dangling_backslash :
    IsClosing "\\\"]\x7d" ∧
      (decode? (Text.ofString "\x7b\"a\": [\"b\\" ++ Text.ofString "\\\"]\x7d")).isSome ∧
      repair "\x7b\"a\": [\"b\\" =
        Text.ofString "\x7b\"a\": [\"b\\" ++ Text.ofString "\\\"]\x7d" := by
  have hclosing : IsClosing "\\\"]\x7d" :=
    ⟨['\\'], ['"'], [']', '\x7d'], .inr rfl, .inr rfl, by simp [IsClosers], rfl⟩
  have haccepted : (decode? (Text.ofString "\x7b\"a\": [\"b\\" ++
      Text.ofString "\\\"]\x7d")).isSome := by decide
  exact ⟨hclosing, haccepted, repair_eq_append_of_isClosing hclosing haccepted⟩

end AgentPanel.Reply
