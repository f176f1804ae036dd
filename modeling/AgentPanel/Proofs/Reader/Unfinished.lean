import AgentPanel.Proofs.Reader.Move
import AgentPanel.Reply.Repair

/-!
# What the reader has open

Repair follows a text with a flag and a stack of brackets, the reader with phases and frames. As
long as the reader accepts, the former can be read off the latter: `unfinished_of_run` says that
what repair takes to be open after a text is what the state of the reader has open.
-/

namespace AgentPanel.Reply

/-! ## Code points without a meaning to repair -/

/-- The code points that mean something to repair. -/
def marks : Text := ['"', '\\', '\x7b', '\x7d', '[', ']']

/-- Outside strings, the code point opens and closes nothing. -/
def IsPlain (c : CodePoint) : Prop := c ∉ marks

instance (c : CodePoint) : Decidable (IsPlain c) := inferInstanceAs (Decidable (c ∉ marks))

/-- What holds of no mark holds of plain code points only. -/
theorem isPlain_of_forall_marks {p : CodePoint → Bool} (h : ∀ m ∈ marks, p m = false)
    {c : CodePoint} (hc : p c) : IsPlain c := by
  intro hmark
  rw [h c hmark] at hc
  cases hc

theorem isPlain_of_isSpace {c : CodePoint} (h : Json.isSpace c) : IsPlain c :=
  isPlain_of_forall_marks (by decide) h

theorem isPlain_of_next? {stage stage' : Json.NumberStage} {c : CodePoint}
    (h : stage.next? c = some stage') : IsPlain c := by
  have hmarks : ∀ m ∈ marks, (stage.next? m).isSome = false := by cases stage <;> decide
  exact isPlain_of_forall_marks hmarks (by rw [h]; rfl)

theorem isPlain_of_first? {stage : Json.NumberStage} {c : CodePoint}
    (h : Json.NumberStage.first? c = some stage) : IsPlain c := by
  have hmarks : ∀ m ∈ marks, (Json.NumberStage.first? m).isSome = false := by decide
  exact isPlain_of_forall_marks hmarks (by rw [h]; rfl)

theorem isPlain_of_mem_word {w : Json.Word} {c : CodePoint} (h : c ∈ w.text) : IsPlain c := by
  have hall : ∀ c ∈ w.text, IsPlain c := by cases w <;> decide
  exact hall c h

namespace Unfinished

theorem next_of_isPlain {c : CodePoint} (h : IsPlain c) (brackets : List Bracket) :
    (⟨.outside, brackets⟩ : Unfinished).next c = ⟨.outside, brackets⟩ := by
  have hopened : Bracket.opened? c = none := by
    unfold Bracket.opened?
    rw [if_neg (by rintro rfl; exact h (by decide)), if_neg (by rintro rfl; exact h (by decide))]
  have hclosed : Bracket.closed? c = none := by
    unfold Bracket.closed?
    rw [if_neg (by rintro rfl; exact h (by decide)), if_neg (by rintro rfl; exact h (by decide))]
  have hquote : c ≠ '"' := by rintro rfl; exact h (by decide)
  simp [next, hopened, hclosed, Quote.next, hquote]

theorem next_of_quote_ne {u : Unfinished} (h : u.quote ≠ .outside) (c : CodePoint) :
    u.next c = ⟨u.quote.next c, u.brackets⟩ := by
  obtain ⟨quote, brackets⟩ := u
  cases quote with
  | outside => exact absurd rfl h
  | inside => rfl
  | escaping => rfl

/-- Strings are followed without a look at brackets. -/
theorem quote_next (u : Unfinished) (c : CodePoint) : (u.next c).quote = u.quote.next c := by
  obtain ⟨quote, brackets⟩ := u
  cases quote with
  | outside =>
    simp only [next]
    split
    · next b hopened =>
      have hne : c ≠ '"' := by rintro rfl; cases hopened
      simp [Quote.next, hne]
    · next b _ hclosed =>
      have hne : c ≠ '"' := by rintro rfl; cases hclosed
      simp [Quote.next, hne]
    · rfl
  | inside => rfl
  | escaping => rfl

theorem foldl_next_closeString (u : Unfinished) :
    (closeString u.quote).foldl next u = ⟨.outside, u.brackets⟩ := by
  obtain ⟨quote, brackets⟩ := u
  cases quote <;> rfl

theorem quote_foldl_next (t : Text) (u : Unfinished) :
    (t.foldl next u).quote = t.foldl Quote.next u.quote := by
  induction t generalizing u with
  | nil => rfl
  | cons c t ih => rw [List.foldl_cons, ih, quote_next, List.foldl_cons]

end Unfinished

end AgentPanel.Reply

namespace AgentPanel.Json.Reader

open Reply (Bracket IsPlain Quote Unfinished unfinished)

variable {limit : Nat}

/-! ## The open string and the open brackets of a state -/

/-- Where a string that is being read leaves the scan for quotes. -/
def StringState.quote (s : StringState) : Quote :=
  match s.escape with
  | .started => .escaping
  | _ => .inside

/-- The bracket that a container opens with. -/
def Frame.bracket : Frame → Bracket
  | array _ => .square
  | object _ _ => .curly

/-- Where a phase leaves the scan for quotes. -/
def Phase.quote : Phase → Quote
  | inKey _ s | inString s => s.quote
  | _ => .outside

/-- The brackets that are open inside a phase. -/
def Phase.brackets : Phase → List Bracket
  | firstItem => [.square]
  | firstKey | nextKey _ | inKey _ _ | colon _ _ => [.curly]
  | _ => []

/-- What is open in a state. -/
def State.unfinished (σ : State) : Unfinished :=
  ⟨σ.phase.quote, σ.phase.brackets ++ σ.frames.map Frame.bracket⟩

/-- What is left of a word is plain. -/
def State.PlainWord (σ : State) : Prop :=
  ∀ rest v, σ.phase = .inWord rest v → ∀ c ∈ rest, IsPlain c

/-! ## One move -/

theorem StringState.next_quote_of_goesOn {s s' : StringState} {c : CodePoint}
    (h : s.step c = .goesOn s') : s.quote.next c = s'.quote := by
  obtain ⟨done, halfPair, escape⟩ := s
  cases escape with
  | none =>
    simp only [step] at h
    split at h
    · cases h
    · next hquote =>
      split at h
      · subst c; cases h; rfl
      · next hslash =>
        split at h
        · cases h
        · cases h; simp [quote, Quote.next, hquote, hslash]
  | started =>
    simp only [step] at h
    split at h
    · cases h; rfl
    · split at h
      · cases h; rfl
      · cases h
  | hex count value =>
    have hquote : c ≠ '"' := by rintro rfl; cases h
    have hslash : c ≠ '\\' := by rintro rfl; cases h
    simp only [step] at h
    split at h
    · cases h
    · split at h
      · cases h; simp [quote, Quote.next, hquote, hslash]
      · cases h; simp [quote, Quote.next, hquote, hslash]

theorem StringState.next_quote_of_ends {s : StringState} {c : CodePoint} {t : Text}
    (h : s.step c = .ends t) : s.quote.next c = .outside := by
  obtain ⟨done, halfPair, escape⟩ := s
  cases escape with
  | none =>
    simp only [step] at h
    split at h
    · subst c; rfl
    split at h
    · cases h
    split at h <;> cases h
  | started =>
    simp only [step] at h
    split at h
    · cases h
    split at h <;> cases h
  | hex count value =>
    simp only [step] at h
    split at h
    · cases h
    split at h <;> cases h

theorem StringState.quote_ne_outside (s : StringState) : s.quote ≠ .outside := by
  unfold quote
  split <;> decide

theorem next_of_begins {frames : List Frame} {c : CodePoint} {σ : State}
    (h : Begins limit frames c σ) :
    (⟨.outside, frames.map Frame.bracket⟩ : Unfinished).next c = σ.unfinished := by
  cases h with
  | string => rfl
  | array => rfl
  | object => rfl
  | number first => exact Unfinished.next_of_isPlain (Reply.isPlain_of_first? first) _
  | word w spelled =>
    have hplain : IsPlain c := Reply.isPlain_of_mem_word (w := w) (by simp [spelled])
    exact Unfinished.next_of_isPlain hplain _

theorem next_of_follows {v : Value} {frames : List Frame} {c : CodePoint} {σ : State}
    (h : Follows v frames c σ) :
    (⟨.outside, frames.map Frame.bracket⟩ : Unfinished).next c = σ.unfinished := by
  cases h with
  | blank space => exact Unfinished.next_of_isPlain (Reply.isPlain_of_isSpace space) _
  | nextItem => rfl
  | endArray => rfl
  | nextMember => rfl
  | endObject => rfl

/-- One move of the reader is one step of repair's scan. -/
theorem Move.next_unfinished {σ σ' : State} {c : CodePoint} (h : Move limit σ c σ')
    (plain : σ.PlainWord) : σ.unfinished.next c = σ'.unfinished := by
  cases h with
  | @blank frames phase c space loose =>
    have hquote : phase.quote = .outside := by cases phase <;> first | rfl | cases loose
    simp only [State.unfinished, hquote]
    exact Unfinished.next_of_isPlain (Reply.isPlain_of_isSpace space) _
  | value begins => exact next_of_begins begins
  | firstItem begins => exact next_of_begins begins
  | noItem => rfl
  | firstKey => rfl
  | noMember => rfl
  | nextKey => rfl
  -- inside a key or a string repair looks at quotes only
  | @keyGoesOn frames members s s' c goesOn =>
    rw [Unfinished.next_of_quote_ne s.quote_ne_outside]
    exact congrArg (Unfinished.mk · _) (StringState.next_quote_of_goesOn goesOn)
  | @keyEnds frames members s c key ends =>
    rw [Unfinished.next_of_quote_ne s.quote_ne_outside]
    exact congrArg (Unfinished.mk · _) (StringState.next_quote_of_ends ends)
  | colon => rfl
  | @stringGoesOn frames s s' c goesOn =>
    rw [Unfinished.next_of_quote_ne s.quote_ne_outside]
    exact congrArg (Unfinished.mk · _) (StringState.next_quote_of_goesOn goesOn)
  | @stringEnds frames s c t ends =>
    rw [Unfinished.next_of_quote_ne s.quote_ne_outside]
    exact congrArg (Unfinished.mk · _) (StringState.next_quote_of_ends ends)
  | digit next => exact Unfinished.next_of_isPlain (Reply.isPlain_of_next? next) _
  | numberEnds complete value follows => exact next_of_follows follows
  | minusInfinity => rfl
  | letter => exact Unfinished.next_of_isPlain (plain _ _ rfl _ (by simp)) _
  | lastLetter => exact Unfinished.next_of_isPlain (plain _ _ rfl _ (by simp)) _
  | after follows => exact next_of_follows follows

theorem Begins.plainWord {frames : List Frame} {c : CodePoint} {σ : State}
    (h : Begins limit frames c σ) : σ.PlainWord := by
  intro rest v hphase
  cases h with
  | word w spelled =>
    cases hphase
    intro c hc
    exact Reply.isPlain_of_mem_word (w := w) (by rw [spelled]; exact List.mem_cons_of_mem _ hc)
  | _ => cases hphase

theorem Follows.plainWord {v : Value} {frames : List Frame} {c : CodePoint} {σ : State}
    (h : Follows v frames c σ) : σ.PlainWord := by
  intro rest v hphase
  cases h <;> cases hphase

theorem Move.plainWord {σ σ' : State} {c : CodePoint} (h : Move limit σ c σ')
    (plain : σ.PlainWord) : σ'.PlainWord := by
  cases h with
  | blank => exact plain
  | value begins => exact begins.plainWord
  | firstItem begins => exact begins.plainWord
  | numberEnds complete value follows => exact follows.plainWord
  | after follows => exact follows.plainWord
  -- `-Infinity` is the one word that begins as a number
  | minusInfinity =>
    intro rest v hphase
    cases hphase
    exact by decide
  | letter =>
    intro rest v hphase
    cases hphase
    intro c hc
    exact plain _ _ rfl c (List.mem_cons_of_mem _ hc)
  | _ =>
    intro rest v hphase
    cases hphase

/-! ## Runs -/

theorem plainWord_start : State.start.PlainWord := by
  intro rest v hphase
  cases hphase

/-- What the reader has open after a text is what repair takes to be open, and whatever is left of a
word is plain. -/
theorem unfinished_and_plainWord_of_run {t : Text} {σ : State} (h : run limit .start t = some σ) :
    unfinished t = σ.unfinished ∧ σ.PlainWord := by
  refine run_induction (motive := fun t σ => unfinished t = σ.unfinished ∧ σ.PlainWord) (s := []) h
    ⟨rfl, plainWord_start⟩ ?_
  rintro s σ c σ' ⟨hopen, hplain⟩ hmove
  refine ⟨?_, hmove.plainWord hplain⟩
  rw [unfinished, List.foldl_append, ← unfinished, hopen]
  exact hmove.next_unfinished hplain

theorem unfinished_of_run {t : Text} {σ : State} (h : run limit .start t = some σ) :
    unfinished t = σ.unfinished := (unfinished_and_plainWord_of_run h).1

theorem plainWord_of_run {t : Text} {σ : State} (h : run limit .start t = some σ) : σ.PlainWord :=
  (unfinished_and_plainWord_of_run h).2

theorem run_append_of_run {s t : Text} {σ σ₁ σ₂ : State} (hs : run limit σ s = some σ₁)
    (ht : run limit σ₁ t = some σ₂) : run limit σ (s ++ t) = some σ₂ := by
  rw [run_append, hs]
  exact ht

/-- Read on from a state, the scan of repair goes on from what the state has open. -/
theorem unfinished_foldl_of_run {s t : Text} {σ σ' : State} (hs : run limit .start s = some σ)
    (ht : run limit σ t = some σ') : t.foldl Unfinished.next σ.unfinished = σ'.unfinished := by
  rw [← unfinished_of_run (run_append_of_run hs ht), ← unfinished_of_run hs]
  exact (List.foldl_append ..).symm

/-- Where a text may end, nothing is open. -/
theorem State.unfinished_of_finish? {σ : State} {v : Value} (h : σ.finish? = some v) :
    σ.unfinished = .nothing := by
  obtain ⟨frames, phase⟩ := σ
  cases frames with
  | nil => cases phase <;> first | rfl | cases h
  | cons f outer => cases h

/-- After an accepted text nothing is open. -/
theorem unfinished_of_decodeWithin? {t : Text} {v : Value} (h : decodeWithin? limit t = some v) :
    unfinished t = .nothing := by
  obtain ⟨σ, hrun, hfinish⟩ := Option.bind_eq_some_iff.mp h
  rw [unfinished_of_run hrun, State.unfinished_of_finish? hfinish]

end AgentPanel.Json.Reader
