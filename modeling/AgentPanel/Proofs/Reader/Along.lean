import AgentPanel.Json.Truncation
import AgentPanel.Proofs.Reader.Closing
import AgentPanel.Proofs.Reader.Spelling

/-!
# Reading along a known text

`Along` says what the reader holds after every code point of a text, provided that it gets that far.
Such statements compose along a text (`Along.append`), and every state that a run shows on the way
satisfies them (`Along.of_run`). The tokens of JSON are read along here; what stands between them,
blanks included, is short work.

`CutsTo` is what has to be said after every code point: which values the state comes to if
everything that is open inside the given containers is closed.
-/

namespace AgentPanel.Json.Reader

open Document (Blanks)

variable {limit : Nat} {P Q R : State → Prop} {σ σ' : State} {s t : Text} {c : CodePoint}

/-! ## Texts and states -/

/-- Reading on, as far as the text is accepted, leads to `P` after every code point of it and to `Q`
at its end. -/
def Along (limit : Nat) (P Q : State → Prop) : State → Text → Prop
  | σ, [] => Q σ
  | σ, c :: t => ∀ σ', step limit σ c = some σ' → P σ' ∧ Along limit P Q σ' t

/-- One code point whose effect is known. -/
theorem Along.cons (hstep : step limit σ c = some σ') (hP : P σ') (h : Along limit P Q σ' t) :
    Along limit P Q σ (c :: t) := by
  intro σ₁ hσ₁
  cases hstep.symm.trans hσ₁
  exact ⟨hP, h⟩

theorem Along.append (h : Along limit P R σ s) (h' : ∀ σ', R σ' → Along limit P Q σ' t) :
    Along limit P Q σ (s ++ t) := by
  induction s generalizing σ with
  | nil => exact h' σ h
  | cons c s ih =>
    intro σ₁ hσ₁
    obtain ⟨hP, hrest⟩ := h σ₁ hσ₁
    exact ⟨hP, ih hrest⟩

theorem Along.mono {P' Q' : State → Prop} (h : Along limit P Q σ t) (hP : ∀ σ, P σ → P' σ)
    (hQ : ∀ σ, Q σ → Q' σ) : Along limit P' Q' σ t := by
  induction t generalizing σ with
  | nil => exact hQ σ h
  | cons c t ih =>
    intro σ₁ hσ₁
    obtain ⟨hP₁, hrest⟩ := h σ₁ hσ₁
    exact ⟨hP σ₁ hP₁, ih hrest⟩

/-- What a run shows on the way and at the end. -/
theorem Along.of_run (h : Along limit P Q σ (s ++ t)) (hrun : run limit σ s = some σ') :
    (s ≠ [] → P σ') ∧ Along limit P Q σ' t := by
  induction s generalizing σ with
  | nil =>
    cases hrun
    exact ⟨fun hne => absurd rfl hne, h⟩
  | cons c s ih =>
    obtain ⟨σ₁, hstep, hrest⟩ := Option.bind_eq_some_iff.mp (run_cons σ c s ▸ hrun)
    obtain ⟨hP, halong⟩ := h σ₁ hstep
    obtain ⟨hmid, hend⟩ := ih halong hrest
    refine ⟨fun _ => ?_, hend⟩
    cases s with
    | nil => cases hrest; exact hP
    | cons d s => exact hmid (List.cons_ne_nil d s)

theorem Along.at_end (h : Along limit P Q σ t) (hrun : run limit σ t = some σ') : Q σ' := by
  rw [← List.append_nil t] at h
  exact (h.of_run hrun).2

/-- A run that goes beyond a text comes to its end first. -/
theorem Along.run_append (h : Along limit P Q σ s) (hrun : run limit σ (s ++ t) = some σ') :
    ∃ σ₁, Q σ₁ ∧ run limit σ₁ t = some σ' := by
  rw [Reader.run_append] at hrun
  obtain ⟨σ₁, hrun₁, hrest⟩ := Option.bind_eq_some_iff.mp hrun
  exact ⟨σ₁, h.at_end hrun₁, hrest⟩

/-! ## What a cut comes to -/

/-- The state stands inside the given containers, and what is open inside them comes to a value with
the property. -/
def CutsTo (fs : List Frame) (X : Value → Prop) (σ : State) : Prop :=
  ∃ inner : List Frame, σ.frames = inner ++ fs ∧ ∀ w, σ.phase.cut? = some w → X (wrap inner w)

variable {fs : List Frame} {phase : Phase} {X Y : Value → Prop}

theorem cutsTo_of_cut? (h : ∀ w, phase.cut? = some w → X w) : CutsTo fs X ⟨fs, phase⟩ :=
  ⟨[], rfl, h⟩

theorem cutsTo_of_none (h : phase.cut? = none) : CutsTo fs X ⟨fs, phase⟩ := by
  apply cutsTo_of_cut?
  intro w hw
  rw [h] at hw
  cases hw

theorem CutsTo.mono (h : CutsTo fs X σ) (hXY : ∀ w, X w → Y w) : CutsTo fs Y σ := by
  obtain ⟨inner, hframes, hcut⟩ := h
  exact ⟨inner, hframes, fun w hw => hXY _ (hcut w hw)⟩

theorem wrap_concat (inner : List Frame) (f : Frame) (w : Value) :
    wrap (inner ++ [f]) w = f.close (wrap inner w) := by
  simp [wrap]

/-- One container more is closed. -/
theorem CutsTo.outer {f : Frame} (h : CutsTo (f :: fs) X σ) (hXY : ∀ w, X w → Y (f.close w)) :
    CutsTo fs Y σ := by
  obtain ⟨inner, hframes, hcut⟩ := h
  refine ⟨inner ++ [f], by simp [hframes], fun w hw => ?_⟩
  rw [wrap_concat]
  exact hXY _ (hcut w hw)

theorem Along.of_cuts {Q : State → Prop} (h : Along limit (CutsTo fs X) Q σ t)
    (hXY : ∀ w, X w → Y w) : Along limit (CutsTo fs Y) Q σ t :=
  h.mono (fun _ hcut => hcut.mono hXY) fun _ => id

/-- The same text read inside one container less. -/
theorem Along.of_inner {Q : State → Prop} {f : Frame} (h : Along limit (CutsTo (f :: fs) X) Q σ t)
    (hXY : ∀ w, X w → Y (f.close w)) : Along limit (CutsTo fs Y) Q σ t :=
  h.mono (fun _ hcut => hcut.outer hXY) fun _ => id

/-! ## Blanks -/

theorem step_blank (space : isSpace c) (loose : phase.isLoose) :
    step limit ⟨fs, phase⟩ c = some ⟨fs, phase⟩ := by
  cases phase <;> first | (cases loose; done) | simp [step, space]

theorem run_blanks (hblanks : Blanks s) (loose : phase.isLoose) (t : Text) :
    run limit ⟨fs, phase⟩ (s ++ t) = run limit ⟨fs, phase⟩ t := by
  induction s with
  | nil => rfl
  | cons c s ih =>
    obtain ⟨space, hrest⟩ := List.forall_mem_cons.mp hblanks
    rw [List.cons_append, run_cons, step_blank space loose]
    exact ih hrest

/-- Blanks have no effect where they may stand. -/
theorem along_blanks (hblanks : Blanks t) (loose : phase.isLoose) (hP : P ⟨fs, phase⟩) :
    Along limit P (· = ⟨fs, phase⟩) ⟨fs, phase⟩ t := by
  induction t with
  | nil => rfl
  | cons c t ih =>
    obtain ⟨space, hrest⟩ := List.forall_mem_cons.mp hblanks
    exact .cons (step_blank space loose) hP (ih hrest)

/-! ## Words -/

/-- The rest of a word that has been begun. -/
theorem along_rest (v : Value) (rest : Text) (hne : rest ≠ [])
    (hinside : ∀ rest, P ⟨fs, .inWord rest v⟩) (hafter : P ⟨fs, .after v⟩) :
    Along limit P (· = ⟨fs, .after v⟩) ⟨fs, .inWord rest v⟩ rest := by
  induction rest with
  | nil => exact absurd rfl hne
  | cons c rest ih =>
    cases rest with
    | nil => exact .cons (by simp [step]) hafter rfl
    | cons next rest =>
      exact .cons (by simp [step]) (hinside _) (ih (List.cons_ne_nil next rest))

theorem along_word (w : Word) (hX : X w.value) :
    Along limit (CutsTo fs X) (· = ⟨fs, .after w.value⟩) ⟨fs, .value⟩ w.text := by
  have hinside : ∀ rest, CutsTo fs X ⟨fs, .inWord rest w.value⟩ := fun rest => cutsTo_of_none rfl
  have hafter : CutsTo fs X ⟨fs, .after w.value⟩ := by
    apply cutsTo_of_cut?
    intro v hv
    cases hv
    exact hX
  cases w with
  | negativeInfinity =>
    -- the minus sign alone could still begin a number
    have hsign : step limit ⟨fs, .value⟩ '-' = some ⟨fs, .inNumber ['-'] .sign⟩ := rfl
    refine .cons hsign (cutsTo_of_none rfl) ?_
    exact .cons rfl (hinside _) (along_rest _ "nfinity" (by decide) hinside hafter)
  | null => exact .cons rfl (hinside _) (along_rest _ "ull" (by decide) hinside hafter)
  | true => exact .cons rfl (hinside _) (along_rest _ "rue" (by decide) hinside hafter)
  | false => exact .cons rfl (hinside _) (along_rest _ "alse" (by decide) hinside hafter)
  | nan => exact .cons rfl (hinside _) (along_rest _ "aN" (by decide) hinside hafter)
  | infinity => exact .cons rfl (hinside _) (along_rest _ "nfinity" (by decide) hinside hafter)

/-! ## Numbers -/

theorem isSpace_of_first? {stage : NumberStage} (h : NumberStage.first? c = some stage) :
    isSpace c = false := by
  cases hspace : isSpace c with
  | false => rfl
  | true =>
    simp only [isSpace, decide_eq_true_eq] at hspace
    rcases hspace with rfl | rfl | rfl | rfl <;> cases h

theorem step_of_first? {stage : NumberStage} (h : NumberStage.first? c = some stage) :
    step limit ⟨fs, .value⟩ c = some ⟨fs, .inNumber [c] stage⟩ := by
  have hquote : c ≠ '"' := by rintro rfl; cases h
  have hsquare : c ≠ '[' := by rintro rfl; cases h
  have hcurly : c ≠ '\x7b' := by rintro rfl; cases h
  simp [step, beginValue, isSpace_of_first? h, hquote, hsquare, hcurly, h]

theorem cut?_inNumber {literal : Text} {stage : NumberStage} {w : Value}
    (h : (Phase.inNumber literal stage).cut? = some w) :
    stage.isComplete ∧ numberValue? literal.reverse = some w := by
  simp only [Phase.cut?] at h
  split at h
  · next complete => exact ⟨complete, h⟩
  · cases h

/-- The rest of a number whose beginning has been read. -/
theorem along_digits (rest literal : Text) (stage last : NumberStage)
    (hread : NumberStage.ofText? literal.reverse = some stage)
    (hrest : rest.foldlM NumberStage.next? stage = some last)
    (hX : ∀ kept lost w, kept ++ lost = literal.reverse ++ rest → isNumber kept →
      numberValue? kept = some w → X w) :
    Along limit (CutsTo fs X) (· = ⟨fs, .inNumber (rest.reverse ++ literal) last⟩)
      ⟨fs, .inNumber literal stage⟩ rest := by
  induction rest generalizing literal stage with
  | nil => cases hrest; rfl
  | cons c rest ih =>
    obtain ⟨stage', hnext, hrest⟩ := Option.bind_eq_some_iff.mp hrest
    have hread' : NumberStage.ofText? (c :: literal).reverse = some stage' := by
      rw [List.reverse_cons]
      exact ofText?_concat hread hnext
    have hstep : step limit ⟨fs, .inNumber literal stage⟩ c =
        some ⟨fs, .inNumber (c :: literal) stage'⟩ := by simp [step, hnext]
    refine .cons hstep ?_ ?_
    · apply cutsTo_of_cut?
      intro w hw
      obtain ⟨complete, hvalue⟩ := cut?_inNumber hw
      exact hX _ rest w (by simp) (isNumber_of_ofText? hread' complete) hvalue
    · have := ih (c :: literal) stage' hread' hrest (by simpa using hX)
      simpa using this

theorem along_number {literal : Text} {stage : NumberStage}
    (hread : NumberStage.ofText? literal = some stage)
    (hX : ∀ kept lost w, kept ++ lost = literal → isNumber kept →
      numberValue? kept = some w → X w) :
    Along limit (CutsTo fs X) (· = ⟨fs, .inNumber literal.reverse stage⟩) ⟨fs, .value⟩ literal := by
  cases literal with
  | nil => cases hread
  | cons c rest =>
    obtain ⟨first, hfirst, hrest⟩ := Option.bind_eq_some_iff.mp hread
    have hone : NumberStage.ofText? [c] = some first := by simp [NumberStage.ofText?, hfirst]
    refine .cons (step_of_first? hfirst) ?_ ?_
    · apply cutsTo_of_cut?
      intro w hw
      obtain ⟨complete, hvalue⟩ := cut?_inNumber hw
      exact hX [c] rest w rfl (isNumber_of_ofText? hone complete) hvalue
    · rw [List.reverse_cons]
      exact along_digits rest [c] first stage hone hrest hX

/-! ## Strings -/

namespace StringState

theorem step_plain {s : StringState} (h : s.escape = .none) (proper : (Atom.plain c).Proper) :
    s.step c = .goesOn (s.push c) := by
  obtain ⟨hquote, hslash, hcontrol⟩ := proper
  simp [step, h, hquote, hslash, Nat.not_lt.mpr hcontrol]

theorem step_slash {s : StringState} (h : s.escape = .none) :
    s.step '\\' = .goesOn { s with escape := .started } := by
  simp [step, h]

theorem step_letter {s : StringState} {letter : CodePoint} (h : s.escape = .started)
    (proper : (Atom.short letter).Proper) : s.step letter = .goesOn (s.add (.short letter)) := by
  obtain ⟨written, hletter⟩ := Option.isSome_iff_exists.mp proper
  have hne : letter ≠ 'u' := by rintro rfl; cases hletter
  simp [step, h, hne, hletter, add, Atom.point]

theorem step_digit {s : StringState} {digits : Text} {digit : Nat}
    (h : s.escape = .hex digits.length (Atom.hexValue digits)) (hdigit : c.hexDigit? = some digit)
    (hlength : digits.length < 3) :
    s.step c =
      .goesOn { s with escape := .hex (digits ++ [c]).length (Atom.hexValue (digits ++ [c])) } := by
  have hne : digits.length ≠ 3 := Nat.ne_of_lt hlength
  simp [step, h, hdigit, hne, Atom.hexValue_concat]

theorem step_lastDigit {s : StringState} {digits : Text} {digit : Nat}
    (h : s.escape = .hex digits.length (Atom.hexValue digits)) (hdigit : c.hexDigit? = some digit)
    (hlength : digits.length = 3) : s.step c = .goesOn (s.add (.long (digits ++ [c]))) := by
  simp [step, h, hdigit, hlength, add, Atom.point, Atom.hexValue_concat]

end StringState

/-- A string stands inside its quotes in `opened` and behind them in `closed`. -/
def Quotes (limit : Nat) (opened : StringState → State) (closed : Text → State) : Prop :=
  ∀ s c, step limit (opened s) c =
    match s.step c with
    | .goesOn s' => some (opened s')
    | .ends t => some (closed t)
    | .fails => none

theorem quotes_inString :
    Quotes limit (fun s => ⟨fs, .inString s⟩) (fun t => ⟨fs, .after (.text t)⟩) := by
  intro s c
  cases h : s.step c <;> simp [step, h]

theorem quotes_inKey (members : Members) :
    Quotes limit (fun s => ⟨fs, .inKey members s⟩) (fun t => ⟨fs, .colon members t⟩) := by
  intro s c
  cases h : s.step c <;> simp [step, h]

section Strings

variable {opened : StringState → State} {closed : Text → State}

/-- Closed where it stands, the string has what may be left of the atoms. -/
def CutsToText (opened : StringState → State) (atoms : List Atom) (σ : State) : Prop :=
  ∃ s, σ = opened s ∧ ∀ t, s.cut? = some t → Atom.Truncation t atoms

theorem Quotes.step_of_goesOn (h : Quotes limit opened closed) {s s' : StringState}
    (hs : s.step c = .goesOn s') : step limit (opened s) c = some (opened s') := by
  rw [h, hs]

theorem cutsToText_ofAtoms (kept lost : List Atom) :
    CutsToText opened (kept ++ lost) (opened (.ofAtoms kept)) := by
  refine ⟨_, rfl, fun t ht => ?_⟩
  simp only [StringState.cut?, StringState.escape_ofAtoms, StringState.reverse_done_ofAtoms] at ht
  cases ht
  exact .between kept lost

/-- The hexadecimal digits of a long escape. -/
theorem along_hexDigits (hquotes : Quotes limit opened closed) (s : StringState) (atoms : List Atom)
    (before rest : Text) (hlength : (before ++ rest).length = 4) (hne : rest ≠ [])
    (hrest : ∀ c ∈ rest, c.hexDigit?.isSome)
    (hend : CutsToText opened atoms (opened (s.add (.long (before ++ rest))))) :
    Along limit (CutsToText opened atoms) (· = opened (s.add (.long (before ++ rest))))
      (opened { s with escape := .hex before.length (Atom.hexValue before) }) rest := by
  induction rest generalizing before with
  | nil => exact absurd rfl hne
  | cons c rest ih =>
    obtain ⟨hc, hrest⟩ := List.forall_mem_cons.mp hrest
    obtain ⟨digit, hdigit⟩ := Option.isSome_iff_exists.mp hc
    rw [List.length_append, List.length_cons] at hlength
    -- the fourth digit completes the atom, the others leave nothing that could be closed
    cases rest with
    | nil =>
      have hthree : before.length = 3 := Nat.succ.inj hlength
      exact .cons (hquotes.step_of_goesOn (StringState.step_lastDigit rfl hdigit hthree)) hend rfl
    | cons next rest =>
      rw [List.length_cons] at hlength
      have hshort : before.length < 3 := by omega
      refine .cons (hquotes.step_of_goesOn (StringState.step_digit rfl hdigit hshort)) ?_ ?_
      · exact ⟨_, rfl, fun t ht => nomatch ht⟩
      · have := ih (before ++ [c]) (by simp; omega) (List.cons_ne_nil next rest) hrest
          (by simpa using hend)
        simpa using this

theorem along_atom (hquotes : Quotes limit opened closed) (kept lost : List Atom) (a : Atom)
    (proper : a.Proper) :
    Along limit (CutsToText opened (kept ++ a :: lost)) (· = opened (.ofAtoms (kept ++ [a])))
      (opened (.ofAtoms kept)) a.text := by
  have hend : CutsToText opened (kept ++ a :: lost) (opened (.ofAtoms (kept ++ [a]))) := by
    have hatoms : kept ++ a :: lost = kept ++ [a] ++ lost := by simp
    rw [hatoms]
    exact cutsToText_ofAtoms _ lost
  rw [StringState.ofAtoms_concat] at hend ⊢
  have hopen : (StringState.ofAtoms kept).escape = .none := StringState.escape_ofAtoms kept
  have hslash : a.isEscape → CutsToText opened (kept ++ a :: lost)
      (opened { StringState.ofAtoms kept with escape := .started }) := by
    intro hescape
    refine ⟨_, rfl, fun t ht => ?_⟩
    simp only [StringState.cut?, List.reverse_cons, StringState.reverse_done_ofAtoms] at ht
    cases ht
    exact .inside kept a lost hescape
  cases a with
  | plain c =>
    exact .cons (hquotes.step_of_goesOn (StringState.step_plain hopen proper)) hend rfl
  | short letter =>
    refine .cons (hquotes.step_of_goesOn (StringState.step_slash hopen)) (hslash rfl) ?_
    exact .cons (hquotes.step_of_goesOn (StringState.step_letter rfl proper)) hend rfl
  | long digits =>
    obtain ⟨hlength, hdigits⟩ := proper
    have hne : digits ≠ [] := by rintro rfl; cases hlength
    refine .cons (hquotes.step_of_goesOn (StringState.step_slash hopen)) (hslash rfl) ?_
    refine .cons (hquotes.step_of_goesOn rfl) ⟨_, rfl, fun t ht => nomatch ht⟩ ?_
    exact along_hexDigits hquotes (.ofAtoms kept) _ [] digits hlength hne hdigits hend

theorem along_atoms (hquotes : Quotes limit opened closed) (kept lost : List Atom)
    (proper : ∀ a ∈ lost, a.Proper) :
    Along limit (CutsToText opened (kept ++ lost)) (· = opened (.ofAtoms (kept ++ lost)))
      (opened (.ofAtoms kept)) (lost.flatMap Atom.text) := by
  -- the atoms that have been read grow at their end
  induction lost generalizing kept with
  | nil =>
    rw [List.append_nil]
    rfl
  | cons a lost ih =>
    obtain ⟨ha, hlost⟩ := List.forall_mem_cons.mp proper
    rw [List.flatMap_cons]
    refine (along_atom hquotes kept lost a ha).append ?_
    rintro _ rfl
    have := ih (kept ++ [a]) hlost
    rwa [List.append_assoc] at this

/-- The whole string up to its closing quote, from behind its opening one. -/
theorem along_quoted (hquotes : Quotes limit opened closed) (atoms : List Atom)
    (proper : ∀ a ∈ atoms, a.Proper) (hinside : ∀ σ, CutsToText opened atoms σ → P σ)
    (hclosed : P (closed (Atom.points atoms))) :
    Along limit P (· = closed (Atom.points atoms)) (opened .start)
      (atoms.flatMap Atom.text ++ [CodePoint.scalar '"']) := by
  refine ((along_atoms hquotes [] atoms proper).mono hinside fun _ => id).append ?_
  rintro _ rfl
  have hstep : step limit (opened (.ofAtoms atoms)) '"' = some (closed (Atom.points atoms)) := by
    rw [hquotes, ← StringState.reverse_done_ofAtoms]
    simp [StringState.step]
  exact .cons hstep hclosed rfl

end Strings

end AgentPanel.Json.Reader
