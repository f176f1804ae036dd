import AgentPanel.Proofs.Document.Stops
import AgentPanel.Proofs.Reader.Documents

/-!
# The reader where a text is cut

`Stop.IsLost` names the places behind which a text cannot be closed. Whatever containers a document
stands in, the phase of the reader behind a beginning of it can be closed exactly if the beginning
does not stop at such a place (`closesAt`): one lemma for each constructor of `Document.StopsAt`.
-/

namespace AgentPanel.Json

/-- A text that stops here cannot be closed. A part of a word or a number is lost if it is not a
value itself. -/
def Stop.IsLost (limit : Nat) : Stop → Prop
  | inKey | beforeValue | afterComma | inHex => True
  | inToken read => decodeWithin? limit read = none
  | opened | inString | afterBackslash | afterValue => False

open Document (Blanks ProperItem ProperItems ProperKey ProperMembers itemText keyText memberText
  itemsBefore membersBefore properItems_split properMembers_split isSome_value?_array
  isSome_value?_object)

namespace Reader

variable {limit : Nat} {fs : List Frame} {σ σ' : State} {d : Document} {p t after gap : Text}
  {stop : Stop}

/-- Read inside any containers, the beginning leads to a phase that can be closed unless the stop is
lost. -/
def ClosesAt (limit : Nat) (p : Text) (stop : Stop) : Prop :=
  ∀ fs σ, run limit ⟨fs, .value⟩ p = some σ → (σ.phase.cut?.isSome ↔ ¬stop.IsLost limit)

/-! ## Words and numbers -/

/-- A part of a token is read to the same phase in all containers. If the token may end there, then
inside containers as well as outside. -/
theorem closesAt_inToken {read : Text} (phase : Phase)
    (h : ∀ fs, run limit ⟨fs, .value⟩ read = some ⟨fs, phase⟩)
    (hfinish : State.finish? ⟨[], phase⟩ = phase.cut?) : ClosesAt limit read (.inToken read) := by
  intro fs σ hrun
  cases (h fs).symm.trans hrun
  have hdecode : decodeWithin? limit read = phase.cut? := by
    rw [decodeWithin?, State.start, h]
    exact hfinish
  rw [Stop.IsLost, hdecode, ← ne_eq, Option.isSome_iff_ne_none]

theorem run_rest (v : Value) (kept : Text) {lost : Text} (hlost : lost ≠ []) :
    run limit ⟨fs, .inWord (kept ++ lost) v⟩ kept = some ⟨fs, .inWord lost v⟩ := by
  induction kept with
  | nil => rfl
  | cons c kept ih =>
    obtain ⟨next, rest, hrest⟩ :=
      List.exists_cons_of_ne_nil (List.append_ne_nil_of_right_ne_nil kept hlost)
    have hstep : step limit ⟨fs, .inWord (c :: kept ++ lost) v⟩ c =
        some ⟨fs, .inWord (kept ++ lost) v⟩ := by simp [step, hrest]
    rw [run_cons, hstep]
    exact ih

/-- Only the word that a minus sign begins could still become a number. -/
theorem exists_step_word (limit : Nat) {w : Word} (h : w ≠ .negativeInfinity) :
    ∃ c rest, w.text = c :: rest ∧
      ∀ fs, step limit ⟨fs, .value⟩ c = some ⟨fs, .inWord rest w.value⟩ := by
  cases w with
  | negativeInfinity => exact absurd rfl h
  | _ => exact ⟨_, _, rfl, fun _ => rfl⟩

theorem closesAt_word {w : Word} {kept lost : Text} (h : w.text = kept ++ lost)
    (hkept : kept ≠ []) (hlost : lost ≠ []) : ClosesAt limit kept (.inToken kept) := by
  obtain ⟨c, kept, rfl⟩ := List.exists_cons_of_ne_nil hkept
  by_cases hw : w = .negativeInfinity
  · -- behind the minus sign the reader expects a number
    subst w
    have htext : Word.negativeInfinity.text =
        CodePoint.scalar '-' :: CodePoint.scalar 'I' :: Text.ofString "nfinity" := rfl
    rw [htext] at h
    obtain ⟨rfl, hrest⟩ := List.cons.inj h
    cases kept with
    | nil => exact closesAt_inToken (.inNumber ['-'] .sign) (fun _ => rfl) rfl
    | cons d kept =>
      obtain ⟨rfl, hletters⟩ := List.cons.inj hrest
      refine closesAt_inToken (.inWord lost (.float (.infinity true))) (fun fs => ?_) rfl
      show run limit ⟨fs, .inWord (Text.ofString "nfinity") _⟩ kept = _
      rw [hletters]
      exact run_rest _ kept hlost
  · obtain ⟨d, rest, htext, hstep⟩ := exists_step_word limit hw
    obtain ⟨rfl, rfl⟩ := List.cons.inj (htext.symm.trans h)
    refine closesAt_inToken (.inWord lost w.value) (fun fs => ?_) rfl
    rw [run_cons, hstep]
    exact run_rest w.value kept hlost

theorem run_digits (rest literal : Text) {stage last : NumberStage}
    (h : rest.foldlM NumberStage.next? stage = some last) :
    run limit ⟨fs, .inNumber literal stage⟩ rest =
      some ⟨fs, .inNumber (rest.reverse ++ literal) last⟩ := by
  induction rest generalizing literal stage with
  | nil => cases h; rfl
  | cons c rest ih =>
    obtain ⟨next, hnext, hrest⟩ := Option.bind_eq_some_iff.mp h
    have hstep : step limit ⟨fs, .inNumber literal stage⟩ c =
        some ⟨fs, .inNumber (c :: literal) next⟩ := by simp [step, hnext]
    rw [run_cons, hstep, List.reverse_cons, List.append_assoc]
    exact ih (c :: literal) hrest

theorem closesAt_number {kept lost : Text} (proper : isNumber (kept ++ lost)) (hkept : kept ≠ []) :
    ClosesAt limit kept (.inToken kept) := by
  obtain ⟨c, rest, rfl⟩ := List.exists_cons_of_ne_nil hkept
  obtain ⟨stage, hstage, -⟩ := exists_stage_of_isNumber proper
  obtain ⟨first, hfirst, hread⟩ := Option.bind_eq_some_iff.mp hstage
  rw [List.append_eq, List.foldlM_append] at hread
  obtain ⟨last, hlast, -⟩ := Option.bind_eq_some_iff.mp hread
  refine closesAt_inToken (.inNumber (rest.reverse ++ [c]) last) (fun fs => ?_) rfl
  rw [run_cons, step_of_first? hfirst]
  exact run_digits rest [c] hlast

/-! ## Strings -/

/-- The reader behind the first atoms of a string. -/
theorem run_quoted {kept : List Atom} (proper : ∀ a ∈ kept, a.Proper)
    (h : run limit ⟨fs, .value⟩ (CodePoint.scalar '"' :: kept.flatMap Atom.text ++ t) = some σ) :
    run limit ⟨fs, .inString (.ofAtoms kept)⟩ t = some σ := by
  have hquote : run limit ⟨fs, .value⟩ (CodePoint.scalar '"' :: kept.flatMap Atom.text ++ t) =
      run limit ⟨fs, .inString .start⟩ (kept.flatMap Atom.text ++ t) := rfl
  rw [hquote] at h
  obtain ⟨σ₁, rfl, hrun⟩ := (along_atoms quotes_inString [] kept proper).run_append h
  exact hrun

theorem closesAt_string {kept : List Atom} (proper : ∀ a ∈ kept, a.Proper) :
    ClosesAt limit (CodePoint.scalar '"' :: kept.flatMap Atom.text) .inString := by
  intro fs σ hrun
  rw [← List.append_nil (_ :: _)] at hrun
  cases run_quoted proper hrun
  simp [Stop.IsLost, Phase.cut?, StringState.cut?]

theorem run_slash (kept : List Atom) (t : Text) :
    run limit ⟨fs, .inString (.ofAtoms kept)⟩ (CodePoint.scalar '\\' :: t) =
      run limit ⟨fs, .inString { StringState.ofAtoms kept with escape := .started }⟩ t := by
  have hslash := StringState.step_slash (StringState.escape_ofAtoms kept)
  rw [run_cons, quotes_inString.step_of_goesOn hslash]
  rfl

theorem closesAt_backslash {kept : List Atom} (proper : ∀ a ∈ kept, a.Proper) :
    ClosesAt limit
      (CodePoint.scalar '"' :: kept.flatMap Atom.text ++ [CodePoint.scalar '\\'])
      .afterBackslash := by
  intro fs σ hrun
  cases (run_slash kept []).symm.trans (run_quoted proper hrun)
  simp [Stop.IsLost, Phase.cut?, StringState.cut?]

theorem run_hexDigits (s : StringState) (before digits : Text)
    (hlength : (before ++ digits).length < 4) (hdigits : ∀ c ∈ digits, c.hexDigit?.isSome) :
    run limit ⟨fs, .inString { s with escape := .hex before.length (Atom.hexValue before) }⟩
      digits = some ⟨fs, .inString { s with
        escape := .hex (before ++ digits).length (Atom.hexValue (before ++ digits)) }⟩ := by
  induction digits generalizing before with
  | nil => simp
  | cons c digits ih =>
    obtain ⟨hc, hrest⟩ := List.forall_mem_cons.mp hdigits
    obtain ⟨digit, hdigit⟩ := Option.isSome_iff_exists.mp hc
    -- the digits that have been read grow at their end
    rw [List.append_cons] at hlength ⊢
    have hshort : before.length < 3 := by
      rw [List.length_append, List.length_append, List.length_singleton] at hlength
      omega
    rw [run_cons, quotes_inString.step_of_goesOn (StringState.step_digit rfl hdigit hshort)]
    exact ih (before ++ [c]) hlength hrest

theorem closesAt_hex {kept : List Atom} {digits rest : Text} (proper : ∀ a ∈ kept, a.Proper)
    (hatom : (Atom.long (digits ++ rest)).Proper) (hrest : rest ≠ []) :
    ClosesAt limit
      (CodePoint.scalar '"' :: kept.flatMap Atom.text ++
        CodePoint.scalar '\\' :: CodePoint.scalar 'u' :: digits) .inHex := by
  obtain ⟨hlength, hall⟩ := hatom
  have hshort : ([] ++ digits : Text).length < 4 := by
    rw [List.length_append] at hlength
    have := List.length_pos_iff.mpr hrest
    rw [List.nil_append]
    omega
  intro fs σ hrun
  have hdigits := run_quoted proper hrun
  rw [run_slash] at hdigits
  cases (run_hexDigits (.ofAtoms kept) [] digits hshort fun c hc =>
    hall c (List.mem_append_left _ hc)).symm.trans hdigits
  simp [Stop.IsLost, Phase.cut?, StringState.cut?]

/-! ## Whole documents -/

theorem closesAt_complete {rest : Text} (proper : d.Proper) (hvalue : d.value?.isSome)
    (hrest : Blanks rest) : ClosesAt limit (d.text ++ rest) .afterValue := by
  intro fs σ hrun
  have hreads := ((alongDocument d proper).blanksAfter hrest).at_end hrun
  cases hreads with
  | whole => simp [Stop.IsLost, Phase.cut?]
  | number hd complete =>
    -- the number could go on, but it has a value already
    subst d
    simpa [Stop.IsLost, Phase.cut?, complete, Document.value?] using hvalue

theorem exists_cons_of_stopsAt (h : d.StopsAt after p stop) (proper : d.Proper) :
    ∃ c t, p = c :: t ∧ isSpace c = false ∧ c ≠ ']' := by
  obtain ⟨c, t, htext, hspace, hclose⟩ := exists_text_eq_cons proper
  -- a part of a token begins as the whole token does
  have htoken : ∀ kept lost : Text, d.text = kept ++ lost → kept ≠ [] →
      ∃ c t, kept = c :: t ∧ isSpace c = false ∧ c ≠ ']' := by
    intro kept lost hsplit hkept
    obtain ⟨e, kept, rfl⟩ := List.exists_cons_of_ne_nil hkept
    obtain ⟨rfl, -⟩ := List.cons.inj (htext.symm.trans hsplit)
    exact ⟨c, kept, rfl, hspace, hclose⟩
  cases h with
  | @complete _ _ rest => exact ⟨c, t ++ rest, by rw [htext, List.cons_append], hspace, hclose⟩
  | word h hkept => exact htoken _ _ h hkept
  | number hkept => exact htoken _ _ rfl hkept
  | _ => exact ⟨_, _, rfl, by decide, by decide⟩

/-! ## The items of an array -/

section Items

variable {kept : List (Spaced Document)} {blanks : Text}

theorem run_square (h : run limit ⟨fs, .value⟩ (CodePoint.scalar '[' :: t) = some σ) :
    run limit ⟨fs, .firstItem⟩ t = some σ := by
  rw [run_cons] at h
  obtain ⟨σ₁, hstep, hrun⟩ := Option.bind_eq_some_iff.mp h
  rwa [eq_of_step_square hstep] at hrun

theorem closesAt_openedArray (hblanks : Blanks blanks) :
    ClosesAt limit (CodePoint.scalar '[' :: blanks) .opened := by
  intro fs σ hrun
  have hinside := run_square hrun
  rw [← List.append_nil blanks, run_blanks hblanks rfl] at hinside
  cases hinside
  simp [Stop.IsLost, Phase.cut?]

theorem AtItem.run_blanks {done : List Value} (h : AtItem fs done σ) (hblanks : Blanks blanks)
    (t : Text) : run limit σ (blanks ++ t) = run limit σ t := by
  cases h <;> exact Reader.run_blanks hblanks rfl t

/-- Behind some items of an array the reader stands where the next one may stand. Behind a comma
nothing can be closed there. -/
theorem along_itemsBefore (hkept : ProperItems kept) {done : List Value}
    (hσ : AtItem fs done σ) :
    Along limit (fun _ => True)
      (fun σ' => (∃ done', AtItem fs done' σ') ∧
        (σ.phase.cut? = none ∨ kept ≠ [] → σ'.phase.cut? = none))
      σ (itemsBefore kept) := by
  induction kept generalizing σ done with
  | nil => exact ⟨⟨done, hσ⟩, fun h => h.resolve_right fun hne => hne rfl⟩
  | cons item kept ih =>
    obtain ⟨hbefore, hinner, hafter, hkept⟩ := hkept
    have htext : itemsBefore (item :: kept) =
        itemText item ++ CodePoint.scalar ',' :: itemsBefore kept := by simp [itemsBefore]
    rw [htext]
    refine ((along_item (alongDocument item.inner hinner) hinner hbefore hafter hσ).mono
      (fun _ _ => trivial) fun _ => id).append ?_
    intro σ₁ hσ₁ σ₂ hstep
    obtain ⟨v, -, rfl⟩ := hσ₁.nextItem hstep
    refine ⟨trivial, ?_⟩
    exact (ih hkept (atItem_concat done v)).mono (fun _ => id) fun σ' h =>
      ⟨h.1, fun _ => h.2 (.inl rfl)⟩

theorem exists_atItem_of_run (hgap : Blanks gap) (hkept : ProperItems kept)
    (h : run limit ⟨fs, .value⟩ (CodePoint.scalar '[' :: gap ++ itemsBefore kept ++ t) = some σ) :
    ∃ σ₁ done, AtItem fs done σ₁ ∧ (kept ≠ [] → σ₁.phase.cut? = none) ∧
      run limit σ₁ t = some σ := by
  rw [List.append_assoc, List.cons_append] at h
  have hinside := run_square h
  rw [run_blanks hgap rfl] at hinside
  obtain ⟨σ₁, ⟨⟨done, hσ₁⟩, hcut⟩, hrest⟩ := (along_itemsBefore hkept .first).run_append hinside
  exact ⟨σ₁, done, hσ₁, fun hne => hcut (.inr hne), hrest⟩

theorem closesAt_nextItem (hgap : Blanks gap) (hkept : ProperItems kept) (hne : kept ≠ [])
    (hblanks : Blanks blanks) :
    ClosesAt limit (CodePoint.scalar '[' :: gap ++ itemsBefore kept ++ blanks) .afterComma := by
  intro fs σ hrun
  obtain ⟨σ₁, done, hσ₁, hcut, hrest⟩ := exists_atItem_of_run hgap hkept hrun
  rw [← List.append_nil blanks, hσ₁.run_blanks hblanks] at hrest
  cases hrest
  simp [Stop.IsLost, hcut hne]

theorem AtItem.run_item {done : List Value} {c : CodePoint} (h : AtItem fs done σ)
    (hspace : isSpace c = false) (hclose : c ≠ ']') (t : Text) :
    run limit σ (c :: t) = run limit ⟨.array done.reverse :: fs, .value⟩ (c :: t) := by
  cases h with
  | first =>
    -- the array becomes a frame only when its first item begins
    rw [run_cons, step_firstItem hspace hclose, run_cons]
    rfl
  | next => rfl

theorem closesAt_item {item : Spaced Document} (hgap : Blanks gap) (hkept : ProperItems kept)
    (hitem : ProperItem item) (hstop : item.inner.StopsAt item.after p stop)
    (ih : ClosesAt limit p stop) :
    ClosesAt limit (CodePoint.scalar '[' :: gap ++ itemsBefore kept ++ (item.before ++ p))
      stop := by
  intro fs σ hrun
  obtain ⟨σ₁, done, hσ₁, -, hrest⟩ := exists_atItem_of_run hgap hkept hrun
  obtain ⟨c, t, rfl, hspace, hclose⟩ := exists_cons_of_stopsAt hstop hitem.2.1
  rw [hσ₁.run_blanks hitem.1, hσ₁.run_item hspace hclose] at hrest
  exact ih _ σ hrest

end Items

/-! ## The members of an object -/

section Members

variable {key : Spaced (List Atom)} {item : Spaced Document} {done : Members}
  {kept : List (Spaced (List Atom) × Spaced Document)} {blanks : Text}

theorem run_curly (h : run limit ⟨fs, .value⟩ (CodePoint.scalar '\x7b' :: t) = some σ) :
    run limit ⟨fs, .firstKey⟩ t = some σ := by
  rw [run_cons] at h
  obtain ⟨σ₁, hstep, hrun⟩ := Option.bind_eq_some_iff.mp h
  rwa [eq_of_step_curly hstep] at hrun

theorem closesAt_openedObject (hblanks : Blanks blanks) :
    ClosesAt limit (CodePoint.scalar '\x7b' :: blanks) .opened := by
  intro fs σ hrun
  have hinside := run_curly hrun
  rw [← List.append_nil blanks, run_blanks hblanks rfl] at hinside
  cases hinside
  simp [Stop.IsLost, Phase.cut?]

theorem AtKey.run_blanks (h : AtKey fs done σ) (hblanks : Blanks blanks) (t : Text) :
    run limit σ (blanks ++ t) = run limit σ t := by
  cases h <;> exact Reader.run_blanks hblanks rfl t

/-- Behind some members of an object the reader stands where the next key may stand. Behind a comma
nothing can be closed there. -/
theorem along_membersBefore (hkept : ProperMembers kept) (hσ : AtKey fs done σ) :
    Along limit (fun _ => True)
      (fun σ' => (∃ done', AtKey fs done' σ') ∧
        (σ.phase.cut? = none ∨ kept ≠ [] → σ'.phase.cut? = none))
      σ (membersBefore kept) := by
  induction kept generalizing σ done with
  | nil => exact ⟨⟨done, hσ⟩, fun h => h.resolve_right fun hne => hne rfl⟩
  | cons member kept ih =>
    obtain ⟨hkey₁, hkey₂, hkey₃, hbefore, hinner, hafter, hkept⟩ := hkept
    have htext : membersBefore (member :: kept) =
        memberText member ++ CodePoint.scalar ',' :: membersBefore kept := by
      simp [membersBefore]
    rw [htext]
    refine ((along_member (alongDocument _ hinner) ⟨hkey₁, hkey₂, hkey₃⟩ hbefore hafter hσ).mono
      (fun _ _ => trivial) fun _ => id).append ?_
    intro σ₁ hσ₁ σ₂ hstep
    obtain ⟨v, -, rfl⟩ := hσ₁.nextMember hstep
    refine ⟨trivial, ?_⟩
    exact (ih hkept (.next _)).mono (fun _ => id) fun σ' h => ⟨h.1, fun _ => h.2 (.inl rfl)⟩

theorem exists_atKey_of_run (hgap : Blanks gap) (hkept : ProperMembers kept)
    (h : run limit ⟨fs, .value⟩ (CodePoint.scalar '\x7b' :: gap ++ membersBefore kept ++ t) =
      some σ) :
    ∃ σ₁ done, AtKey fs done σ₁ ∧ (kept ≠ [] → σ₁.phase.cut? = none) ∧
      run limit σ₁ t = some σ := by
  rw [List.append_assoc, List.cons_append] at h
  have hinside := run_curly h
  rw [run_blanks hgap rfl] at hinside
  obtain ⟨σ₁, ⟨⟨done, hσ₁⟩, hcut⟩, hrest⟩ := (along_membersBefore hkept .first).run_append hinside
  exact ⟨σ₁, done, hσ₁, fun hne => hcut (.inr hne), hrest⟩

theorem closesAt_nextMember (hgap : Blanks gap) (hkept : ProperMembers kept) (hne : kept ≠ [])
    (hblanks : Blanks blanks) :
    ClosesAt limit (CodePoint.scalar '\x7b' :: gap ++ membersBefore kept ++ blanks)
      .afterComma := by
  intro fs σ hrun
  obtain ⟨σ₁, done, hσ₁, hcut, hrest⟩ := exists_atKey_of_run hgap hkept hrun
  rw [← List.append_nil blanks, hσ₁.run_blanks hblanks] at hrest
  cases hrest
  simp [Stop.IsLost, hcut hne]

/-- Nothing can be closed from the quote of a key to before the first code point of its value. -/
theorem cut?_eq_none_of_key (hkey : ProperKey key) (hbefore : Blanks item.before)
    (hσ : AtKey fs done σ) (hrun : run limit σ (key.before ++ p) = some σ') (hne : p ≠ [])
    (hp : p <+: Atom.quotedText key.inner ++ (key.after ++ CodePoint.scalar ':' :: item.before)) :
    σ'.phase.cut? = none := by
  obtain ⟨hblanks, hatoms, hafter⟩ := hkey
  rw [hσ.run_blanks hblanks] at hrun
  have htext : Atom.quotedText key.inner ++ (key.after ++ CodePoint.scalar ':' :: item.before) =
      Atom.quotedText key.inner ++ (key.after ++ [CodePoint.scalar ':']) ++ item.before := by simp
  have halong : Along limit (CutsTo fs fun _ => False) (fun _ => True) σ
      (Atom.quotedText key.inner ++ (key.after ++ CodePoint.scalar ':' :: item.before)) := by
    rw [htext]
    refine (along_quotedKey hatoms hafter hσ).append ?_
    rintro _ rfl
    refine (along_blanks hbefore rfl ?_).mono (fun _ => id) fun _ _ => trivial
    exact (cutsTo_of_none (X := fun _ => False) rfl).outer fun _ h => h.elim
  obtain ⟨rest, hrest⟩ := hp
  rw [← hrest] at halong
  obtain ⟨_, -, hcut⟩ := (halong.of_run hrun).1 hne
  exact Option.eq_none_iff_forall_ne_some.mpr hcut

theorem closesAt_key {rest : Text} (hgap : Blanks gap) (hkept : ProperMembers kept)
    (hkey : ProperKey key) (hbefore : Blanks item.before) (hne : p ≠ [])
    (h : Atom.quotedText key.inner = p ++ rest) :
    ClosesAt limit (CodePoint.scalar '\x7b' :: gap ++ membersBefore kept ++ (key.before ++ p))
      .inKey := by
  intro fs σ hrun
  obtain ⟨σ₁, done, hσ₁, -, hrest⟩ := exists_atKey_of_run hgap hkept hrun
  have hp : p <+: Atom.quotedText key.inner ++
      (key.after ++ CodePoint.scalar ':' :: item.before) := by
    rw [h, List.append_assoc]
    exact List.prefix_append ..
  simp [Stop.IsLost, cut?_eq_none_of_key hkey hbefore hσ₁ hrest hne hp]

theorem closesAt_value (hgap : Blanks gap) (hkept : ProperMembers kept) (hkey : ProperKey key)
    (hbefore : Blanks item.before) (hp : p <+: key.after ++ CodePoint.scalar ':' :: item.before) :
    ClosesAt limit (CodePoint.scalar '\x7b' :: gap ++ membersBefore kept ++
      (key.before ++ Atom.quotedText key.inner ++ p)) .beforeValue := by
  intro fs σ hrun
  obtain ⟨σ₁, done, hσ₁, -, hrest⟩ := exists_atKey_of_run hgap hkept hrun
  rw [List.append_assoc key.before] at hrest
  have hne : Atom.quotedText key.inner ++ p ≠ [] := List.cons_ne_nil _ _
  simp [Stop.IsLost, cut?_eq_none_of_key hkey hbefore hσ₁ hrest hne
    ((List.prefix_append_right_inj _).mpr hp)]

theorem closesAt_member (hgap : Blanks gap) (hkept : ProperMembers kept) (hkey : ProperKey key)
    (hbefore : Blanks item.before) (ih : ClosesAt limit p stop) :
    ClosesAt limit (CodePoint.scalar '\x7b' :: gap ++ membersBefore kept ++
      (keyText key ++ CodePoint.scalar ':' :: item.before ++ p)) stop := by
  intro fs σ hrun
  obtain ⟨σ₁, done, hσ₁, -, hrest⟩ := exists_atKey_of_run hgap hkept hrun
  have htext : keyText key ++ CodePoint.scalar ':' :: item.before ++ p =
      key.before ++ (Atom.quotedText key.inner ++ (key.after ++ [CodePoint.scalar ':']) ++
        (item.before ++ p)) := by simp [keyText]
  rw [htext, hσ₁.run_blanks hkey.1] at hrest
  obtain ⟨_, rfl, hvalue⟩ := (along_quotedKey hkey.2.1 hkey.2.2 hσ₁).run_append hrest
  rw [run_blanks hbefore rfl] at hvalue
  exact ih _ σ hvalue

end Members

/-! ## All places -/

/-- What is open where a beginning of a document stops can be closed unless the stop is lost. -/
theorem closesAt (h : d.StopsAt after p stop) (proper : d.Proper) (hafter : Blanks after)
    (hvalue : d.value?.isSome) : ClosesAt limit p stop := by
  induction h with
  | complete hrest => exact closesAt_complete proper hvalue fun c hc => hafter c (hrest.subset hc)
  | word h hkept hlost => exact closesAt_word h hkept hlost
  | number hkept => exact closesAt_number proper hkept
  | string kept lost => exact closesAt_string (List.forall_mem_append.mp proper).1
  | backslash kept lost => exact closesAt_backslash (List.forall_mem_append.mp proper).1
  | hex kept digits lost hrest =>
    obtain ⟨hkept, hlost⟩ := List.forall_mem_append.mp proper
    exact closesAt_hex hkept (List.forall_mem_cons.mp hlost).1 hrest
  | openedArray hblanks => exact closesAt_openedArray hblanks
  | nextItem lost hne h =>
    obtain ⟨hkept, hitem⟩ := properItems_split proper.2
    exact closesAt_nextItem proper.1 hkept hne fun c hc => hitem.1 c (h.subset hc)
  | item kept lost h ih =>
    obtain ⟨hkept, hitem⟩ := properItems_split proper.2
    have hinner := isSome_value?_array.mp hvalue _ List.mem_append_cons_self
    exact closesAt_item proper.1 hkept hitem h (ih hitem.2.1 hitem.2.2 hinner)
  | openedObject hblanks => exact closesAt_openedObject hblanks
  | nextMember lost hne h =>
    obtain ⟨hkept, hkey, -⟩ := properMembers_split proper.2
    exact closesAt_nextMember proper.1 hkept hne fun c hc => hkey.1 c (h.subset hc)
  | key kept lost hne hrest h =>
    obtain ⟨hkept, hkey, hitem⟩ := properMembers_split proper.2
    exact closesAt_key proper.1 hkept hkey hitem.1 hne h
  | value kept lost h =>
    obtain ⟨hkept, hkey, hitem⟩ := properMembers_split proper.2
    exact closesAt_value proper.1 hkept hkey hitem.1 h
  | member kept lost h ih =>
    obtain ⟨hkept, hkey, hitem⟩ := properMembers_split proper.2
    have hinner := isSome_value?_object.mp hvalue _ List.mem_append_cons_self
    exact closesAt_member proper.1 hkept hkey hitem.1 (ih hitem.2.1 hitem.2.2 hinner)

end Reader

end AgentPanel.Json
