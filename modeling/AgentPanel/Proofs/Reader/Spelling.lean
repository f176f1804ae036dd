import AgentPanel.Proofs.Document.Parts
import AgentPanel.Proofs.Reader.Move
import AgentPanel.Proofs.Reader.Strings

/-!
# Every accepted text is a document

A state of the reader is spelled by a text if the text, cut at the openings of the containers around
the current value, shows the values that the frames hold and the phase. Every move keeps this
(`Move.spelled`), so at the end of an accepted text stands a document with this text and the value
that the reader gives: `exists_document_of_decodeWithin?`.
-/

namespace AgentPanel.Json

open Document (ProperItems ProperMembers ProperKey itemValues? memberValues? itemsBefore
  membersBefore keyText)

/-- The document and blanks around it make up the text. -/
def Document.Spells (d : Document) (t : Text) : Prop :=
  d.Proper ∧ ∃ before after : Text,
    Document.Blanks before ∧ Document.Blanks after ∧ t = before ++ d.text ++ after

namespace Reader

open Document (Blanks)

variable {limit : Nat}

theorem blanks_nil : Blanks [] := by simp [Blanks]

theorem blanks_concat {t : Text} {c : CodePoint} (h : Blanks t) (hc : isSpace c) :
    Blanks (t ++ [c]) := by
  intro d hd
  rcases List.mem_append.mp hd with hd | hd
  · exact h d hd
  · rwa [List.mem_singleton.mp hd]

/-! ## Spelled states -/

/-- An object up to one of its commas, or up to its opening brace. -/
def SpelledMembers (held : Members) (t : Text) : Prop :=
  ∃ (gap : Text) (members : List (Spaced (List Atom) × Spaced Document)),
    Blanks gap ∧ ProperMembers members ∧ memberValues? [] members = some held ∧
      t = CodePoint.scalar '\x7b' :: gap ++ membersBefore members

/-- An array up to one of its commas, or up to its opening bracket. -/
def SpelledItems (held : List Value) (t : Text) : Prop :=
  ∃ (gap : Text) (items : List (Spaced Document)),
    Blanks gap ∧ ProperItems items ∧ itemValues? items = some held.reverse ∧
      t = CodePoint.scalar '[' :: gap ++ itemsBefore items

/-- The text opens the containers and goes up to where a value of the innermost one may stand. -/
inductive SpelledFrames : List Frame → Text → Prop
  | outermost {before : Text} (hbefore : Blanks before) : SpelledFrames [] before
  | array {outer : List Frame} {held : List Value} {start items before t : Text}
      (houter : SpelledFrames outer start) (hitems : SpelledItems held items)
      (hbefore : Blanks before) (ht : t = start ++ (items ++ before)) :
      SpelledFrames (.array held :: outer) t
  | object {outer : List Frame} {held : Members} {key : Text} {start members before t : Text}
      {spaced : Spaced (List Atom)} (houter : SpelledFrames outer start)
      (hmembers : SpelledMembers held members) (hspaced : ProperKey spaced)
      (hkey : key = Atom.points spaced.inner) (hbefore : Blanks before)
      (ht : t = start ++ (members ++ keyText spaced ++ CodePoint.scalar ':' :: before)) :
      SpelledFrames (.object held key :: outer) t

/-- The text of the current value, as far as it has been read. -/
inductive SpelledPhase : Phase → Text → Prop
  | value : SpelledPhase .value []
  | firstItem {gap : Text} (hgap : Blanks gap) :
      SpelledPhase .firstItem (CodePoint.scalar '[' :: gap)
  | firstKey {gap : Text} (hgap : Blanks gap) :
      SpelledPhase .firstKey (CodePoint.scalar '\x7b' :: gap)
  | nextKey {held : Members} {members before : Text} (hmembers : SpelledMembers held members)
      (hbefore : Blanks before) : SpelledPhase (.nextKey held) (members ++ before)
  | inKey {held : Members} {members before t : Text} {s : StringState}
      (hmembers : SpelledMembers held members) (hbefore : Blanks before) (hs : s.Spelled t) :
      SpelledPhase (.inKey held s) (members ++ before ++ CodePoint.scalar '"' :: t)
  | colon {held : Members} {key members : Text} {spaced : Spaced (List Atom)}
      (hmembers : SpelledMembers held members) (hspaced : ProperKey spaced)
      (hkey : key = Atom.points spaced.inner) :
      SpelledPhase (.colon held key) (members ++ keyText spaced)
  | inString {s : StringState} {t : Text} (hs : s.Spelled t) :
      SpelledPhase (.inString s) (CodePoint.scalar '"' :: t)
  | inNumber {literal t : Text} {stage : NumberStage} (ht : t = literal.reverse)
      (hstage : NumberStage.ofText? t = some stage) : SpelledPhase (.inNumber literal stage) t
  | inWord {t rest : Text} (w : Word) (hw : w.text = t ++ rest) :
      SpelledPhase (.inWord rest w.value) t
  | after {d : Document} {v : Value} {after : Text} (hd : d.Proper) (hv : d.value? = some v)
      (hafter : Blanks after) : SpelledPhase (.after v) (d.text ++ after)

/-- The text that has been read shows the state. -/
def State.Spelled (σ : State) (t : Text) : Prop :=
  ∃ start rest : Text, SpelledFrames σ.frames start ∧ SpelledPhase σ.phase rest ∧ t = start ++ rest

/-! ## Moves -/

theorem spelledMembers_nil {gap : Text} (h : Blanks gap) :
    SpelledMembers [] (CodePoint.scalar '\x7b' :: gap) :=
  ⟨gap, [], h, trivial, rfl, by simp [membersBefore]⟩

theorem spelledItems_nil {gap : Text} (h : Blanks gap) :
    SpelledItems [] (CodePoint.scalar '[' :: gap) :=
  ⟨gap, [], h, trivial, rfl, by simp [itemsBefore]⟩

theorem SpelledFrames.blank {frames : List Frame} {t : Text} {c : CodePoint}
    (h : SpelledFrames frames t) (hc : isSpace c) : SpelledFrames frames (t ++ [c]) := by
  cases h with
  | outermost hbefore => exact .outermost (blanks_concat hbefore hc)
  | array houter hitems hbefore ht =>
    exact .array houter hitems (blanks_concat hbefore hc) (by simp [ht])
  | object houter hmembers hspaced hkey hbefore ht =>
    exact .object houter hmembers hspaced hkey (blanks_concat hbefore hc) (by simp [ht])

theorem Begins.spelled {frames : List Frame} {c : CodePoint} {σ : State} {t : Text}
    (h : Begins limit frames c σ) (hframes : SpelledFrames frames t) : σ.Spelled (t ++ [c]) := by
  cases h with
  | string => exact ⟨t, _, hframes, .inString StringState.spelled_start, rfl⟩
  | array => exact ⟨t, _, hframes, .firstItem blanks_nil, rfl⟩
  | object => exact ⟨t, _, hframes, .firstKey blanks_nil, rfl⟩
  | number first =>
    exact ⟨t, _, hframes, .inNumber rfl (by simp [NumberStage.ofText?, first]), rfl⟩
  | word w spelled => exact ⟨t, _, hframes, .inWord w spelled, rfl⟩

/-! ### One more item or member -/

section Extend

variable {d : Document} {v : Value} {before after : Text}

theorem SpelledItems.next {held : List Value} {t : Text} (h : SpelledItems held t)
    (hbefore : Blanks before) (hd : d.Proper) (hv : d.value? = some v) (hafter : Blanks after) :
    SpelledItems (v :: held) (t ++ before ++ d.text ++ after ++ [CodePoint.scalar ',']) := by
  obtain ⟨gap, items, hgap, hitems, hvalues, rfl⟩ := h
  refine ⟨gap, items ++ [⟨before, d, after⟩], hgap, ?_, ?_, ?_⟩
  · exact Document.properItems_concat hitems hbefore hd hafter
  · rw [List.reverse_cons]
    exact Document.itemValues?_concat hvalues hv
  · simp [itemsBefore, Document.itemText]

theorem SpelledItems.close {held : List Value} {t : Text} (h : SpelledItems held t)
    (hbefore : Blanks before) (hd : d.Proper) (hv : d.value? = some v) (hafter : Blanks after) :
    ∃ d' : Document, d'.Proper ∧ d'.value? = some (.array (v :: held).reverse) ∧
      t ++ before ++ d.text ++ after ++ [CodePoint.scalar ']'] = d'.text := by
  obtain ⟨gap, items, hgap, hitems, hvalues, rfl⟩ := h
  refine ⟨.array gap (items ++ [⟨before, d, after⟩]), ⟨hgap, ?_⟩, ?_, ?_⟩
  · exact Document.properItems_concat hitems hbefore hd hafter
  · rw [Document.value?, Document.itemValues?_concat hvalues hv, List.reverse_cons]
    rfl
  · simp [Document.text, Document.itemsText_concat, Document.itemText]

theorem SpelledMembers.next {held : Members} {t : Text} {key : Spaced (List Atom)}
    (h : SpelledMembers held t) (hkey : ProperKey key) (hbefore : Blanks before) (hd : d.Proper)
    (hv : d.value? = some v) (hafter : Blanks after) :
    SpelledMembers (held.set (Atom.points key.inner) v)
      (t ++ keyText key ++ CodePoint.scalar ':' :: before ++ d.text ++ after ++
        [CodePoint.scalar ',']) := by
  obtain ⟨gap, members, hgap, hmembers, hvalues, rfl⟩ := h
  refine ⟨gap, members ++ [(key, ⟨before, d, after⟩)], hgap, ?_, ?_, ?_⟩
  · exact Document.properMembers_concat hmembers hkey hbefore hd hafter
  · exact Document.memberValues?_concat hvalues hv
  · simp [membersBefore, Document.memberText, Document.itemText]

theorem SpelledMembers.close {held : Members} {t : Text} {key : Spaced (List Atom)}
    (h : SpelledMembers held t) (hkey : ProperKey key) (hbefore : Blanks before) (hd : d.Proper)
    (hv : d.value? = some v) (hafter : Blanks after) :
    ∃ d' : Document, d'.Proper ∧
      d'.value? = some (.object (held.set (Atom.points key.inner) v)) ∧
      t ++ keyText key ++ CodePoint.scalar ':' :: before ++ d.text ++ after ++
        [CodePoint.scalar '\x7d'] = d'.text := by
  obtain ⟨gap, members, hgap, hmembers, hvalues, rfl⟩ := h
  refine ⟨.object gap (members ++ [(key, ⟨before, d, after⟩)]), ⟨hgap, ?_⟩, ?_, ?_⟩
  · exact Document.properMembers_concat hmembers hkey hbefore hd hafter
  · rw [Document.value?, Document.memberValues?_concat hvalues hv]
    rfl
  · simp [Document.text, Document.membersText_concat, Document.memberText, Document.itemText]

end Extend

/-! ### Literals of numbers -/

theorem ofText?_concat {t : Text} {stage stage' : NumberStage} {c : CodePoint}
    (h : NumberStage.ofText? t = some stage) (hc : stage.next? c = some stage') :
    NumberStage.ofText? (t ++ [c]) = some stage' := by
  cases t with
  | nil => cases h
  | cons d t =>
    obtain ⟨first, hfirst, hrest⟩ := Option.bind_eq_some_iff.mp h
    simp [NumberStage.ofText?, hfirst, hrest, hc]

/-- Only a minus sign leaves a literal without a digit. -/
theorem eq_minus_of_ofText?_sign {t : Text} (h : NumberStage.ofText? t = some .sign) :
    t = [CodePoint.scalar '-'] := by
  have hnext : ∀ (stage : NumberStage) (c : CodePoint), stage.next? c ≠ some .sign := by
    intro stage c
    cases stage <;> simp only [NumberStage.next?] <;> (repeat' split) <;> simp
  cases t with
  | nil => cases h
  | cons c t =>
    obtain ⟨first, hfirst, hrest⟩ := Option.bind_eq_some_iff.mp h
    rcases t.eq_nil_or_concat with rfl | ⟨init, last, rfl⟩
    · cases hrest
      unfold NumberStage.first? at hfirst
      split at hfirst
      · subst c; rfl
      · exact absurd hfirst (hnext _ _)
    · rw [List.concat_eq_append, List.foldlM_append] at hrest
      obtain ⟨stage, -, hlast⟩ := Option.bind_eq_some_iff.mp hrest
      simp only [List.foldlM_cons, List.foldlM_nil, Option.bind_eq_bind] at hlast
      obtain ⟨stage', hstage', heq⟩ := Option.bind_eq_some_iff.mp hlast
      cases heq
      exact absurd hstage' (hnext _ _)

theorem exists_stage_of_isNumber {t : Text} (h : isNumber t) :
    ∃ stage, NumberStage.ofText? t = some stage ∧ stage.isComplete := by
  cases hread : NumberStage.ofText? t with
  | none => simp [isNumber, hread] at h
  | some stage => exact ⟨stage, rfl, by simpa [isNumber, hread] using h⟩

theorem isNumber_of_ofText? {t : Text} {stage : NumberStage}
    (h : NumberStage.ofText? t = some stage) (hcomplete : stage.isComplete) : isNumber t := by
  simp [isNumber, h, hcomplete]

/-! ### All moves -/

theorem Follows.spelled {frames : List Frame} {c : CodePoint} {σ : State} {d : Document} {v : Value}
    {start after : Text} (h : Follows v frames c σ) (hframes : SpelledFrames frames start)
    (hd : d.Proper) (hv : d.value? = some v) (hafter : Blanks after) :
    σ.Spelled (start ++ (d.text ++ after) ++ [c]) := by
  cases h with
  | blank space =>
    exact ⟨start, _, hframes, .after hd hv (blanks_concat hafter space), by simp⟩
  | nextItem =>
    obtain _ | ⟨houter, hitems, hbefore, rfl⟩ := hframes
    exact ⟨_, [], .array houter (hitems.next hbefore hd hv hafter) blanks_nil rfl, .value, by simp⟩
  | endArray =>
    obtain _ | ⟨houter, hitems, hbefore, rfl⟩ := hframes
    obtain ⟨d', hd', hv', ht⟩ := hitems.close hbefore hd hv hafter
    exact ⟨_, _, houter, .after hd' hv' blanks_nil, by simp [← ht]⟩
  | nextMember =>
    obtain _ | _ | ⟨houter, hmembers, hspaced, rfl, hbefore, rfl⟩ := hframes
    exact ⟨_, _, houter,
      .nextKey (hmembers.next hspaced hbefore hd hv hafter) blanks_nil, by simp⟩
  | endObject =>
    obtain _ | _ | ⟨houter, hmembers, hspaced, rfl, hbefore, rfl⟩ := hframes
    obtain ⟨d', hd', hv', ht⟩ := hmembers.close hspaced hbefore hd hv hafter
    exact ⟨_, _, houter, .after hd' hv' blanks_nil, by simp [← ht]⟩

theorem Move.spelled {σ σ' : State} {c : CodePoint} {t : Text} (h : Move limit σ c σ')
    (hσ : σ.Spelled t) : σ'.Spelled (t ++ [c]) := by
  obtain ⟨start, rest, hframes, hphase, rfl⟩ := hσ
  cases h with
  | blank space loose =>
    cases hphase with
    | value => exact ⟨start ++ [c], [], hframes.blank space, .value, by simp⟩
    | firstItem hgap => exact ⟨start, _, hframes, .firstItem (blanks_concat hgap space), by simp⟩
    | firstKey hgap => exact ⟨start, _, hframes, .firstKey (blanks_concat hgap space), by simp⟩
    | nextKey hmembers hbefore =>
      exact ⟨start, _, hframes, .nextKey hmembers (blanks_concat hbefore space), by simp⟩
    | @colon held key members spaced hmembers hspaced hkey =>
      have hspaced' : ProperKey ⟨spaced.before, spaced.inner, spaced.after ++ [c]⟩ :=
        ⟨hspaced.1, hspaced.2.1, blanks_concat hspaced.2.2 space⟩
      exact ⟨start, _, hframes, .colon hmembers hspaced' hkey, by simp [keyText]⟩
    | _ => cases loose
  | value begins =>
    cases hphase
    rw [List.append_nil]
    exact begins.spelled hframes
  | firstItem begins =>
    obtain _ | hgap := hphase
    exact begins.spelled (.array hframes (spelledItems_nil hgap) blanks_nil (by simp))
  | noItem =>
    cases hphase with
    | @firstItem gap hgap =>
      have hd : (Document.array gap []).Proper := ⟨hgap, trivial⟩
      exact ⟨start, _, hframes, .after hd rfl blanks_nil,
        by simp [Document.text, Document.itemsText]⟩
  | firstKey =>
    cases hphase with
    | firstKey hgap =>
      exact ⟨start, _, hframes,
        .inKey (spelledMembers_nil hgap) blanks_nil StringState.spelled_start, by simp⟩
  | noMember =>
    cases hphase with
    | @firstKey gap hgap =>
      have hd : (Document.object gap []).Proper := ⟨hgap, trivial⟩
      exact ⟨start, _, hframes, .after hd rfl blanks_nil,
        by simp [Document.text, Document.membersText]⟩
  | nextKey =>
    cases hphase with
    | nextKey hmembers hbefore =>
      exact ⟨start, _, hframes, .inKey hmembers hbefore StringState.spelled_start, by simp⟩
  | keyGoesOn goesOn =>
    cases hphase with
    | inKey hmembers hbefore hs =>
      exact ⟨start, _, hframes, .inKey hmembers hbefore (StringState.spelled_of_goesOn hs goesOn),
        by simp⟩
  | keyEnds ends =>
    cases hphase with
    | @inKey held members before t s hmembers hbefore hs =>
      obtain ⟨atoms, hatoms, hkey, ht⟩ := StringState.spelled_of_ends hs ends
      have hspaced : ProperKey ⟨before, atoms, []⟩ := ⟨hbefore, hatoms, blanks_nil⟩
      exact ⟨start, _, hframes, .colon hmembers hspaced hkey, by simp [keyText, ← ht]⟩
  | colon =>
    cases hphase with
    | colon hmembers hspaced hkey =>
      exact ⟨_, [], .object hframes hmembers hspaced hkey blanks_nil rfl, .value, by simp⟩
  | stringGoesOn goesOn =>
    cases hphase with
    | inString hs =>
      exact ⟨start, _, hframes, .inString (StringState.spelled_of_goesOn hs goesOn), by simp⟩
  | stringEnds ends =>
    cases hphase with
    | inString hs =>
      obtain ⟨atoms, hatoms, hvalue, ht⟩ := StringState.spelled_of_ends hs ends
      have hd : (Document.string atoms).Proper := hatoms
      exact ⟨start, _, hframes, .after hd (by rw [hvalue]; rfl) blanks_nil,
        by simp [Document.text, ← ht]⟩
  | digit next =>
    cases hphase with
    | inNumber ht hstage =>
      exact ⟨start, _, hframes, .inNumber (by simp [ht]) (ofText?_concat hstage next), by simp⟩
  -- the literal is a document from here on
  | numberEnds complete value follows =>
    cases hphase with
    | inNumber ht hstage =>
      have hd : (Document.number rest).Proper := isNumber_of_ofText? hstage complete
      have := follows.spelled hframes hd (by rw [ht]; exact value) blanks_nil
      rwa [List.append_nil] at this
  | minusInfinity =>
    cases hphase with
    | inNumber ht hstage =>
      rw [eq_minus_of_ofText?_sign hstage]
      exact ⟨start, "-I", hframes, .inWord .negativeInfinity rfl, by simp [Text.ofString]⟩
  | letter =>
    cases hphase with
    | inWord w hw => exact ⟨start, rest ++ [c], hframes, .inWord w (by simp [hw]), by simp⟩
  | lastLetter =>
    cases hphase with
    | inWord w hw =>
      have hd : (Document.word w).Proper := trivial
      exact ⟨start, _, hframes, .after hd rfl blanks_nil, by simp [Document.text, hw]⟩
  | after follows =>
    cases hphase with
    | after hd hv hafter => exact follows.spelled hframes hd hv hafter

/-! ## Accepted texts -/

theorem spelled_of_run {t : Text} {σ : State} (h : run limit .start t = some σ) : σ.Spelled t := by
  have hstart : State.start.Spelled [] := ⟨[], [], .outermost blanks_nil, .value, rfl⟩
  exact run_induction (motive := fun t σ => σ.Spelled t) (s := []) h hstart
    fun _ _ _ _ hσ hmove => hmove.spelled hσ

/-- An accepted text is the text of a document with the value that has been read. -/
theorem exists_document_of_decodeWithin? {t : Text} {v : Value}
    (h : decodeWithin? limit t = some v) :
    ∃ d : Document, d.Spells t ∧ d.value? = some v := by
  obtain ⟨σ, hrun, hfinish⟩ := Option.bind_eq_some_iff.mp h
  obtain ⟨start, rest, hframes, hphase, rfl⟩ := spelled_of_run hrun
  obtain ⟨frames, phase⟩ := σ
  cases hframes with
  | outermost hbefore =>
    cases hphase with
    | after hd hv hafter =>
      cases hfinish
      exact ⟨_, ⟨hd, start, _, hbefore, hafter, by simp⟩, hv⟩
    | @inNumber literal _ stage ht hstage =>
      have hcomplete : stage.isComplete ∧ numberValue? literal.reverse = some v := by
        simpa [State.finish?] using hfinish
      refine ⟨.number rest, ⟨isNumber_of_ofText? hstage hcomplete.1, start, [], hbefore,
        blanks_nil, by simp [Document.text]⟩, ?_⟩
      rw [ht]
      exact hcomplete.2
    | _ => cases hfinish
  | array => cases hfinish
  | object => cases hfinish

end Reader

end AgentPanel.Json
