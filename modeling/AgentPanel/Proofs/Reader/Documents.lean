import AgentPanel.Proofs.Reader.Along

/-!
# Reading along a document

A document is read along by recursion over its structure. `AlongDocument` says of a document, in
whatever containers it stands, that every cut inside it comes to one of its truncations and that the
reader holds its value behind it. `AlongItems` and `AlongMembers` say so of the items of an array
and the members of an object, behind the ones that have been read before them. `alongDocument` is
the recursion, one lemma per constructor.
-/

namespace AgentPanel.Json

open Document (Blanks ProperItems ProperMembers ProperKey itemText keyText memberText itemsText
  membersText itemValues? memberValues? DistinctKeysItems DistinctKeysMembers ItemsTruncation
  MembersTruncation)

/-! ## Distinct keys -/

theorem Keyed.set_of_not_mem {α : Type} {key : Text} {values : Keyed α} (a : α)
    (h : key ∉ values.keys) : values.set key a = values ++ [(key, a)] := by
  induction values with
  | nil => rfl
  | cons first values ih =>
    obtain ⟨k, b⟩ := first
    have hne : k ≠ key := by
      rintro rfl
      exact h (List.mem_cons_self ..)
    have hrest : key ∉ Keyed.keys values := fun hmem => h (List.mem_cons_of_mem _ hmem)
    rw [Keyed.set, if_neg hne, ih hrest]
    rfl

namespace Reader

variable {limit : Nat} {fs : List Frame} {σ σ' : State} {d : Document} {c : CodePoint} {t : Text}

/-! ## One document -/

/-- Closed where it stands inside the given containers, the state comes to a truncation of the
document. -/
def CutsDocument (fs : List Frame) (d : Document) : State → Prop :=
  CutsTo fs fun w => d.DistinctKeys → Document.Truncation w d

/-- The reader stands behind the document inside the given containers. A number may still go on. -/
inductive Reads (fs : List Frame) (d : Document) : State → Prop
  | whole {v : Value} (hv : d.value? = some v) : Reads fs d ⟨fs, .after v⟩
  | number {literal : Text} {stage : NumberStage} (hd : d = .number literal)
      (complete : stage.isComplete) : Reads fs d ⟨fs, .inNumber literal.reverse stage⟩

/-- Reading along the text of a document, from where a value has to start to behind it. -/
def AlongDocument (limit : Nat) (d : Document) : Prop :=
  ∀ fs, Along limit (CutsDocument fs d) (Reads fs d) ⟨fs, .value⟩ d.text

/-- No value goes on with the code point. -/
def EndsValue (c : CodePoint) : Prop := isSpace c ∨ c = ',' ∨ c = ']' ∨ c = '\x7d'

theorem EndsValue.next? (h : EndsValue c) (stage : NumberStage) : stage.next? c = none := by
  simp only [EndsValue, isSpace, decide_eq_true_eq] at h
  rcases h with (rfl | rfl | rfl | rfl) | rfl | rfl | rfl <;> cases stage <;> rfl

/-- Behind a document only what may follow its value is accepted. -/
theorem Reads.follows (h : Reads fs d σ) (hc : EndsValue c) (hstep : step limit σ c = some σ') :
    ∃ v, d.value? = some v ∧ Follows v fs c σ' := by
  cases h with
  | whole hv => exact ⟨_, hv, follows_of_afterValue hstep⟩
  | number hd complete =>
    subst d
    cases move_of_step hstep with
    | blank space loose => cases loose
    | digit next =>
      rw [hc.next?] at next
      cases next
    | numberEnds _ value follows =>
      rw [List.reverse_reverse] at value
      exact ⟨_, value, follows⟩
    | minusInfinity => cases complete

theorem Reads.nextItem {held : List Value} (h : Reads (.array held :: fs) d σ)
    (hstep : step limit σ ',' = some σ') :
    ∃ v, d.value? = some v ∧ σ' = ⟨.array (v :: held) :: fs, .value⟩ := by
  obtain ⟨v, hv, hfollows⟩ := h.follows (.inr (.inl rfl)) hstep
  cases hfollows with
  | blank space => cases space
  | nextItem => exact ⟨v, hv, rfl⟩

theorem Reads.nextMember {held : Members} {key : Text} (h : Reads (.object held key :: fs) d σ)
    (hstep : step limit σ ',' = some σ') :
    ∃ v, d.value? = some v ∧ σ' = ⟨fs, .nextKey (held.set key v)⟩ := by
  obtain ⟨v, hv, hfollows⟩ := h.follows (.inr (.inl rfl)) hstep
  cases hfollows with
  | blank space => cases space
  | nextMember => exact ⟨v, hv, rfl⟩

theorem cutsDocument_after {v : Value} (hv : d.value? = some v) :
    CutsDocument fs d ⟨fs, .after v⟩ := by
  apply cutsTo_of_cut?
  intro w hw _
  cases hw
  exact .whole hv

theorem along_blanksAfter (hblanks : Blanks t) (h : Reads fs d σ) :
    Along limit (CutsDocument fs d) (Reads fs d) σ t := by
  induction t generalizing σ with
  | nil => exact h
  | cons c t ih =>
    obtain ⟨space, hrest⟩ := List.forall_mem_cons.mp hblanks
    intro σ' hstep
    obtain ⟨v, hv, hfollows⟩ := h.follows (.inl space) hstep
    cases hfollows with
    | blank => exact ⟨cutsDocument_after hv, ih hrest (.whole hv)⟩
    | _ => cases space

/-- A document with the blanks behind it. -/
theorem AlongDocument.blanksAfter (h : AlongDocument limit d) {after : Text}
    (hafter : Blanks after) :
    Along limit (CutsDocument fs d) (Reads fs d) ⟨fs, .value⟩ (d.text ++ after) :=
  (h fs).append fun _ => along_blanksAfter hafter

/-- A document with the blanks around it. -/
theorem AlongDocument.blanks (h : AlongDocument limit d) {before after : Text}
    (hbefore : Blanks before) (hafter : Blanks after) :
    Along limit (CutsDocument fs d) (Reads fs d) ⟨fs, .value⟩ (before ++ (d.text ++ after)) := by
  refine (along_blanks hbefore rfl (cutsTo_of_none rfl)).append ?_
  rintro _ rfl
  exact h.blanksAfter hafter

/-! ### Words, numbers and strings -/

theorem alongDocument_word (w : Word) : AlongDocument limit (.word w) := by
  intro fs
  have hwhole : Document.Truncation w.value (.word w) := .whole rfl
  refine (along_word w fun _ => hwhole).mono (fun _ => id) ?_
  rintro _ rfl
  exact .whole rfl

theorem alongDocument_number {literal : Text} (h : isNumber literal) :
    AlongDocument limit (.number literal) := by
  intro fs
  obtain ⟨stage, hread, complete⟩ := exists_stage_of_isNumber h
  refine (along_number hread ?_).mono (fun _ => id) ?_
  · rintro kept lost w rfl hkept hvalue -
    exact .number hkept hvalue
  · rintro _ rfl
    exact .number rfl complete

theorem alongDocument_string {atoms : List Atom} (proper : ∀ a ∈ atoms, a.Proper) :
    AlongDocument limit (.string atoms) := by
  intro fs
  have hcut : ∀ σ, CutsToText (fun s => ⟨fs, .inString s⟩) atoms σ →
      CutsDocument fs (.string atoms) σ := by
    rintro _ ⟨s, rfl, hs⟩
    apply cutsTo_of_cut?
    intro w hw _
    obtain ⟨t, ht, rfl⟩ := Option.map_eq_some_iff.mp hw
    exact .string (hs t ht)
  have hstart : CutsDocument fs (.string atoms) ⟨fs, .inString .start⟩ :=
    hcut _ (cutsToText_ofAtoms [] atoms)
  have hstep : step limit ⟨fs, .value⟩ '"' = some ⟨fs, .inString .start⟩ := rfl
  refine .cons hstep hstart ?_
  refine (along_quoted quotes_inString atoms proper hcut (cutsDocument_after rfl)).mono
    (fun _ => id) ?_
  rintro _ rfl
  exact .whole rfl

/-! ## The items of an array -/

/-- The reader stands in an array behind the given items, where the next one may stand. -/
inductive AtItem (fs : List Frame) : List Value → State → Prop
  | first : AtItem fs [] ⟨fs, .firstItem⟩
  | next (done : List Value) : AtItem fs done ⟨.array done.reverse :: fs, .value⟩

theorem atItem_concat (done : List Value) (v : Value) :
    AtItem fs (done ++ [v]) ⟨.array (v :: done.reverse) :: fs, .value⟩ := by
  rw [← List.reverse_concat]
  exact .next _

/-- Reading along the last items of an array and its closing bracket. -/
def AlongItems (limit : Nat) (items : List (Spaced Document)) : Prop :=
  ∀ fs done σ, AtItem fs done σ →
    Along limit
      (CutsTo fs fun w => DistinctKeysItems items →
        ∃ vs, w = .array (done ++ vs) ∧ ItemsTruncation vs items)
      (fun σ' => ∃ vs, itemValues? items = some vs ∧ σ' = ⟨fs, .after (.array (done ++ vs))⟩)
      σ (itemsText items ++ [CodePoint.scalar ']'])

/-- Where the first item of an array may stand, a document is read as at any other item. -/
theorem step_firstItem (hspace : isSpace c = false) (hclose : c ≠ ']') :
    step limit ⟨fs, .firstItem⟩ c = step limit ⟨.array [] :: fs, .value⟩ c := by
  simp [step, hspace, hclose]

theorem exists_text_eq_cons (proper : d.Proper) :
    ∃ c t, d.text = c :: t ∧ isSpace c = false ∧ c ≠ ']' := by
  cases d with
  | word w => cases w <;> exact ⟨_, _, rfl, by decide, by decide⟩
  | number literal =>
    obtain ⟨stage, hread, -⟩ := exists_stage_of_isNumber proper
    cases literal with
    | nil => cases hread
    | cons c rest =>
      obtain ⟨first, hfirst, -⟩ := Option.bind_eq_some_iff.mp hread
      refine ⟨c, rest, rfl, isSpace_of_first? hfirst, ?_⟩
      rintro rfl
      cases hfirst
  | string atoms => exact ⟨_, _, rfl, by decide, by decide⟩
  | array gap items => exact ⟨_, _, rfl, by decide, by decide⟩
  | object gap members => exact ⟨_, _, rfl, by decide, by decide⟩

/-- What an array comes to that is cut before the end of one of its items. -/
def CutsItem (fs : List Frame) (done : List Value) (item : Spaced Document) : State → Prop :=
  CutsTo fs fun w => w = .array done ∨
    ∃ u, w = .array (done ++ [u]) ∧ (item.inner.DistinctKeys → Document.Truncation u item.inner)

theorem along_item {item : Spaced Document} {done : List Value}
    (hitem : AlongDocument limit item.inner) (proper : item.inner.Proper)
    (hbefore : Blanks item.before) (hafter : Blanks item.after) (hσ : AtItem fs done σ) :
    Along limit (CutsItem fs done item) (Reads (.array done.reverse :: fs) item.inner) σ
      (itemText item) := by
  rw [itemText, List.append_assoc]
  cases hσ with
  | next =>
    refine (hitem.blanks hbefore hafter).of_inner fun u hu => ?_
    exact .inr ⟨u, by simp [Frame.close], hu⟩
  | first =>
    have hnothing : CutsItem fs [] item ⟨fs, .firstItem⟩ := by
      apply cutsTo_of_cut?
      intro w hw
      cases hw
      exact .inl rfl
    refine (along_blanks hbefore rfl hnothing).append ?_
    rintro _ rfl
    have hinner : Along limit (CutsItem fs [] item) (Reads (.array [] :: fs) item.inner)
        ⟨.array [] :: fs, .value⟩ (item.inner.text ++ item.after) :=
      (hitem.blanksAfter hafter).of_inner fun u hu => .inr ⟨u, rfl, hu⟩
    -- the reader enters the array with the first code point of its first item
    obtain ⟨c, t, htext, hspace, hclose⟩ := exists_text_eq_cons proper
    rw [htext, List.cons_append] at hinner ⊢
    intro σ' hstep
    rw [step_firstItem hspace hclose] at hstep
    exact hinner σ' hstep

theorem itemsTruncation_of_cut {item : Spaced Document} {items : List (Spaced Document)}
    {done : List Value} {w : Value} (distinct : DistinctKeysItems (item :: items))
    (hw : w = .array done ∨ ∃ u, w = .array (done ++ [u]) ∧
      (item.inner.DistinctKeys → Document.Truncation u item.inner)) :
    ∃ vs, w = .array (done ++ vs) ∧ ItemsTruncation vs (item :: items) := by
  rcases hw with rfl | ⟨u, rfl, hu⟩
  · exact ⟨[], by simp, .lost _⟩
  · exact ⟨[u], rfl, .last (hu distinct.1) items⟩

theorem alongItems_singleton {item : Spaced Document} (hitem : AlongDocument limit item.inner)
    (proper : ProperItems [item]) : AlongItems limit [item] := by
  intro fs done σ hσ
  obtain ⟨hbefore, hinner, hafter, -⟩ := proper
  rw [Document.itemsText_singleton]
  refine ((along_item hitem hinner hbefore hafter hσ).of_cuts
    fun w hw distinct => itemsTruncation_of_cut distinct hw).append ?_
  intro σ₁ hσ₁ σ₂ hstep
  obtain ⟨v, hv, hfollows⟩ := hσ₁.follows (.inr (.inr (.inl rfl))) hstep
  have hvalues : itemValues? [item] = some [v] := by simp [itemValues?, hv]
  cases hfollows with
  | blank space => cases space
  | endArray =>
    refine ⟨?_, [v], hvalues, by simp⟩
    apply cutsTo_of_cut?
    intro w hw _
    cases hw
    exact ⟨[v], by simp, .last (.whole hv) []⟩

theorem alongItems_cons {item next : Spaced Document} {items : List (Spaced Document)}
    (hitem : AlongDocument limit item.inner) (hrest : AlongItems limit (next :: items))
    (proper : ProperItems (item :: next :: items)) : AlongItems limit (item :: next :: items) := by
  intro fs done σ hσ
  obtain ⟨hbefore, hinner, hafter, -⟩ := proper
  rw [Document.itemsText_cons_cons, List.append_assoc, List.cons_append]
  refine ((along_item hitem hinner hbefore hafter hσ).of_cuts
    fun w hw distinct => itemsTruncation_of_cut distinct hw).append ?_
  intro σ₁ hσ₁ σ₂ hstep
  obtain ⟨v, hv, rfl⟩ := hσ₁.nextItem hstep
  refine ⟨(cutsTo_of_none (X := fun _ => False) rfl).outer fun _ h => h.elim, ?_⟩
  refine (hrest fs _ _ (atItem_concat done v)).mono (fun σ h => h.mono fun w hw distinct => ?_) ?_
  · obtain ⟨vs, rfl, hvs⟩ := hw distinct.2
    exact ⟨v :: vs, by simp, .cons hv hvs⟩
  · rintro _ ⟨vs, hvs, rfl⟩
    refine ⟨v :: vs, ?_, by simp⟩
    rw [Document.itemValues?_cons, hv, hvs]
    rfl

theorem alongDocument_array {gap : Text} {items : List (Spaced Document)} (hgap : Blanks gap)
    (hitems : items ≠ [] → AlongItems limit items) : AlongDocument limit (.array gap items) := by
  intro fs σ hstep
  obtain rfl := eq_of_step_square hstep
  have hempty : CutsDocument fs (.array gap items) ⟨fs, .firstItem⟩ := by
    apply cutsTo_of_cut?
    intro w hw _
    cases hw
    exact .array (.lost items)
  refine ⟨hempty, ?_⟩
  show Along limit _ _ _ (gap ++ itemsText items ++ [CodePoint.scalar ']'])
  rw [List.append_assoc]
  refine (along_blanks hgap rfl hempty).append ?_
  rintro _ rfl
  by_cases hne : items = []
  · subst items
    exact .cons rfl (cutsDocument_after rfl) (.whole rfl)
  · refine (hitems hne fs [] _ .first).mono (fun σ h => h.mono fun w hw distinct => ?_) ?_
    · obtain ⟨vs, rfl, hvs⟩ := hw distinct
      exact .array hvs
    · rintro _ ⟨vs, hvs, rfl⟩
      refine .whole ?_
      rw [Document.value?, hvs]
      rfl

/-! ## The members of an object -/

/-- The reader stands in an object behind the given members, where the next key may stand. -/
inductive AtKey (fs : List Frame) : Members → State → Prop
  | first : AtKey fs [] ⟨fs, .firstKey⟩
  | next (done : Members) : AtKey fs done ⟨fs, .nextKey done⟩

/-- Reading along the last members of an object and its closing brace. -/
def AlongMembers (limit : Nat) (members : List (Spaced (List Atom) × Spaced Document)) : Prop :=
  ∀ fs done σ, AtKey fs done σ →
    Along limit
      (CutsTo fs fun w => (Keyed.keys done ++ Document.keys members).Nodup →
        DistinctKeysMembers members →
          ∃ kept, w = .object (done ++ kept) ∧ MembersTruncation kept members)
      (fun σ' => ∃ held, memberValues? done members = some held ∧ σ' = ⟨fs, .after (.object held)⟩)
      σ (membersText members ++ [CodePoint.scalar '\x7d'])

/-- What an object comes to that is cut before the end of one of its members. -/
def CutsMember (fs : List Frame) (done : Members) (key : Spaced (List Atom))
    (item : Spaced Document) : State → Prop :=
  CutsTo fs fun w => w = .object done ∨
    ∃ u, w = .object (done.set (Atom.points key.inner) u) ∧
      (item.inner.DistinctKeys → Document.Truncation u item.inner)

/-- From the quote of a key on nothing can be closed until the value behind the colon has begun. -/
theorem along_quotedKey {key : Spaced (List Atom)} {done : Members}
    (hatoms : ∀ a ∈ key.inner, a.Proper) (hafter : Blanks key.after) (hσ : AtKey fs done σ) :
    Along limit (CutsTo fs fun _ => False)
      (· = ⟨.object done (Atom.points key.inner) :: fs, .value⟩) σ
      (Atom.quotedText key.inner ++ (key.after ++ [CodePoint.scalar ':'])) := by
  have hquote : step limit σ '"' = some ⟨fs, .inKey done .start⟩ := by cases hσ <;> rfl
  refine .cons hquote (cutsTo_of_none rfl) ?_
  refine (along_quoted (quotes_inKey done) key.inner hatoms ?_ (cutsTo_of_none rfl)).append ?_
  · rintro _ ⟨s, rfl, -⟩
    exact cutsTo_of_none rfl
  rintro _ rfl
  refine (along_blanks hafter rfl (cutsTo_of_none rfl)).append ?_
  rintro _ rfl
  exact .cons rfl ((cutsTo_of_none (X := fun _ => False) rfl).outer fun _ h => h.elim) rfl

/-- A key and the colon behind it. -/
theorem along_key {key : Spaced (List Atom)} {item : Spaced Document} {done : Members}
    (hkey : ProperKey key) (hσ : AtKey fs done σ) :
    Along limit (CutsMember fs done key item)
      (· = ⟨.object done (Atom.points key.inner) :: fs, .value⟩) σ
      (keyText key ++ [CodePoint.scalar ':']) := by
  obtain ⟨hbefore, hatoms, hafter⟩ := hkey
  have hblanks : Along limit (CutsMember fs done key item) (AtKey fs done) σ key.before := by
    cases hσ with
    | first =>
      have hempty : CutsMember fs [] key item ⟨fs, .firstKey⟩ := by
        apply cutsTo_of_cut?
        intro w hw
        cases hw
        exact .inl rfl
      refine (along_blanks hbefore rfl hempty).mono (fun _ => id) ?_
      rintro _ rfl
      exact .first
    | next =>
      refine (along_blanks hbefore rfl (cutsTo_of_none rfl)).mono (fun _ => id) ?_
      rintro _ rfl
      exact .next done
  have htext : keyText key ++ [CodePoint.scalar ':'] =
      key.before ++ (Atom.quotedText key.inner ++ (key.after ++ [CodePoint.scalar ':'])) := by
    simp [keyText]
  rw [htext]
  refine hblanks.append fun σ₁ hσ₁ => ?_
  exact (along_quotedKey hatoms hafter hσ₁).of_cuts fun _ h => h.elim

theorem along_member {key : Spaced (List Atom)} {item : Spaced Document} {done : Members}
    (hitem : AlongDocument limit item.inner) (hkey : ProperKey key) (hbefore : Blanks item.before)
    (hafter : Blanks item.after) (hσ : AtKey fs done σ) :
    Along limit (CutsMember fs done key item)
      (Reads (.object done (Atom.points key.inner) :: fs) item.inner) σ
      (memberText (key, item)) := by
  have htext : memberText (key, item) = keyText key ++ [CodePoint.scalar ':'] ++
      (item.before ++ (item.inner.text ++ item.after)) := by
    simp [memberText, itemText]
  rw [htext]
  refine (along_key hkey hσ).append ?_
  rintro _ rfl
  exact (hitem.blanks hbefore hafter).of_inner fun u hu => .inr ⟨u, rfl, hu⟩

section Member

variable {key : Spaced (List Atom)} {item : Spaced Document} {done : Members}
  {members : List (Spaced (List Atom) × Spaced Document)}

/-- The key of a member that comes next is new. -/
theorem set_of_nodup (v : Value)
    (h : (Keyed.keys done ++ Document.keys ((key, item) :: members)).Nodup) :
    done.set (Atom.points key.inner) v = done ++ [(Atom.points key.inner, v)] := by
  apply Keyed.set_of_not_mem
  intro hmem
  have hdisjoint := (List.nodup_append.mp h).2.2
  exact hdisjoint _ hmem _ (List.mem_cons_self ..) rfl

theorem nodup_set (v : Value)
    (h : (Keyed.keys done ++ Document.keys ((key, item) :: members)).Nodup) :
    (Keyed.keys (done.set (Atom.points key.inner) v) ++ Document.keys members).Nodup := by
  rw [set_of_nodup v h]
  simpa [Keyed.keys, Document.keys] using h

theorem membersTruncation_of_cut {w : Value}
    (hkeys : (Keyed.keys done ++ Document.keys ((key, item) :: members)).Nodup)
    (distinct : DistinctKeysMembers ((key, item) :: members))
    (hw : w = .object done ∨ ∃ u, w = .object (done.set (Atom.points key.inner) u) ∧
      (item.inner.DistinctKeys → Document.Truncation u item.inner)) :
    ∃ kept, w = .object (done ++ kept) ∧ MembersTruncation kept ((key, item) :: members) := by
  rcases hw with rfl | ⟨u, rfl, hu⟩
  · exact ⟨[], by simp, .lost _⟩
  · rw [set_of_nodup u hkeys]
    exact ⟨_, rfl, .last (hu distinct.1) members⟩

theorem alongMembers_singleton (hitem : AlongDocument limit item.inner)
    (proper : ProperMembers [(key, item)]) : AlongMembers limit [(key, item)] := by
  intro fs done σ hσ
  obtain ⟨hkey₁, hkey₂, hkey₃, hbefore, -, hafter, -⟩ := proper
  rw [Document.membersText_singleton]
  refine ((along_member hitem ⟨hkey₁, hkey₂, hkey₃⟩ hbefore hafter hσ).of_cuts
    fun w hw hkeys distinct => membersTruncation_of_cut hkeys distinct hw).append ?_
  intro σ₁ hσ₁ σ₂ hstep
  obtain ⟨v, hv, hfollows⟩ := hσ₁.follows (.inr (.inr (.inr rfl))) hstep
  have hvalues : memberValues? done [(key, item)] = some (done.set (Atom.points key.inner) v) := by
    rw [Document.memberValues?_cons, hv]
    rfl
  cases hfollows with
  | blank space => cases space
  | endObject =>
    refine ⟨?_, _, hvalues, rfl⟩
    apply cutsTo_of_cut?
    intro w hw hkeys _
    cases hw
    rw [set_of_nodup v hkeys]
    exact ⟨_, rfl, .last (.whole hv) []⟩

theorem alongMembers_cons {next : Spaced (List Atom) × Spaced Document}
    (hitem : AlongDocument limit item.inner) (hrest : AlongMembers limit (next :: members))
    (proper : ProperMembers ((key, item) :: next :: members)) :
    AlongMembers limit ((key, item) :: next :: members) := by
  intro fs done σ hσ
  obtain ⟨hkey₁, hkey₂, hkey₃, hbefore, -, hafter, -⟩ := proper
  rw [Document.membersText_cons_cons, List.append_assoc, List.cons_append]
  refine ((along_member hitem ⟨hkey₁, hkey₂, hkey₃⟩ hbefore hafter hσ).of_cuts
    fun w hw hkeys distinct => membersTruncation_of_cut hkeys distinct hw).append ?_
  intro σ₁ hσ₁ σ₂ hstep
  obtain ⟨v, hv, rfl⟩ := hσ₁.nextMember hstep
  refine ⟨cutsTo_of_none rfl, ?_⟩
  refine (hrest fs _ _ (.next _)).mono
    (fun σ h => h.mono fun w hw hkeys distinct => ?_) ?_
  · obtain ⟨kept, rfl, hkept⟩ := hw (nodup_set v hkeys) distinct.2
    rw [set_of_nodup v hkeys, List.append_assoc]
    exact ⟨_, rfl, .cons hv hkept⟩
  · rintro _ ⟨held, hheld, rfl⟩
    refine ⟨held, ?_, rfl⟩
    rw [Document.memberValues?_cons, hv]
    exact hheld

end Member

theorem alongDocument_object {gap : Text} {members : List (Spaced (List Atom) × Spaced Document)}
    (hgap : Blanks gap) (hmembers : members ≠ [] → AlongMembers limit members) :
    AlongDocument limit (.object gap members) := by
  intro fs σ hstep
  obtain rfl := eq_of_step_curly hstep
  have hempty : CutsDocument fs (.object gap members) ⟨fs, .firstKey⟩ := by
    apply cutsTo_of_cut?
    intro w hw _
    cases hw
    exact .object (.lost members)
  refine ⟨hempty, ?_⟩
  show Along limit _ _ _ (gap ++ membersText members ++ [CodePoint.scalar '\x7d'])
  rw [List.append_assoc]
  refine (along_blanks hgap rfl hempty).append ?_
  rintro _ rfl
  by_cases hne : members = []
  · subst members
    exact .cons rfl (cutsDocument_after rfl) (.whole rfl)
  · refine (hmembers hne fs [] _ .first).mono (fun σ h => h.mono fun w hw distinct => ?_) ?_
    · obtain ⟨kept, rfl, hkept⟩ := hw distinct.1 distinct.2
      exact .object hkept
    · rintro _ ⟨held, hheld, rfl⟩
      refine .whole ?_
      rw [Document.value?, hheld]
      rfl

/-! ## All documents -/

mutual

/-- Every cut inside a document comes to one of its truncations, and behind it stands its value. -/
theorem alongDocument : ∀ d : Document, d.Proper → AlongDocument limit d
  | .word w, _ => alongDocument_word w
  | .number _, proper => alongDocument_number proper
  | .string _, proper => alongDocument_string proper
  | .array _ items, proper =>
    alongDocument_array proper.1 (alongItems items proper.2)
  | .object _ members, proper =>
    alongDocument_object proper.1 (alongMembers members proper.2)

theorem alongItems : ∀ items : List (Spaced Document), ProperItems items → items ≠ [] →
    AlongItems limit items
  | [], _, hne => absurd rfl hne
  | [⟨_, d, _⟩], proper, _ => alongItems_singleton (alongDocument d proper.2.1) proper
  | ⟨_, d, _⟩ :: next :: items, proper, _ =>
    alongItems_cons (alongDocument d proper.2.1)
      (alongItems (next :: items) proper.2.2.2 (List.cons_ne_nil next items)) proper

theorem alongMembers : ∀ members : List (Spaced (List Atom) × Spaced Document),
    ProperMembers members → members ≠ [] → AlongMembers limit members
  | [], _, hne => absurd rfl hne
  | [(_, ⟨_, d, _⟩)], proper, _ =>
    alongMembers_singleton (alongDocument d proper.2.2.2.2.1) proper
  | (_, ⟨_, d, _⟩) :: next :: members, proper, _ =>
    alongMembers_cons (alongDocument d proper.2.2.2.2.1)
      (alongMembers (next :: members) proper.2.2.2.2.2.2 (List.cons_ne_nil next members)) proper

end

end Reader

end AgentPanel.Json
