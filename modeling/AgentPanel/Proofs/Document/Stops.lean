import AgentPanel.Proofs.Document.Parts

/-!
# Where a text is cut

A part of a JSON text stops inside one of its tokens or between two of them. `Stop` names the kinds
of places, and `Document.StopsAt` says of a document where the beginnings of its text stop: one
constructor for each kind of place in a document of each kind, and two that go into an item or into
the value of a member. Every beginning stops somewhere: `Document.stopsInDocument`.
-/

namespace AgentPanel.Json

/-- The kinds of places where a part of a JSON text stops. -/
inductive Stop where
  /-- behind an opening bracket, before anything in the container -/
  | opened
  /-- inside a key -/
  | inKey
  /-- behind a key, before the first code point of its value -/
  | beforeValue
  /-- behind a comma, before the first code point of the next item or key -/
  | afterComma
  /-- inside a string value, not in an escape -/
  | inString
  /-- inside a string value, behind the backslash of an escape -/
  | afterBackslash
  /-- inside a string value, behind `\u` and fewer than four hexadecimal digits -/
  | inHex
  /-- inside a word or a number, of which the given part has been read -/
  | inToken (read : Text)
  /-- behind a complete value -/
  | afterValue
  deriving DecidableEq, Repr

namespace Document

/-- Where a beginning of the text of a document stops. Some text may follow the document. -/
inductive StopsAt : Document → (after : Text) → (p : Text) → Stop → Prop
  /-- all of the document, and perhaps something of what follows it -/
  | complete {d : Document} {after rest : Text} (h : rest <+: after) :
      StopsAt d after (d.text ++ rest) .afterValue
  | word {w : Word} {after kept lost : Text} (h : w.text = kept ++ lost) (hkept : kept ≠ [])
      (hlost : lost ≠ []) : StopsAt (word w) after kept (.inToken kept)
  | number {after kept lost : Text} (hkept : kept ≠ []) (hlost : lost ≠ []) :
      StopsAt (number (kept ++ lost)) after kept (.inToken kept)
  | string {after : Text} (kept lost : List Atom) :
      StopsAt (string (kept ++ lost)) after (CodePoint.scalar '"' :: kept.flatMap Atom.text)
        .inString
  | backslash {after : Text} (kept : List Atom) {a : Atom} (lost : List Atom) (h : a.isEscape) :
      StopsAt (string (kept ++ a :: lost)) after
        (CodePoint.scalar '"' :: kept.flatMap Atom.text ++ [CodePoint.scalar '\\']) .afterBackslash
  | hex {after : Text} (kept : List Atom) (digits : Text) {rest : Text} (lost : List Atom)
      (h : rest ≠ []) :
      StopsAt (string (kept ++ .long (digits ++ rest) :: lost)) after
        (CodePoint.scalar '"' :: kept.flatMap Atom.text ++
          CodePoint.scalar '\\' :: CodePoint.scalar 'u' :: digits) .inHex
  | openedArray {gap blanks after : Text} {items : List (Spaced Document)}
      (hblanks : Blanks blanks) (h : CodePoint.scalar '[' :: blanks <+: text (array gap items)) :
      StopsAt (array gap items) after (CodePoint.scalar '[' :: blanks) .opened
  /-- behind a comma, before the item that comes next -/
  | nextItem {gap blanks after : Text} {kept : List (Spaced Document)} {item : Spaced Document}
      (lost : List (Spaced Document)) (hkept : kept ≠ []) (h : blanks <+: item.before) :
      StopsAt (array gap (kept ++ item :: lost)) after
        (CodePoint.scalar '[' :: gap ++ itemsBefore kept ++ blanks) .afterComma
  /-- inside an item, or behind its value -/
  | item {gap after q : Text} {stop : Stop} (kept : List (Spaced Document)) {item : Spaced Document}
      (lost : List (Spaced Document)) (h : StopsAt item.inner item.after q stop) :
      StopsAt (array gap (kept ++ item :: lost)) after
        (CodePoint.scalar '[' :: gap ++ itemsBefore kept ++ (item.before ++ q)) stop
  | openedObject {gap blanks after : Text} {members : List (Spaced (List Atom) × Spaced Document)}
      (hblanks : Blanks blanks)
      (h : CodePoint.scalar '\x7b' :: blanks <+: text (object gap members)) :
      StopsAt (object gap members) after (CodePoint.scalar '\x7b' :: blanks) .opened
  /-- behind a comma, before the key that comes next -/
  | nextMember {gap blanks after : Text} {kept : List (Spaced (List Atom) × Spaced Document)}
      {key : Spaced (List Atom)} {item : Spaced Document}
      (lost : List (Spaced (List Atom) × Spaced Document)) (hkept : kept ≠ [])
      (h : blanks <+: key.before) :
      StopsAt (object gap (kept ++ (key, item) :: lost)) after
        (CodePoint.scalar '\x7b' :: gap ++ membersBefore kept ++ blanks) .afterComma
  /-- behind the opening quote of a key, but not behind its closing one -/
  | key {gap after q rest : Text} (kept : List (Spaced (List Atom) × Spaced Document))
      {key : Spaced (List Atom)} {item : Spaced Document}
      (lost : List (Spaced (List Atom) × Spaced Document)) (hq : q ≠ []) (hrest : rest ≠ [])
      (h : Atom.quotedText key.inner = q ++ rest) :
      StopsAt (object gap (kept ++ (key, item) :: lost)) after
        (CodePoint.scalar '\x7b' :: gap ++ membersBefore kept ++ (key.before ++ q)) .inKey
  /-- behind a key, perhaps behind its colon -/
  | value {gap after q : Text} (kept : List (Spaced (List Atom) × Spaced Document))
      {key : Spaced (List Atom)} {item : Spaced Document}
      (lost : List (Spaced (List Atom) × Spaced Document))
      (h : q <+: key.after ++ CodePoint.scalar ':' :: item.before) :
      StopsAt (object gap (kept ++ (key, item) :: lost)) after
        (CodePoint.scalar '\x7b' :: gap ++ membersBefore kept ++
          (key.before ++ Atom.quotedText key.inner ++ q)) .beforeValue
  /-- inside the value of a member, or behind it -/
  | member {gap after q : Text} {stop : Stop}
      (kept : List (Spaced (List Atom) × Spaced Document)) {key : Spaced (List Atom)}
      {item : Spaced Document} (lost : List (Spaced (List Atom) × Spaced Document))
      (h : StopsAt item.inner item.after q stop) :
      StopsAt (object gap (kept ++ (key, item) :: lost)) after
        (CodePoint.scalar '\x7b' :: gap ++ membersBefore kept ++
          (keyText key ++ CodePoint.scalar ':' :: item.before ++ q)) stop

/-! ## Every beginning stops somewhere -/

/-- A beginning of two texts in a row ends in the first one, or goes on in the second one. -/
theorem prefix_append_cases {p s t : Text} (h : p <+: s ++ t) :
    p <+: s ∨ ∃ q, q ≠ [] ∧ p = s ++ q ∧ q <+: t := by
  rcases List.prefix_or_prefix_of_prefix h (List.prefix_append s t) with hp | ⟨q, rfl⟩
  · exact .inl hp
  · by_cases hq : q = []
    · subst q
      exact .inl (by simp)
    · exact .inr ⟨q, hq, rfl, (List.prefix_append_right_inj s).mp h⟩

theorem eq_singleton_of_ne_nil {p : Text} {c : CodePoint} (h : p <+: [c]) (hne : p ≠ []) :
    p = [c] := by
  rcases List.prefix_cons_iff.mp h with rfl | ⟨q, rfl, hq⟩
  · exact absurd rfl hne
  · rw [List.prefix_nil.mp hq]

/-- A beginning of an atom is empty, the whole atom, or a part of an escape. -/
theorem prefix_atom_cases {p : Text} {a : Atom} (h : p <+: a.text) :
    p = [] ∨ p = a.text ∨ (a.isEscape ∧ p = [CodePoint.scalar '\\']) ∨
      ∃ digits rest, rest ≠ [] ∧ a = .long (digits ++ rest) ∧
        p = CodePoint.scalar '\\' :: CodePoint.scalar 'u' :: digits := by
  obtain ⟨rest, hrest⟩ := h
  cases p with
  | nil => exact .inl rfl
  | cons c p =>
    cases a with
    | plain d =>
      obtain ⟨rfl, hp⟩ := List.cons.inj hrest
      rw [(List.append_eq_nil_iff.mp hp).1]
      exact .inr (.inl rfl)
    | short letter =>
      obtain ⟨rfl, hp⟩ := List.cons.inj hrest
      cases p with
      | nil => exact .inr (.inr (.inl ⟨rfl, rfl⟩))
      | cons d p =>
        obtain ⟨rfl, hnil⟩ := List.cons.inj hp
        rw [(List.append_eq_nil_iff.mp hnil).1]
        exact .inr (.inl rfl)
    | long digits =>
      obtain ⟨rfl, hp⟩ := List.cons.inj hrest
      cases p with
      | nil => exact .inr (.inr (.inl ⟨rfl, rfl⟩))
      | cons d p =>
        obtain ⟨rfl, rfl⟩ := List.cons.inj hp
        by_cases hne : rest = []
        · subst rest
          exact .inr (.inl (by simp [Atom.text]))
        · exact .inr (.inr (.inr ⟨p, rest, hne, rfl, rfl⟩))

variable {p q after gap : Text}

/-- The beginnings of a string, by the atoms that are left. -/
theorem exists_stopsAt_atoms (kept lost : List Atom) (h : q <+: lost.flatMap Atom.text) :
    ∃ stop, (string (kept ++ lost)).StopsAt after
      (CodePoint.scalar '"' :: kept.flatMap Atom.text ++ q) stop := by
  induction lost generalizing kept q with
  | nil =>
    rw [List.prefix_nil.mp h, List.append_nil (_ :: _)]
    exact ⟨_, .string kept []⟩
  | cons a lost ih =>
    have hnext : ∀ q, q <+: lost.flatMap Atom.text →
        ∃ stop, (string (kept ++ a :: lost)).StopsAt after
          (CodePoint.scalar '"' :: kept.flatMap Atom.text ++ (a.text ++ q)) stop := by
      intro q hq
      have := ih (kept ++ [a]) hq
      simpa using this
    rcases prefix_append_cases h with hq | ⟨q, -, rfl, hq⟩
    · rcases prefix_atom_cases hq with rfl | rfl | ⟨hescape, rfl⟩ | ⟨digits, rest, hne, rfl, rfl⟩
      · rw [List.append_nil]
        exact ⟨_, .string kept (a :: lost)⟩
      · have := hnext [] List.nil_prefix
        rwa [List.append_nil a.text] at this
      · exact ⟨_, .backslash kept lost hescape⟩
      · exact ⟨_, .hex kept digits lost hne⟩
    · exact hnext q hq

theorem stopsAt_text (d : Document) (after : Text) : d.StopsAt after d.text .afterValue := by
  have : d.StopsAt after (d.text ++ []) .afterValue := .complete List.nil_prefix
  rwa [List.append_nil] at this

/-- Every beginning of a document with some text behind it stops somewhere. -/
def StopsInDocument (d : Document) : Prop :=
  ∀ after p, p <+: d.text ++ after → p ≠ [] → ∃ stop, d.StopsAt after p stop

/-- Only the beginnings that end inside the document need a look. -/
theorem stopsInDocument_of_part {d : Document}
    (h : ∀ after p, p <+: d.text → p ≠ [] → p ≠ d.text → ∃ stop, d.StopsAt after p stop) :
    StopsInDocument d := by
  intro after p hp hne
  rcases prefix_append_cases hp with hpart | ⟨q, -, rfl, hbehind⟩
  · by_cases hwhole : p = d.text
    · exact ⟨_, hwhole ▸ stopsAt_text d after⟩
    · exact h after p hpart hne hwhole
  · exact ⟨_, .complete hbehind⟩

/-! ### The items of an array -/

/-- Every beginning of an array that ends in its last items or behind them stops somewhere. -/
def StopsInItems (gap : Text) (items : List (Spaced Document)) : Prop :=
  ∀ after kept q, q <+: itemsText items ++ [CodePoint.scalar ']'] →
    ∃ stop, (array gap (kept ++ items)).StopsAt after
      (CodePoint.scalar '[' :: gap ++ itemsBefore kept ++ q) stop

theorem text_array_append (gap : Text) (kept : List (Spaced Document))
    {items : List (Spaced Document)} (h : items ≠ []) :
    (array gap (kept ++ items)).text =
      CodePoint.scalar '[' :: gap ++ itemsBefore kept ++
        (itemsText items ++ [CodePoint.scalar ']']) := by
  simp [text, itemsText_append kept h]

section Items

variable {item next : Spaced Document} {items : List (Spaced Document)}

/-- A beginning of an array that ends in one of its items. -/
theorem exists_stopsAt_item (hinner : StopsInDocument item.inner) (hgap : Blanks gap)
    (hbefore : Blanks item.before) {kept : List (Spaced Document)} (hq : q <+: itemText item)
    (hp : CodePoint.scalar '[' :: gap ++ itemsBefore kept ++ q <+:
      (array gap (kept ++ item :: items)).text) :
    ∃ stop, (array gap (kept ++ item :: items)).StopsAt after
      (CodePoint.scalar '[' :: gap ++ itemsBefore kept ++ q) stop := by
  rw [itemText, List.append_assoc] at hq
  rcases prefix_append_cases hq with hblanks | ⟨q, hne, rfl, hrest⟩
  · -- blanks before an item stand behind the opening bracket or behind a comma
    by_cases hkept : kept = []
    · subst kept
      have hblanks : Blanks (gap ++ q) :=
        List.forall_mem_append.mpr ⟨hgap, fun c hc => hbefore c (hblanks.subset hc)⟩
      have hopened : CodePoint.scalar '[' :: gap ++ itemsBefore [] ++ q =
          CodePoint.scalar '[' :: (gap ++ q) := by simp [itemsBefore]
      rw [hopened] at hp ⊢
      exact ⟨_, .openedArray hblanks hp⟩
    · exact ⟨_, .nextItem items hkept hblanks⟩
  · obtain ⟨stop, hstop⟩ := hinner item.after q hrest hne
    exact ⟨stop, .item kept items hstop⟩

theorem prefix_text_array (gap : Text) (kept : List (Spaced Document)) (h : items ≠ [])
    (hq : q <+: itemsText items ++ [CodePoint.scalar ']']) :
    CodePoint.scalar '[' :: gap ++ itemsBefore kept ++ q <+: (array gap (kept ++ items)).text := by
  rw [text_array_append gap kept h]
  exact (List.prefix_append_right_inj _).mpr hq

theorem stopsInItems_singleton (hinner : StopsInDocument item.inner) (hgap : Blanks gap)
    (hbefore : Blanks item.before) : StopsInItems gap [item] := by
  intro after kept q hq
  have hlast : [item] ≠ [] := List.cons_ne_nil item []
  have hp := prefix_text_array gap kept hlast hq
  rw [itemsText_singleton] at hq
  rcases prefix_append_cases hq with hq | ⟨q, hne, rfl, hend⟩
  · exact exists_stopsAt_item hinner hgap hbefore hq hp
  · rw [eq_singleton_of_ne_nil hend hne, ← itemsText_singleton, ← text_array_append gap kept hlast]
    exact ⟨_, stopsAt_text _ after⟩

theorem stopsInItems_cons (hinner : StopsInDocument item.inner)
    (hrest : StopsInItems gap (next :: items)) (hgap : Blanks gap)
    (hbefore : Blanks item.before) : StopsInItems gap (item :: next :: items) := by
  intro after kept q hq
  have hp := prefix_text_array gap kept (List.cons_ne_nil item (next :: items)) hq
  rw [itemsText_cons_cons, List.append_assoc, List.cons_append] at hq
  rcases prefix_append_cases hq with hq | ⟨q, hne, rfl, hcomma⟩
  · exact exists_stopsAt_item hinner hgap hbefore hq hp
  · rcases List.prefix_cons_iff.mp hcomma with rfl | ⟨q, rfl, htail⟩
    · exact absurd rfl hne
    · have := hrest after (kept ++ [item]) q htail
      simpa [itemsBefore] using this

theorem stopsInDocument_array (hgap : Blanks gap) (hitems : items ≠ [] → StopsInItems gap items) :
    StopsInDocument (array gap items) := by
  apply stopsInDocument_of_part
  intro after p hp hne _
  have htext : (array gap items).text =
      CodePoint.scalar '[' :: (gap ++ (itemsText items ++ [CodePoint.scalar ']'])) := by simp [text]
  rcases List.prefix_cons_iff.mp (htext ▸ hp) with rfl | ⟨q, rfl, hq⟩
  · exact absurd rfl hne
  rcases prefix_append_cases hq with hblanks | ⟨q, hinside, rfl, hrest⟩
  · exact ⟨_, .openedArray (fun c hc => hgap c (hblanks.subset hc)) hp⟩
  by_cases hempty : items = []
  · subst items
    rw [eq_singleton_of_ne_nil hrest hinside]
    exact ⟨_, htext ▸ stopsAt_text _ after⟩
  · have := hitems hempty after [] q hrest
    simpa [itemsBefore] using this

end Items

/-! ### The members of an object -/

/-- Every beginning of an object that ends in its last members or behind them stops somewhere. -/
def StopsInMembers (gap : Text) (members : List (Spaced (List Atom) × Spaced Document)) : Prop :=
  ∀ after kept q, q <+: membersText members ++ [CodePoint.scalar '\x7d'] →
    ∃ stop, (object gap (kept ++ members)).StopsAt after
      (CodePoint.scalar '\x7b' :: gap ++ membersBefore kept ++ q) stop

section Members

variable {key : Spaced (List Atom)} {item : Spaced Document}
  {next : Spaced (List Atom) × Spaced Document}
  {members kept : List (Spaced (List Atom) × Spaced Document)}

theorem text_object_append (gap : Text) (kept : List (Spaced (List Atom) × Spaced Document))
    (h : members ≠ []) :
    (object gap (kept ++ members)).text =
      CodePoint.scalar '\x7b' :: gap ++ membersBefore kept ++
        (membersText members ++ [CodePoint.scalar '\x7d']) := by
  simp [text, membersText_append kept h]

theorem prefix_text_object (gap : Text) (kept : List (Spaced (List Atom) × Spaced Document))
    (h : members ≠ []) (hq : q <+: membersText members ++ [CodePoint.scalar '\x7d']) :
    CodePoint.scalar '\x7b' :: gap ++ membersBefore kept ++ q <+:
      (object gap (kept ++ members)).text := by
  rw [text_object_append gap kept h]
  exact (List.prefix_append_right_inj _).mpr hq

/-- A beginning of an object that ends in one of its members. -/
theorem exists_stopsAt_member (hinner : StopsInDocument item.inner) (hgap : Blanks gap)
    (hbefore : Blanks key.before) (hq : q <+: memberText (key, item))
    (hp : CodePoint.scalar '\x7b' :: gap ++ membersBefore kept ++ q <+:
      (object gap (kept ++ (key, item) :: members)).text) :
    ∃ stop, (object gap (kept ++ (key, item) :: members)).StopsAt after
      (CodePoint.scalar '\x7b' :: gap ++ membersBefore kept ++ q) stop := by
  have htext : memberText (key, item) = key.before ++ (Atom.quotedText key.inner ++
      ((key.after ++ CodePoint.scalar ':' :: item.before) ++ (item.inner.text ++ item.after))) := by
    simp [memberText, keyText, itemText]
  rw [htext] at hq
  rcases prefix_append_cases hq with hblanks | ⟨q, hne, rfl, hquoted⟩
  · by_cases hkept : kept = []
    · subst kept
      have hblanks : Blanks (gap ++ q) :=
        List.forall_mem_append.mpr ⟨hgap, fun c hc => hbefore c (hblanks.subset hc)⟩
      have hopened : CodePoint.scalar '\x7b' :: gap ++ membersBefore [] ++ q =
          CodePoint.scalar '\x7b' :: (gap ++ q) := by simp [membersBefore]
      rw [hopened] at hp ⊢
      exact ⟨_, .openedObject hblanks hp⟩
    · exact ⟨_, .nextMember members hkept hblanks⟩
  -- the key ends where nothing of its text is left
  rcases prefix_append_cases hquoted with ⟨rest, hrest⟩ | ⟨q, -, rfl, hbehind⟩
  · by_cases hwhole : rest = []
    · subst rest
      rw [List.append_nil] at hrest
      subst q
      rw [← List.append_nil (key.before ++ _)]
      exact ⟨_, .value kept members List.nil_prefix⟩
    · exact ⟨_, .key kept members hne hwhole hrest.symm⟩
  rcases prefix_append_cases hbehind with hcolon | ⟨q, hstarted, rfl, hvalue⟩
  · rw [← List.append_assoc key.before]
    exact ⟨_, .value kept members hcolon⟩
  · obtain ⟨stop, hstop⟩ := hinner item.after q hvalue hstarted
    have hkey : key.before ++ (Atom.quotedText key.inner ++
        (key.after ++ CodePoint.scalar ':' :: item.before ++ q)) =
          keyText key ++ CodePoint.scalar ':' :: item.before ++ q := by simp [keyText]
    rw [hkey]
    exact ⟨stop, .member kept members hstop⟩

theorem stopsInMembers_singleton (hinner : StopsInDocument item.inner) (hgap : Blanks gap)
    (hbefore : Blanks key.before) : StopsInMembers gap [(key, item)] := by
  intro after kept q hq
  have hlast : [(key, item)] ≠ [] := List.cons_ne_nil (key, item) []
  have hp := prefix_text_object gap kept hlast hq
  rw [membersText_singleton] at hq
  rcases prefix_append_cases hq with hq | ⟨q, hne, rfl, hend⟩
  · exact exists_stopsAt_member hinner hgap hbefore hq hp
  · rw [eq_singleton_of_ne_nil hend hne, ← membersText_singleton,
      ← text_object_append gap kept hlast]
    exact ⟨_, stopsAt_text _ after⟩

theorem stopsInMembers_cons (hinner : StopsInDocument item.inner)
    (hrest : StopsInMembers gap (next :: members)) (hgap : Blanks gap)
    (hbefore : Blanks key.before) : StopsInMembers gap ((key, item) :: next :: members) := by
  intro after kept q hq
  have hp := prefix_text_object gap kept (List.cons_ne_nil (key, item) (next :: members)) hq
  rw [membersText_cons_cons, List.append_assoc, List.cons_append] at hq
  rcases prefix_append_cases hq with hq | ⟨q, hne, rfl, hcomma⟩
  · exact exists_stopsAt_member hinner hgap hbefore hq hp
  · rcases List.prefix_cons_iff.mp hcomma with rfl | ⟨q, rfl, htail⟩
    · exact absurd rfl hne
    · have := hrest after (kept ++ [(key, item)]) q htail
      simpa [membersBefore] using this

theorem stopsInDocument_object (hgap : Blanks gap)
    (hmembers : members ≠ [] → StopsInMembers gap members) :
    StopsInDocument (object gap members) := by
  apply stopsInDocument_of_part
  intro after p hp hne _
  have htext : (object gap members).text =
      CodePoint.scalar '\x7b' :: (gap ++ (membersText members ++ [CodePoint.scalar '\x7d'])) := by
    simp [text]
  rcases List.prefix_cons_iff.mp (htext ▸ hp) with rfl | ⟨q, rfl, hq⟩
  · exact absurd rfl hne
  rcases prefix_append_cases hq with hblanks | ⟨q, hinside, rfl, hrest⟩
  · exact ⟨_, .openedObject (fun c hc => hgap c (hblanks.subset hc)) hp⟩
  by_cases hempty : members = []
  · subst members
    rw [eq_singleton_of_ne_nil hrest hinside]
    exact ⟨_, htext ▸ stopsAt_text _ after⟩
  · have := hmembers hempty after [] q hrest
    simpa [membersBefore] using this

end Members

/-! ### All documents -/

theorem stopsInDocument_word (w : Word) : StopsInDocument (word w) := by
  apply stopsInDocument_of_part
  rintro after p ⟨lost, hlost⟩ hne hpart
  have hrest : lost ≠ [] := by
    rintro rfl
    exact hpart (by rw [← hlost, List.append_nil])
  exact ⟨_, .word hlost.symm hne hrest⟩

theorem stopsInDocument_number (literal : Text) : StopsInDocument (number literal) := by
  apply stopsInDocument_of_part
  rintro after p ⟨lost, hlost⟩ hne hpart
  obtain rfl : p ++ lost = literal := hlost
  have hrest : lost ≠ [] := by
    rintro rfl
    exact hpart (List.append_nil p).symm
  exact ⟨_, .number hne hrest⟩

theorem stopsInDocument_string (atoms : List Atom) : StopsInDocument (string atoms) := by
  apply stopsInDocument_of_part
  intro after p hp hne _
  rcases List.prefix_cons_iff.mp hp with rfl | ⟨q, rfl, hq⟩
  · exact absurd rfl hne
  rcases prefix_append_cases hq with hatoms | ⟨q, hend, rfl, hquote⟩
  · exact exists_stopsAt_atoms [] atoms hatoms
  · rw [eq_singleton_of_ne_nil hquote hend]
    exact ⟨_, stopsAt_text (string atoms) after⟩

mutual

/-- Every beginning of a text stops somewhere in the document that it was taken from. -/
theorem stopsInDocument : ∀ d : Document, d.Proper → StopsInDocument d
  | .word w, _ => stopsInDocument_word w
  | .number literal, _ => stopsInDocument_number literal
  | .string atoms, _ => stopsInDocument_string atoms
  | .array gap items, proper =>
    stopsInDocument_array proper.1 (stopsInItems items gap proper.1 proper.2)
  | .object gap members, proper =>
    stopsInDocument_object proper.1 (stopsInMembers members gap proper.1 proper.2)

theorem stopsInItems : ∀ (items : List (Spaced Document)) (gap : Text), Blanks gap →
    ProperItems items → items ≠ [] → StopsInItems gap items
  | [], _, _, _, hne => absurd rfl hne
  | [⟨_, d, _⟩], _, hgap, proper, _ =>
    stopsInItems_singleton (stopsInDocument d proper.2.1) hgap proper.1
  | ⟨_, d, _⟩ :: next :: items, gap, hgap, proper, _ =>
    stopsInItems_cons (stopsInDocument d proper.2.1)
      (stopsInItems (next :: items) gap hgap proper.2.2.2 (List.cons_ne_nil next items)) hgap
      proper.1

theorem stopsInMembers : ∀ (members : List (Spaced (List Atom) × Spaced Document)) (gap : Text),
    Blanks gap → ProperMembers members → members ≠ [] → StopsInMembers gap members
  | [], _, _, _, hne => absurd rfl hne
  | [(_, ⟨_, d, _⟩)], _, hgap, proper, _ =>
    stopsInMembers_singleton (stopsInDocument d proper.2.2.2.2.1) hgap proper.1
  | (_, ⟨_, d, _⟩) :: next :: members, gap, hgap, proper, _ =>
    stopsInMembers_cons (stopsInDocument d proper.2.2.2.2.1)
      (stopsInMembers (next :: members) gap hgap proper.2.2.2.2.2.2
        (List.cons_ne_nil next members)) hgap proper.1

end

end Document

end AgentPanel.Json
