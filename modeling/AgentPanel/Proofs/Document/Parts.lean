import AgentPanel.Json.Document

/-!
# Items and members one by one

The text of an array is its items with commas between them. A reader meets them one by one, so the
functions on lists of items and members are taken apart here at their last element.
-/

namespace AgentPanel.Json.Document

/-! ## Texts -/

/-- One item of an array. -/
def itemText (item : Spaced Document) : Text := item.before ++ item.inner.text ++ item.after

/-- The key of a member. -/
def keyText (key : Spaced (List Atom)) : Text :=
  key.before ++ Atom.quotedText key.inner ++ key.after

/-- One member of an object. -/
def memberText (member : Spaced (List Atom) × Spaced Document) : Text :=
  keyText member.1 ++ CodePoint.scalar ':' :: itemText member.2

/-- Items that more items follow. -/
def itemsBefore (items : List (Spaced Document)) : Text :=
  items.flatMap fun item => itemText item ++ [CodePoint.scalar ',']

/-- Members that more members follow. -/
def membersBefore (members : List (Spaced (List Atom) × Spaced Document)) : Text :=
  members.flatMap fun member => memberText member ++ [CodePoint.scalar ',']

theorem itemsText_singleton (item : Spaced Document) : itemsText [item] = itemText item := by
  obtain ⟨before, d, after⟩ := item
  simp [itemsText, itemText]

theorem itemsText_cons_cons (item next : Spaced Document) (items : List (Spaced Document)) :
    itemsText (item :: next :: items) =
      itemText item ++ CodePoint.scalar ',' :: itemsText (next :: items) := by
  obtain ⟨before, d, after⟩ := item
  simp [itemsText, itemText]

theorem itemsText_append (items : List (Spaced Document)) {rest : List (Spaced Document)}
    (h : rest ≠ []) : itemsText (items ++ rest) = itemsBefore items ++ itemsText rest := by
  obtain ⟨next, rest, rfl⟩ := List.exists_cons_of_ne_nil h
  induction items with
  | nil => rfl
  | cons first items ih =>
    have hsplit : itemsText (first :: items ++ next :: rest) =
        itemText first ++ CodePoint.scalar ',' :: itemsText (items ++ next :: rest) := by
      cases items <;> exact itemsText_cons_cons ..
    rw [hsplit, ih]
    simp [itemsBefore]

theorem itemsText_concat (items : List (Spaced Document)) (item : Spaced Document) :
    itemsText (items ++ [item]) = itemsBefore items ++ itemText item := by
  rw [itemsText_append items (List.cons_ne_nil item []), itemsText_singleton]

theorem membersText_singleton (member : Spaced (List Atom) × Spaced Document) :
    membersText [member] = memberText member := by
  obtain ⟨key, before, d, after⟩ := member
  simp [membersText, memberText, keyText, itemText]

theorem membersText_cons_cons (member next : Spaced (List Atom) × Spaced Document)
    (members : List (Spaced (List Atom) × Spaced Document)) :
    membersText (member :: next :: members) =
      memberText member ++ CodePoint.scalar ',' :: membersText (next :: members) := by
  obtain ⟨key, before, d, after⟩ := member
  simp [membersText, memberText, keyText, itemText]

theorem membersText_append (members : List (Spaced (List Atom) × Spaced Document))
    {rest : List (Spaced (List Atom) × Spaced Document)} (h : rest ≠ []) :
    membersText (members ++ rest) = membersBefore members ++ membersText rest := by
  obtain ⟨next, rest, rfl⟩ := List.exists_cons_of_ne_nil h
  induction members with
  | nil => rfl
  | cons first members ih =>
    have hsplit : membersText (first :: members ++ next :: rest) =
        memberText first ++ CodePoint.scalar ',' :: membersText (members ++ next :: rest) := by
      cases members <;> exact membersText_cons_cons ..
    rw [hsplit, ih]
    simp [membersBefore]

theorem membersText_concat (members : List (Spaced (List Atom) × Spaced Document))
    (member : Spaced (List Atom) × Spaced Document) :
    membersText (members ++ [member]) = membersBefore members ++ memberText member := by
  rw [membersText_append members (List.cons_ne_nil member []), membersText_singleton]

/-! ## Well-formedness and values -/

/-- The parts of an item are proper. -/
def ProperItem (item : Spaced Document) : Prop :=
  Blanks item.before ∧ item.inner.Proper ∧ Blanks item.after

theorem properItems_iff {items : List (Spaced Document)} :
    ProperItems items ↔ ∀ item ∈ items, ProperItem item := by
  induction items with
  | nil => simp [ProperItems]
  | cons item items ih =>
    rw [List.forall_mem_cons, ← ih, ProperItem, ProperItems, and_assoc, and_assoc]

theorem properItems_split {kept lost : List (Spaced Document)} {item : Spaced Document}
    (h : ProperItems (kept ++ item :: lost)) : ProperItems kept ∧ ProperItem item := by
  obtain ⟨hkept, hlost⟩ := List.forall_mem_append.mp (properItems_iff.mp h)
  exact ⟨properItems_iff.mpr hkept, (List.forall_mem_cons.mp hlost).1⟩

theorem properItems_concat {items : List (Spaced Document)} {item : Spaced Document}
    (h : ProperItems items) (hbefore : Blanks item.before) (hinner : item.inner.Proper)
    (hafter : Blanks item.after) : ProperItems (items ++ [item]) := by
  rw [properItems_iff] at h ⊢
  rw [List.forall_mem_append, List.forall_mem_singleton]
  exact ⟨h, hbefore, hinner, hafter⟩

/-- The parts of a key are proper. -/
def ProperKey (key : Spaced (List Atom)) : Prop :=
  Blanks key.before ∧ (∀ a ∈ key.inner, a.Proper) ∧ Blanks key.after

theorem properMembers_iff {members : List (Spaced (List Atom) × Spaced Document)} :
    ProperMembers members ↔ ∀ member ∈ members, ProperKey member.1 ∧ ProperItem member.2 := by
  induction members with
  | nil => simp [ProperMembers]
  | cons member members ih =>
    rw [List.forall_mem_cons, ← ih]
    simp only [ProperMembers, ProperKey, ProperItem, and_assoc]

theorem properMembers_split {kept lost : List (Spaced (List Atom) × Spaced Document)}
    {key : Spaced (List Atom)} {item : Spaced Document}
    (h : ProperMembers (kept ++ (key, item) :: lost)) :
    ProperMembers kept ∧ ProperKey key ∧ ProperItem item := by
  obtain ⟨hkept, hlost⟩ := List.forall_mem_append.mp (properMembers_iff.mp h)
  exact ⟨properMembers_iff.mpr hkept, (List.forall_mem_cons.mp hlost).1⟩

theorem properMembers_concat {members : List (Spaced (List Atom) × Spaced Document)}
    {key : Spaced (List Atom)} {item : Spaced Document} (h : ProperMembers members)
    (hkey : ProperKey key) (hbefore : Blanks item.before) (hinner : item.inner.Proper)
    (hafter : Blanks item.after) : ProperMembers (members ++ [(key, item)]) := by
  rw [properMembers_iff] at h ⊢
  rw [List.forall_mem_append, List.forall_mem_singleton]
  exact ⟨h, hkey, hbefore, hinner, hafter⟩

theorem itemValues?_cons (item : Spaced Document) (items : List (Spaced Document)) :
    itemValues? (item :: items) =
      item.inner.value?.bind fun v => (itemValues? items).bind fun vs => some (v :: vs) := rfl

theorem memberValues?_cons (done : Members) (key : Spaced (List Atom)) (item : Spaced Document)
    (members : List (Spaced (List Atom) × Spaced Document)) :
    memberValues? done ((key, item) :: members) =
      item.inner.value?.bind fun v =>
        memberValues? (done.set (Atom.points key.inner) v) members := rfl

theorem isSome_itemValues?_iff {items : List (Spaced Document)} :
    (itemValues? items).isSome ↔ ∀ item ∈ items, item.inner.value?.isSome := by
  induction items with
  | nil => simp [itemValues?]
  | cons item items ih =>
    rw [List.forall_mem_cons, ← ih, itemValues?_cons]
    cases item.inner.value? <;> cases itemValues? items <;> simp

theorem isSome_memberValues?_iff {members : List (Spaced (List Atom) × Spaced Document)}
    {done : Members} :
    (memberValues? done members).isSome ↔ ∀ member ∈ members, member.2.inner.value?.isSome := by
  induction members generalizing done with
  | nil => simp [memberValues?]
  | cons member members ih =>
    obtain ⟨key, item⟩ := member
    rw [List.forall_mem_cons, memberValues?_cons]
    cases item.inner.value? with
    | none => simp
    | some v => simpa using ih

theorem isSome_value?_array {gap : Text} {items : List (Spaced Document)} :
    (array gap items).value?.isSome ↔ ∀ item ∈ items, item.inner.value?.isSome := by
  rw [value?, ← isSome_itemValues?_iff, Option.map_eq_map, Option.isSome_map]

theorem isSome_value?_object {gap : Text}
    {members : List (Spaced (List Atom) × Spaced Document)} :
    (object gap members).value?.isSome ↔ ∀ member ∈ members, member.2.inner.value?.isSome := by
  rw [value?, Option.map_eq_map, Option.isSome_map]
  exact isSome_memberValues?_iff

theorem itemValues?_concat {items : List (Spaced Document)} {item : Spaced Document}
    {vs : List Value} {v : Value} (hvs : itemValues? items = some vs)
    (hv : item.inner.value? = some v) : itemValues? (items ++ [item]) = some (vs ++ [v]) := by
  induction items generalizing vs with
  | nil =>
    cases hvs
    simp [itemValues?, hv]
  | cons first items ih =>
    simp only [itemValues?, Option.bind_eq_bind, Option.bind_eq_some_iff, Option.pure_def,
      Option.some.injEq] at hvs
    obtain ⟨u, hu, us, hus, rfl⟩ := hvs
    simp [itemValues?, hu, ih hus]

theorem memberValues?_concat {members : List (Spaced (List Atom) × Spaced Document)}
    {key : Spaced (List Atom)} {item : Spaced Document} {done held : Members} {v : Value}
    (hheld : memberValues? done members = some held) (hv : item.inner.value? = some v) :
    memberValues? done (members ++ [(key, item)]) = some (held.set (Atom.points key.inner) v) := by
  induction members generalizing done with
  | nil =>
    cases hheld
    simp [memberValues?, hv]
  | cons first members ih =>
    simp only [memberValues?, Option.bind_eq_bind, Option.bind_eq_some_iff] at hheld
    obtain ⟨u, hu, hrest⟩ := hheld
    simp [memberValues?, hu, ih hrest]

end AgentPanel.Json.Document
