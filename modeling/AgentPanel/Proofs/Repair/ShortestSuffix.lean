import AgentPanel.Proofs.Repair.ClosingSuffix

/-!
# The shortest closing suffix

Repair works on every text, JSON or not. It appends a closing suffix and leaves nothing open, so a
repaired text is its own repair; and no shorter suffix of any kind makes a text its own repair
(`repair_appends_shortest`).

What is open is measured by the length of what closes it. One code point brings this down by one at
most, wherever the scan stands: a closing bracket closes a single bracket, even one that is not the
innermost, and a string that ends in a backslash takes two code points to close.
-/

namespace AgentPanel.Reply

namespace Unfinished

/-! ## Closing leaves nothing open -/

/-- The closers of the open brackets, the innermost first, close all of them. -/
theorem foldl_next_closers (brackets : List Bracket) :
    (brackets.map Bracket.closer).foldl next ⟨.outside, brackets⟩ = nothing := by
  induction brackets with
  | nil => rfl
  | cons b brackets ih =>
    have hnext : (⟨.outside, b :: brackets⟩ : Unfinished).next b.closer = ⟨.outside, brackets⟩ := by
      cases b <;> rfl
    rw [List.map_cons, List.foldl_cons, hnext, ih]

theorem foldl_next_closing (u : Unfinished) : u.closing.foldl next u = nothing := by
  rw [closing, List.foldl_append, foldl_next_closeString, foldl_next_closers]

/-! ## The length of what closes -/

theorem length_closing (u : Unfinished) :
    u.closing.length = (closeString u.quote).length + u.brackets.length := by
  rw [closing, List.length_append, List.length_map]

theorem length_closeString_le_next (q : Quote) (c : CodePoint) :
    (closeString q).length ≤ (closeString (q.next c)).length + 1 := by
  cases q with
  | outside => exact Nat.zero_le _
  | inside => exact Nat.le_add_left 1 _
  | escaping => exact Nat.le_refl 2

/-- One code point closes no more than one code point of the suffix does. -/
theorem length_closing_le_next (u : Unfinished) (c : CodePoint) :
    u.closing.length ≤ (u.next c).closing.length + 1 := by
  rw [length_closing, length_closing]
  by_cases h : u.quote = .outside
  · obtain ⟨quote, brackets⟩ := u
    subst h
    simp only [next]
    split
    · simp only [List.length_cons]
      omega
    · next b _ _ =>
      have herase : brackets.length - 1 ≤ (brackets.erase b).length := List.le_length_erase
      simp only
      omega
    · simp only [closeString, List.length_nil]
      omega
  · -- inside a string the brackets stay as they are
    rw [next_of_quote_ne h]
    have hquote := length_closeString_le_next u.quote c
    simp only
    omega

theorem length_closing_le_foldl (t : Text) (u : Unfinished) :
    u.closing.length ≤ (t.foldl next u).closing.length + t.length := by
  induction t generalizing u with
  | nil => exact Nat.le_refl _
  | cons c t ih =>
    have hstep := length_closing_le_next u c
    have hrest := ih (u.next c)
    rw [List.foldl_cons, List.length_cons]
    omega

end Unfinished

/-! ## Every text -/

theorem unfinished_append (s t : Text) :
    unfinished (s ++ t) = t.foldl Unfinished.next (unfinished s) := List.foldl_append ..

theorem repair_eq_self_iff {t : Text} : repair t = t ↔ missing t = [] := List.append_right_eq_self

theorem repair_repair (t : Text) : repair (repair t) = repair t := by
  rw [repair_eq_self_iff, missing, repair, unfinished_append, missing,
    Unfinished.foldl_next_closing]
  rfl

theorem length_missing_le {s t : Text} (h : repair (t ++ s) = t ++ s) :
    (missing t).length ≤ s.length := by
  have hclosed := repair_eq_self_iff.mp h
  have hle := Unfinished.length_closing_le_foldl s (unfinished t)
  rw [← unfinished_append] at hle
  rw [missing] at hclosed
  rw [hclosed, List.length_nil, Nat.zero_add] at hle
  exact hle

theorem isClosers_map_closer (brackets : List Bracket) :
    IsClosers (brackets.map Bracket.closer) := by
  intro c hc
  obtain ⟨b, -, rfl⟩ := List.mem_map.mp hc
  cases b with
  | curly => exact .inl rfl
  | square => exact .inr rfl

/-- What closes a string is nothing, a quote, or a backslash and a quote. -/
theorem exists_closeString_eq (q : Quote) :
    ∃ slash quote : Text, Unfinished.closeString q = slash ++ quote ∧ IsOptional '\\' slash ∧
      IsOptional '"' quote ∧ (quote = [] → slash = []) := by
  cases q with
  | outside => exact ⟨[], [], rfl, .inl rfl, .inl rfl, fun _ => rfl⟩
  | inside => exact ⟨[], ['"'], rfl, .inl rfl, .inr rfl, fun _ => rfl⟩
  | escaping => exact ⟨['\\'], ['"'], rfl, .inr rfl, .inr rfl, nofun⟩

/-- Repair appends an optional backslash, that only before a quote, an optional quote and closing
brackets. A second repair appends nothing, and no suffix that makes the text its own repair is
shorter. -/
theorem repair_appends_shortest (t : Text) :
    ∃ slash quote closers : Text,
      repair t = t ++ (slash ++ quote ++ closers) ∧
        IsOptional '\\' slash ∧ IsOptional '"' quote ∧ (quote = [] → slash = []) ∧
        IsClosers closers ∧ repair (repair t) = repair t ∧
        ∀ s, repair (t ++ s) = t ++ s → (slash ++ quote ++ closers).length ≤ s.length := by
  obtain ⟨slash, quote, hstring, hslash, hquote, hbefore⟩ :=
    exists_closeString_eq (unfinished t).quote
  have hmissing : missing t =
      slash ++ quote ++ (unfinished t).brackets.map Bracket.closer := by
    rw [missing, Unfinished.closing, hstring]
  refine ⟨slash, quote, (unfinished t).brackets.map Bracket.closer, ?_, hslash, hquote, hbefore,
    isClosers_map_closer _, repair_repair t, ?_⟩
  · rw [repair, hmissing]
  · intro s hs
    rw [← hmissing]
    exact length_missing_le hs

/-- A closing brace without an opening one, two open brackets, and an open string that ends in a
backslash. A suffix that goes on with the string is no shorter than the one that repair appends. -/
theorem repair_appends_shortest_openString :
    repair "[\x7d\x7b\"a\\" = Text.ofString "[\x7d\x7b\"a\\" ++ Text.ofString "\\\"\x7d]" ∧
      repair (Text.ofString "[\x7d\x7b\"a\\" ++ Text.ofString "n\"]\x7d") =
        Text.ofString "[\x7d\x7b\"a\\" ++ Text.ofString "n\"]\x7d" ∧
      (Text.ofString "\\\"\x7d]").length ≤ (Text.ofString "n\"]\x7d").length := by
  have hrepair : repair "[\x7d\x7b\"a\\" =
      Text.ofString "[\x7d\x7b\"a\\" ++ Text.ofString "\\\"\x7d]" := by decide
  have hother : repair (Text.ofString "[\x7d\x7b\"a\\" ++ Text.ofString "n\"]\x7d") =
      Text.ofString "[\x7d\x7b\"a\\" ++ Text.ofString "n\"]\x7d" := by decide
  obtain ⟨slash, quote, closers, happended, -, -, -, -, -, hshortest⟩ :=
    repair_appends_shortest "[\x7d\x7b\"a\\"
  have hsuffix : slash ++ quote ++ closers = Text.ofString "\\\"\x7d]" :=
    List.append_cancel_left (happended.symm.trans hrepair)
  exact ⟨hrepair, hother, hsuffix ▸ hshortest _ hother⟩

end AgentPanel.Reply
