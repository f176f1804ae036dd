import AgentPanel.Text.Basic

/-!
# Replacing leaves nothing to replace

A replacement goes through a text once, from left to right. Text that was not replaced could still
come to stand beside something new in such a way that the two make up another occurrence. They do
not if the first code point of the new part does not occur in the old one, and the first one of the
old part not in the new one: then no occurrence is left at all (`not_infix_replace`), however they
overlapped before.
-/

namespace AgentPanel.Text

variable {a b : CodePoint} {old new part s t : Text}

theorem startsWith_iff_isPrefix : startsWith t s = true ↔ s <+: t := by
  induction s generalizing t with
  | nil => simp [startsWith, dropStart?]
  | cons c s ih =>
    cases t with
    | nil => simp [startsWith, dropStart?]
    | cons d t =>
      rw [List.cons_prefix_cons, ← ih, startsWith, startsWith, dropStart?]
      by_cases h : c = d
      · simp [h]
      · simp [h]

theorem infix_of_infix_append (ha : a ∉ s) (h : a :: part <:+: s ++ t) : a :: part <:+: t := by
  induction s with
  | nil => exact h
  | cons c s ih =>
    obtain ⟨hc, hs⟩ := List.ne_and_not_mem_of_not_mem_cons ha
    rcases List.infix_cons_iff.mp h with hprefix | hinfix
    · exact absurd (List.cons_prefix_cons.mp hprefix).1 hc
    · exact ih hs hinfix

/-- What stands first after a replacement stood there before, if it cannot be new. -/
theorem prefix_of_prefix_replaceFrom (hb : b ∉ part)
    (h : part <+: replaceFrom old (b :: new) 0 t) : part <+: t := by
  induction part generalizing t with
  | nil => exact List.nil_prefix
  | cons c part ih =>
    obtain ⟨hbc, hpart⟩ := List.ne_and_not_mem_of_not_mem_cons hb
    cases t with
    | nil => exact h
    | cons d t =>
      rw [replaceFrom] at h
      split at h
      · exact absurd (List.cons_prefix_cons.mp h).1.symm hbc
      · obtain ⟨rfl, hrest⟩ := List.cons_prefix_cons.mp h
        exact List.cons_prefix_cons.mpr ⟨rfl, ih hpart hrest⟩

theorem not_infix_replaceFrom (ha : a ∉ b :: new) (hb : b ∉ a :: old) (pending : Nat) (t : Text) :
    ¬a :: old <:+: replaceFrom (a :: old) (b :: new) pending t := by
  induction t generalizing pending with
  | nil =>
    intro h
    cases pending <;> cases List.eq_nil_of_infix_nil h
  | cons c rest ih =>
    cases pending with
    | succ pending => exact ih pending
    | zero =>
      rw [replaceFrom]
      split
      · intro h
        exact ih _ (infix_of_infix_append ha h)
      · next hstart =>
        intro h
        rcases List.infix_cons_iff.mp h with hprefix | hinfix
        · -- an occurrence that begins with a code point left as it is was there before
          obtain ⟨rfl, htail⟩ := List.cons_prefix_cons.mp hprefix
          have hold := prefix_of_prefix_replaceFrom (List.not_mem_of_not_mem_cons hb) htail
          exact hstart (startsWith_iff_isPrefix.mpr (List.cons_prefix_cons.mpr ⟨rfl, hold⟩))
        · exact ih 0 hinfix

/-- No occurrence is left, and none has come up. -/
theorem not_infix_replace (ha : a ∉ b :: new) (hb : b ∉ a :: old) (t : Text) :
    ¬a :: old <:+: replace t (a :: old) (b :: new) :=
  not_infix_replaceFrom ha hb 0 t

theorem replace_ne_nil (h : t ≠ []) : replace t old (b :: new) ≠ [] := by
  cases t with
  | nil => exact absurd rfl h
  | cons c rest =>
    rw [replace, replaceFrom]
    split
    · exact List.cons_ne_nil _ _
    · exact List.cons_ne_nil _ _

end AgentPanel.Text
