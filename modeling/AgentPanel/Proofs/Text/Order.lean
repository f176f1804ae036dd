import AgentPanel.Text.Basic

/-!
# Text order

Code points are told apart by their numbers, so text order is linear: of two different texts one
comes before the other, and never both. What is sorted by it and has no text twice is in strictly
ascending order (`pairwise_before_mergeSort`).
-/

namespace AgentPanel

namespace CodePoint

/-- No character has the number of a surrogate. -/
theorem toNat_injective {a b : CodePoint} (h : a.toNat = b.toNat) : a = b := by
  cases a with
  | scalar c =>
    cases b with
    | scalar d =>
      have hcd : c = d := Char.ext (UInt32.toNat_inj.mp h)
      rw [hcd]
    | surrogate half =>
      exfalso
      have hvalid : c.toNat < 0xD800 ∨ 0xDFFF < c.toNat ∧ c.toNat < 0x110000 := c.valid
      have hhalf := half.isLt
      have hnumber : c.toNat = 0xD800 + half.val := h
      omega
  | surrogate half =>
    cases b with
    | scalar d =>
      exfalso
      have hvalid : d.toNat < 0xD800 ∨ 0xDFFF < d.toNat ∧ d.toNat < 0x110000 := d.valid
      have hhalf := half.isLt
      have hnumber : 0xD800 + half.val = d.toNat := h
      omega
    | surrogate other =>
      have hnumber : 0xD800 + half.val = 0xD800 + other.val := h
      have hsame : half = other := Fin.ext (by omega)
      rw [hsame]

end CodePoint

namespace Text

theorem before_cons {a b : CodePoint} {s t : Text} :
    before (a :: s) (b :: t) = true ↔ a.toNat < b.toNat ∨ a = b ∧ before s t = true := by
  simp [before]

theorem not_before_nil (s : Text) : before s [] = false := by
  cases s <;> rfl

theorem before_irrefl (s : Text) : before s s = false := by
  induction s with
  | nil => rfl
  | cons a s ih => simp [before, ih]

theorem before_trans {s t u : Text} (hst : before s t = true) (htu : before t u = true) :
    before s u = true := by
  induction s generalizing t u with
  | nil =>
    cases u with
    | nil => rw [not_before_nil] at htu; cases htu
    | cons c u => rfl
  | cons a s ih =>
    cases t with
    | nil => cases hst
    | cons b t =>
      cases u with
      | nil => cases htu
      | cons c u =>
        rw [before_cons] at hst htu ⊢
        rcases hst with hab | ⟨rfl, hst⟩
        · rcases htu with hbc | ⟨rfl, -⟩
          · exact .inl (Nat.lt_trans hab hbc)
          · exact .inl hab
        · rcases htu with hbc | ⟨rfl, htu⟩
          · exact .inl hbc
          · exact .inr ⟨rfl, ih hst htu⟩

theorem before_asymm {s t : Text} (h : before s t = true) : before t s = false := by
  cases hts : before t s with
  | false => rfl
  | true =>
    have hss := before_trans h hts
    rw [before_irrefl] at hss
    cases hss

theorem before_trichotomy (s t : Text) : before s t = true ∨ s = t ∨ before t s = true := by
  induction s generalizing t with
  | nil =>
    cases t with
    | nil => exact .inr (.inl rfl)
    | cons b t => exact .inl rfl
  | cons a s ih =>
    cases t with
    | nil => exact .inr (.inr rfl)
    | cons b t =>
      rcases Nat.lt_trichotomy a.toNat b.toNat with hlt | heq | hgt
      · exact .inl (before_cons.mpr (.inl hlt))
      · obtain rfl := CodePoint.toNat_injective heq
        rcases ih t with hst | rfl | hts
        · exact .inl (before_cons.mpr (.inr ⟨rfl, hst⟩))
        · exact .inr (.inl rfl)
        · exact .inr (.inr (before_cons.mpr (.inr ⟨rfl, hts⟩)))
      · exact .inr (.inr (before_cons.mpr (.inl hgt)))

theorem not_before_trans {s t u : Text} (hst : before t s = false) (htu : before u t = false) :
    before u s = false := by
  cases hus : before u s with
  | false => rfl
  | true =>
    rcases before_trichotomy t u with h | rfl | h
    · rw [before_trans h hus] at hst
      cases hst
    · rw [hus] at hst
      cases hst
    · rw [h] at htu
      cases htu

/-- Texts that are all different, sorted by text order, stand in strictly ascending order. -/
theorem pairwise_before_mergeSort {texts : List Text} (h : texts.Nodup) :
    (texts.mergeSort fun a b => !before b a).Pairwise fun a b => before a b = true := by
  have hsorted : (texts.mergeSort fun a b => !before b a).Pairwise
      fun a b => (!before b a) = true := by
    apply List.pairwise_mergeSort
    · intro s t u hst htu
      rw [Bool.not_eq_true'] at hst htu ⊢
      exact not_before_trans hst htu
    · intro s t
      cases hts : before t s with
      | false => rfl
      | true => rw [before_asymm hts]; rfl
  have hdistinct : (texts.mergeSort fun a b => !before b a).Nodup :=
    (List.mergeSort_perm ..).nodup_iff.mpr h
  apply (hsorted.and hdistinct).imp
  intro s t hst
  rcases before_trichotomy s t with hbefore | heq | hafter
  · exact hbefore
  · exact absurd heq hst.2
  · rw [hafter] at hst
    cases hst.1

end Text

end AgentPanel
