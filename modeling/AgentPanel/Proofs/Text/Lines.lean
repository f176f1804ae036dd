import AgentPanel.Text.Quoted
import AgentPanel.Number.Shortest

/-!
# Lines of a text

How a text falls apart at its line ends, and what has none: quoted texts, for quoting writes a line
end as an escape, and the texts of numbers.
-/

namespace AgentPanel

namespace Text

variable {mark : CodePoint} {s t : Text}

/-! ## Splitting -/

theorem splitAll_ne_nil (mark : CodePoint) (t : Text) : splitAll mark t ≠ [] := by
  induction t with
  | nil => exact List.cons_ne_nil _ _
  | cons c rest ih =>
    rw [splitAll]
    by_cases hc : c = mark
    · rw [if_pos hc]
      exact List.cons_ne_nil _ _
    · rw [if_neg hc]
      cases hparts : splitAll mark rest with
      | nil => exact (ih hparts).elim
      | cons part parts => exact List.cons_ne_nil _ _

theorem splitAll_append_cons (s t : Text) :
    splitAll mark (s ++ mark :: t) = splitAll mark s ++ splitAll mark t := by
  induction s with
  | nil =>
    show splitAll mark (mark :: t) = [] :: splitAll mark t
    rw [splitAll, if_pos rfl]
  | cons c s ih =>
    rw [List.cons_append, splitAll, splitAll, ih]
    by_cases hc : c = mark
    · rw [if_pos hc, if_pos hc]
      rfl
    · rw [if_neg hc, if_neg hc]
      cases hparts : splitAll mark s with
      | nil => exact (splitAll_ne_nil mark s hparts).elim
      | cons part parts => rfl

theorem length_splitAll (mark : CodePoint) (t : Text) :
    (splitAll mark t).length = t.count mark + 1 := by
  induction t with
  | nil => rfl
  | cons c rest ih =>
    rw [splitAll]
    by_cases hc : c = mark
    · rw [if_pos hc, List.length_cons, ih, hc, List.count_cons_self]
    · rw [if_neg hc, List.count_cons_of_ne hc, ← ih]
      cases hparts : splitAll mark rest with
      | nil => exact (splitAll_ne_nil mark rest hparts).elim
      | cons part parts => rfl

theorem splitAll_of_not_mem (h : mark ∉ t) : splitAll mark t = [t] := by
  induction t with
  | nil => rfl
  | cons c rest ih =>
    obtain ⟨hc, hrest⟩ := List.ne_and_not_mem_of_not_mem_cons h
    rw [splitAll, if_neg (Ne.symm hc), ih hrest]

/-- Parts that are joined by the mark are split where they are, and within. -/
theorem splitAll_join {parts : List Text} (hparts : parts ≠ []) :
    splitAll mark (join [mark] parts) = parts.flatMap (splitAll mark) := by
  induction parts with
  | nil => exact (hparts rfl).elim
  | cons part rest ih =>
    cases rest with
    | nil =>
      rw [List.flatMap_singleton]
      rfl
    | cons next rest =>
      have hjoin : join [mark] (part :: next :: rest) =
          part ++ mark :: join [mark] (next :: rest) := by
        simp [join]
      rw [hjoin, splitAll_append_cons, ih (List.cons_ne_nil _ _)]
      rfl

theorem length_le_length_flatMap_splitAll {α : Type} (mark : CodePoint) (line : α → Text)
    (parts : List α) : parts.length ≤ (parts.flatMap fun p => splitAll mark (line p)).length := by
  induction parts with
  | nil => exact Nat.le_refl _
  | cons p rest ih =>
    rw [List.flatMap_cons, List.length_append, length_splitAll, List.length_cons]
    omega

/-- Texts that are split into as many pieces are not split at all. -/
theorem flatMap_splitAll_eq_map_iff {α : Type} {line : α → Text} {parts : List α} :
    (parts.flatMap fun p => splitAll mark (line p)) = parts.map line ↔
      ∀ p ∈ parts, mark ∉ line p := by
  constructor
  · intro heq
    have hlength := congrArg List.length heq
    clear heq
    rw [List.length_map] at hlength
    induction parts with
    | nil => exact nofun
    | cons p rest ih =>
      have hrest := length_le_length_flatMap_splitAll mark line rest
      rw [List.flatMap_cons, List.length_append, length_splitAll, List.length_cons] at hlength
      have hcount : (line p).count mark = 0 := by omega
      exact List.forall_mem_cons.mpr ⟨List.count_eq_zero.mp hcount, ih (by omega)⟩
  · intro hlines
    induction parts with
    | nil => rfl
    | cons p rest ih =>
      obtain ⟨hp, hrest⟩ := List.forall_mem_cons.mp hlines
      rw [List.flatMap_cons, splitAll_of_not_mem hp, ih hrest]
      rfl

/-! ## Texts of one line -/

/-- The text has no line end. -/
def OneLine (t : Text) : Prop := .scalar '\n' ∉ t

instance (t : Text) : Decidable t.OneLine := inferInstanceAs (Decidable (_ ∉ _))

theorem oneLine_append : OneLine (s ++ t) ↔ s.OneLine ∧ t.OneLine := by
  simp [OneLine]

theorem OneLine.append (hs : s.OneLine) (ht : t.OneLine) : OneLine (s ++ t) :=
  oneLine_append.mpr ⟨hs, ht⟩

theorem oneLine_flatten {parts : List Text} (h : ∀ part ∈ parts, part.OneLine) :
    OneLine parts.flatten := by
  intro hmem
  obtain ⟨part, hpart, hline⟩ := List.mem_flatten.mp hmem
  exact h part hpart hline

theorem OneLine.times (h : t.OneLine) (n : Nat) : OneLine (times n t) := by
  apply oneLine_flatten
  intro part hpart
  rw [List.eq_of_mem_replicate hpart]
  exact h

theorem oneLine_join {sep : Text} {parts : List Text} (hsep : sep.OneLine)
    (h : ∀ part ∈ parts, part.OneLine) : OneLine (join sep parts) := by
  induction parts with
  | nil => exact List.not_mem_nil
  | cons part rest ih =>
    obtain ⟨hpart, hrest⟩ := List.forall_mem_cons.mp h
    cases rest with
    | nil => exact hpart
    | cons next rest => exact (hpart.append hsep).append (ih hrest)

theorem oneLine_map_scalar {chars : List Char} (h : '\n' ∉ chars) :
    OneLine (chars.map CodePoint.scalar) := by
  intro hmem
  obtain ⟨c, hc, heq⟩ := List.mem_map.mp hmem
  cases heq
  exact h hc

/-! ## Numbers -/

theorem newline_not_mem_toDigits (b n : Nat) (hb : 1 < b) : '\n' ∉ Nat.toDigits b n := by
  induction n using Nat.strongRecOn with
  | ind n ih =>
    have hdigit : ∀ m, Nat.digitChar m ≠ '\n' := fun _ => Nat.digitChar_ne '\n' (by decide)
    rw [Nat.toDigits_eq_if hb]
    by_cases hn : n < b
    · rw [if_pos hn, List.mem_singleton]
      exact (hdigit n).symm
    · rw [if_neg hn, List.mem_append, List.mem_singleton]
      rintro (hmem | heq)
      · exact ih (n / b) (Nat.div_lt_self (by omega) hb) hmem
      · exact hdigit _ heq.symm

theorem oneLine_ofNat (n : Nat) : OneLine (ofNat n) :=
  oneLine_map_scalar (newline_not_mem_toDigits 10 n (by decide))

theorem oneLine_ofInt (n : Int) : OneLine (ofInt n) := by
  cases n with
  | ofNat m => exact oneLine_ofNat m
  | negSucc m =>
    have hsign : OneLine [CodePoint.scalar '-'] := by decide
    exact hsign.append (oneLine_ofNat (m + 1))

theorem oneLine_ofHex (width n : Nat) : OneLine (ofHex width n) := by
  apply oneLine_map_scalar
  rw [List.mem_append]
  rintro (hzero | hdigit)
  · cases (List.mem_replicate.mp hzero).2
  · exact newline_not_mem_toDigits 16 n (by decide) hdigit

/-! ## Quoted texts -/

theorem oneLine_quotedPoint {mark : CodePoint} (hmark : mark ≠ .scalar '\n') (c : CodePoint) :
    OneLine (quotedPoint mark c) := by
  unfold quotedPoint
  split
  case isTrue h =>
    have hc : c ≠ .scalar '\n' := by
      rcases h with rfl | rfl
      · exact hmark
      · decide
    simp [OneLine, hc.symm]
  case isFalse =>
    split
    · decide
    · rename_i hc
      have hescape : ∀ (start : Text) (width : Nat), start.OneLine →
          OneLine (start ++ ofHex width c.toNat) :=
        fun start width hstart => hstart.append (oneLine_ofHex width _)
      repeat' split
      · decide
      · decide
      · simpa [OneLine] using Ne.symm hc
      · exact hescape _ 2 (by decide)
      · exact hescape _ 4 (by decide)
      · exact hescape _ 8 (by decide)

theorem oneLine_quoted (t : Text) : OneLine t.quoted := by
  have hmark : t.quoteMark ≠ .scalar '\n' := by
    unfold quoteMark
    split <;> decide
  have hends : OneLine [t.quoteMark] := by simpa [OneLine] using hmark.symm
  have hinside : OneLine (t.flatMap (quotedPoint t.quoteMark)) := by
    intro hmem
    obtain ⟨c, -, hline⟩ := List.mem_flatMap.mp hmem
    exact oneLine_quotedPoint hmark c hline
  exact (hends.append hinside).append hends

end Text

namespace Double

theorem newline_not_mem_significantDigits (d : Nat) (unit : Int) :
    '\n' ∉ (significantDigits d unit).1 := by
  intro hmem
  have hdropped := (List.dropWhile_sublist _).subset (List.mem_reverse.mp hmem)
  exact Text.newline_not_mem_toDigits 10 d (by decide) (List.mem_reverse.mp hdropped)

theorem newline_not_mem_exponentText (e : Int) : '\n' ∉ exponentText e := by
  have hdigits := Text.newline_not_mem_toDigits 10 e.natAbs (by decide)
  have hsign : '\n' ≠ if e < 0 then '-' else '+' := by
    split <;> decide
  simp [exponentText, hdigits, hsign, List.mem_replicate]

theorem newline_not_mem_decimalText {digits : List Char} (h : '\n' ∉ digits) (point : Int) :
    '\n' ∉ decimalText digits point := by
  have hexponent := newline_not_mem_exponentText (point - 1)
  unfold decimalText
  split
  · split
    · exact h
    · simpa [hexponent] using h
    · simpa [hexponent] using h
  · split
    · simp [h, List.mem_replicate]
    · have htake : '\n' ∉ digits.take point.toNat := fun hmem => h (List.mem_of_mem_take hmem)
      have hdrop : '\n' ∉ digits.drop point.toNat := fun hmem => h (List.mem_of_mem_drop hmem)
      have hfraction : '\n' ∉ if (digits.drop point.toNat).isEmpty then ['0'] else
          digits.drop point.toNat := by
        split
        · decide
        · exact hdrop
      simp only [List.mem_append, List.mem_cons, List.mem_replicate, not_or, not_and]
      exact ⟨⟨htake, fun _ => by decide⟩, by decide, hfraction⟩

theorem oneLine_toText (x : Double) : x.toText.OneLine := by
  cases x with
  | nan => decide
  | infinity negative => cases negative <;> decide
  | finite negative m s =>
    have hsign : Text.OneLine (if negative then ['-'] else []) := by
      cases negative <;> decide
    simp only [toText]
    split
    · exact hsign.append (by decide)
    · apply hsign.append
      apply Text.oneLine_map_scalar
      exact newline_not_mem_decimalText (newline_not_mem_significantDigits _ _) _

end Double

end AgentPanel
