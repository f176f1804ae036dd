import AgentPanel.Proofs.Reply.OutermostBrace
import AgentPanel.Proofs.Reply.Verdict

/-!
# Whole objects

A text is a whole object if it begins with a brace and the scan for its end stops at its last code
point, no sooner and no later. The scan counts braces only. It still finds the end of every object
that the reader accepts (`isWholeObject_of_decodeWithin?`): as long as a brace is open, the reader
is inside the object, and once none is, it takes nothing but blanks.

Whole objects arise in two ways: as what the scan cuts out of a text (`isWholeObject_of_extent`),
and as what repair makes of an object that never closes (`isWholeObject_repair`).
-/

namespace AgentPanel.Reply

open Json (Value decodeWithin?)

/-! ## Where the scan stops -/

theorem Extent.exists_of_cons_closed {c : CodePoint} {e : Extent} {o : Text}
    (h : e.cons c = .closed o) : ∃ inner, e = .closed inner ∧ o = c :: inner := by
  cases e with
  | closed inner =>
    cases h
    exact ⟨inner, rfl, rfl⟩
  | unclosed depth => cases h

variable {quote : Quote} {depth n : Nat} {t o w : Text}

/-- Nothing behind the end of an object matters. -/
theorem scanBraces_append_of_closed (h : scanBraces quote depth t = .closed o) (tail : Text) :
    scanBraces quote depth (t ++ tail) = .closed o := by
  induction t generalizing quote depth o with
  | nil => cases h
  | cons c t ih =>
    rw [List.cons_append]
    rcases scanBraces_cons quote depth c with ⟨-, hlast⟩ | ⟨quote', depth', hpass⟩
    · rw [hlast] at h ⊢
      exact h
    · rw [hpass] at h ⊢
      obtain ⟨inner, hinner, rfl⟩ := Extent.exists_of_cons_closed h
      rw [ih hinner]
      rfl

/-- What the scan cuts out is cut out of itself. -/
theorem scanBraces_self_of_closed (h : scanBraces quote depth t = .closed o) :
    scanBraces quote depth o = .closed o := by
  induction t generalizing quote depth o with
  | nil => cases h
  | cons c t ih =>
    rcases scanBraces_cons quote depth c with ⟨-, hlast⟩ | ⟨quote', depth', hpass⟩
    · rw [hlast] at h
      cases h
      exact hlast []
    · rw [hpass] at h
      obtain ⟨inner, hinner, rfl⟩ := Extent.exists_of_cons_closed h
      rw [hpass, ih hinner]
      rfl

/-- Only a closing brace ends the scan. -/
theorem exists_unclosed_of_not_mem (hw : CodePoint.scalar '\x7d' ∉ w) (quote : Quote)
    (depth : Nat) : ∃ m, scanBraces quote depth w = .unclosed m := by
  induction w generalizing quote depth with
  | nil => exact ⟨depth, rfl⟩
  | cons c w ih =>
    rcases scanBraces_cons quote depth c with ⟨rfl, -⟩ | ⟨quote', depth', hpass⟩
    · exact absurd (List.mem_cons_self ..) hw
    · have hrest : CodePoint.scalar '\x7d' ∉ w := by
        intro hmem
        exact hw (List.mem_cons_of_mem _ hmem)
      obtain ⟨m, hm⟩ := ih hrest quote' depth'
      exact ⟨m, by rw [hpass, hm]; rfl⟩

/-- A text without a closing brace does not close an object that is still open. -/
theorem scanBraces_append_of_unclosed (h : scanBraces quote depth t = .unclosed n)
    (hw : CodePoint.scalar '\x7d' ∉ w) : ∃ m, scanBraces quote depth (t ++ w) = .unclosed m := by
  induction t generalizing quote depth with
  | nil => exact exists_unclosed_of_not_mem hw quote depth
  | cons c t ih =>
    rw [List.cons_append]
    rcases scanBraces_cons quote depth c with ⟨-, hlast⟩ | ⟨quote', depth', hpass⟩
    · rw [hlast] at h
      cases h
    · rw [hpass] at h ⊢
      obtain ⟨m, hm⟩ := ih (Extent.eq_of_cons_unclosed h)
      exact ⟨m, by rw [hm]; rfl⟩

/-! ## Whole objects -/

/-- The text is one object from its first code point to its last, as far as braces tell. -/
structure IsWholeObject (o : Text) : Prop where
  begins : o.head? = some (CodePoint.scalar '\x7b')
  closes : extent o = .closed o

theorem isWholeObject_of_extent (h : extent (CodePoint.scalar '\x7b' :: t) = .closed o) :
    IsWholeObject o := by
  refine ⟨?_, scanBraces_self_of_closed h⟩
  have hcons : (scanBraces .outside 1 t).cons (CodePoint.scalar '\x7b') = .closed o := h
  obtain ⟨inner, -, rfl⟩ := Extent.exists_of_cons_closed hcons
  rfl

end AgentPanel.Reply

namespace AgentPanel.Json.Reader

open Reply (IsWholeObject unfinished repair extent)

variable {limit : Nat}

/-! ## Accepted objects -/

/-- Behind a whole value the reader takes nothing but blanks. -/
theorem isSpace_of_run_after {v : Value} {t : Text} {σ : State}
    (h : run limit ⟨[], .after v⟩ t = some σ) : ∀ c ∈ t, isSpace c := by
  induction t with
  | nil => nofun
  | cons c t ih =>
    obtain ⟨σ₁, hstep, hrest⟩ := Option.bind_eq_some_iff.mp (run_cons _ c t ▸ h)
    cases move_of_step hstep with
    | blank space loose => cases loose
    | after follows =>
      cases follows with
      | blank space => exact List.forall_mem_cons.mpr ⟨space, ih hrest⟩

/-- An accepted text that begins and ends with a brace is a whole object. -/
theorem isWholeObject_of_decodeWithin? {o : Text} (h : (decodeWithin? limit o).isSome)
    (hfirst : o.head? = some (CodePoint.scalar '\x7b'))
    (hlast : o.getLast? = some (CodePoint.scalar '\x7d')) : IsWholeObject o := by
  obtain ⟨v, hv⟩ := Option.isSome_iff_exists.mp h
  obtain ⟨t, rfl⟩ := List.head?_eq_some_iff.mp hfirst
  have hdescribes := Reply.extent_describes t
  cases hextent : extent (CodePoint.scalar '\x7b' :: t) with
  | unclosed n =>
    rw [hextent] at hdescribes
    obtain ⟨hpos, hdepth⟩ := hdescribes
    have hnothing : unfinished (CodePoint.scalar '\x7b' :: t) = .nothing :=
      unfinished_of_decodeWithin? hv
    rw [← unfinished, hnothing] at hdepth
    exact absurd hdepth.symm (Nat.ne_of_gt hpos)
  | closed object =>
    -- where the scan stops the reader is behind the object, so there is no brace any more
    rw [hextent] at hdescribes
    obtain ⟨⟨rest, hrest⟩, -, hdepth⟩ := hdescribes
    have hwhole := Reply.isWholeObject_of_extent hextent
    obtain ⟨inner, rfl⟩ := List.head?_eq_some_iff.mp hwhole.begins
    rw [← hrest] at hv hlast ⊢
    obtain ⟨σ', hrun, -⟩ := Option.bind_eq_some_iff.mp hv
    obtain ⟨σ, hobject, hbehind⟩ := Option.bind_eq_some_iff.mp (run_append .start _ rest ▸ hrun)
    obtain ⟨w, rfl⟩ := exists_after_of_depth hobject hdepth
    cases rest with
    | nil => rwa [List.append_nil]
    | cons c rest =>
      -- the last brace would be among the blanks behind the object
      have hend : (c :: rest).getLast? = some (CodePoint.scalar '\x7d') := by
        rw [List.getLast?_append, List.getLast?_cons, Option.some_or] at hlast
        rw [List.getLast?_cons, hlast]
      have hspace := isSpace_of_run_after hbehind _ (List.mem_of_getLast? hend)
      exact absurd hspace (by decide)

/-! ## Repaired objects -/

/-- What repair makes of an object that never closes is a whole object, if it is accepted. -/
theorem isWholeObject_repair {t p : Text} {n : Nat} {v : Value}
    (h : extent (CodePoint.scalar '\x7b' :: t) = .unclosed n)
    (hp : p <+: CodePoint.scalar '\x7b' :: t) (hv : decodeWithin? limit (repair p) = some v) :
    IsWholeObject (repair p) := by
  cases p with
  | nil => cases hv
  | cons c p =>
    obtain ⟨rfl, hrest⟩ := List.cons_prefix_cons.mp hp
    have haccepted : (decodeWithin? limit (repair (CodePoint.scalar '\x7b' :: p))).isSome := by
      rw [hv]
      rfl
    exact isWholeObject_of_decodeWithin? haccepted rfl (Reply.getLast?_repair_of_extent h hrest)

end AgentPanel.Json.Reader
