import AgentPanel.Proofs.Repair.ClosingSuffix
import AgentPanel.Reply.Candidate

/-!
# Counted braces and stacked brackets

The scan for the end of an object counts open braces, repair stacks open brackets of both kinds. The
count is the number of braces on the stack, whatever square brackets do between them
(`scanBraces_describes`). So an object that never closes leaves a brace on the stack, in all its
beginnings, and one that closes leaves none.

A reader that began with a brace keeps it at the bottom of the stack until the text may end, so a
closed object that repair can save is one that needs no repair (`repair_eq_of_extent`).
-/

namespace AgentPanel.Reply

/-! ## One code point -/

namespace Unfinished

/-- The number of open braces. -/
def depth (u : Unfinished) : Nat := u.brackets.count .curly

variable {u : Unfinished} {c : CodePoint}

theorem next_open (h : u.quote = .outside) :
    u.next '\x7b' = ⟨.outside, .curly :: u.brackets⟩ := by
  obtain ⟨quote, brackets⟩ := u
  cases h
  rfl

theorem next_close (h : u.quote = .outside) :
    u.next '\x7d' = ⟨.outside, u.brackets.erase .curly⟩ := by
  obtain ⟨quote, brackets⟩ := u
  cases h
  rfl

/-- Only braces outside strings change the number of open braces. -/
theorem depth_next_of_not (hopen : ¬(u.quote = .outside ∧ c = '\x7b'))
    (hclose : ¬(u.quote = .outside ∧ c = '\x7d')) : (u.next c).depth = u.depth := by
  obtain ⟨quote, brackets⟩ := u
  by_cases hquote : quote = .outside
  · subst quote
    have hne₁ : c ≠ '\x7b' := fun h => hopen ⟨rfl, h⟩
    have hne₂ : c ≠ '\x7d' := fun h => hclose ⟨rfl, h⟩
    simp only [next, Bracket.opened?, Bracket.closed?, if_neg hne₁, if_neg hne₂]
    by_cases hsquare : c = '['
    · simp [depth, hsquare]
    · by_cases hend : c = ']'
      · have herase : (brackets.erase .square).count .curly = brackets.count .curly :=
          List.count_erase_of_ne (by decide)
        simp [depth, hend, herase]
      · simp [depth, hsquare, hend]
  · rw [next_of_quote_ne hquote]
    rfl

end Unfinished

/-! ## The scan -/

theorem Extent.eq_of_cons_unclosed {c : CodePoint} {e : Extent} {n : Nat}
    (h : e.cons c = .unclosed n) : e = .unclosed n := by
  cases e with
  | closed object => cases h
  | unclosed depth => exact h

/-- What the scan says of the brackets that are open where it stops. -/
def Extent.Describes (u : Unfinished) (t : Text) : Extent → Prop
  | closed object => object <+: t ∧ (object.foldl Unfinished.next u).quote = .outside ∧
      (object.foldl Unfinished.next u).depth = 0
  | unclosed n => 1 ≤ n ∧ (t.foldl Unfinished.next u).depth = n

theorem Extent.Describes.cons {u : Unfinished} {c : CodePoint} {t : Text} {e : Extent}
    (h : e.Describes (u.next c) t) : (e.cons c).Describes u (c :: t) := by
  cases e with
  | closed object =>
    obtain ⟨⟨rest, hrest⟩, hquote, hdepth⟩ := h
    exact ⟨⟨rest, congrArg (c :: ·) hrest⟩, hquote, hdepth⟩
  | unclosed n => exact h

/-- The scan that begins with as many braces as are open describes the brackets where it stops. -/
theorem scanBraces_describes (t : Text) (u : Unfinished) (h : 1 ≤ u.depth) :
    (scanBraces u.quote u.depth t).Describes u t := by
  induction t generalizing u with
  | nil => exact ⟨h, rfl⟩
  | cons c t ih =>
    rw [scanBraces]
    split
    -- an opening brace
    · next hopen =>
      obtain ⟨hquote, rfl⟩ := hopen
      have hdepth : (u.next '\x7b').depth = u.depth + 1 := by
        rw [Unfinished.next_open hquote]
        simp [Unfinished.depth]
      have := ih (u.next '\x7b') (by omega)
      rw [hdepth, Unfinished.next_open hquote] at this
      apply Extent.Describes.cons
      rwa [Unfinished.next_open hquote]
    split
    -- a closing brace, which may be the last one
    · next hclose =>
      obtain ⟨hquote, rfl⟩ := hclose
      have hdepth : (u.next '\x7d').depth = u.depth - 1 := by
        rw [Unfinished.next_close hquote]
        exact List.count_erase_self ..
      split
      · next hlast =>
        refine ⟨⟨t, rfl⟩, ?_, ?_⟩
        · show (u.next '\x7d').quote = .outside
          rw [Unfinished.next_close hquote]
        · show (u.next '\x7d').depth = 0
          omega
      · next hmore =>
        have := ih (u.next '\x7d') (by omega)
        rw [hdepth, Unfinished.next_close hquote] at this
        apply Extent.Describes.cons
        rwa [Unfinished.next_close hquote]
    -- all else leaves the count, and square brackets leave the braces on the stack
    · next hopen hclose =>
      have hdepth : (u.next c).depth = u.depth := Unfinished.depth_next_of_not hopen hclose
      have := ih (u.next c) (by omega)
      rw [hdepth, Unfinished.quote_next] at this
      exact this.cons

/-- One code point either is a closing brace that ends the scan, whatever follows, or is passed. -/
theorem scanBraces_cons (quote : Quote) (depth : Nat) (c : CodePoint) :
    (c = '\x7d' ∧ ∀ t, scanBraces quote depth (c :: t) = .closed [c]) ∨
      ∃ quote' depth',
        ∀ t, scanBraces quote depth (c :: t) = (scanBraces quote' depth' t).cons c := by
  by_cases hopen : quote = .outside ∧ c = '\x7b'
  · exact .inr ⟨.outside, depth + 1, fun t => by rw [scanBraces, if_pos hopen]⟩
  by_cases hclose : quote = .outside ∧ c = '\x7d'
  · by_cases hlast : depth ≤ 1
    · exact .inl ⟨hclose.2, fun t => by
        rw [scanBraces, if_neg hopen, if_pos hclose, if_pos hlast]⟩
    · exact .inr ⟨.outside, depth - 1, fun t => by
        rw [scanBraces, if_neg hopen, if_pos hclose, if_neg hlast]⟩
  · exact .inr ⟨quote.next c, depth, fun t => by rw [scanBraces, if_neg hopen, if_neg hclose]⟩

/-- The beginning of a text in which the scan finds no end has no end either. -/
theorem scanBraces_unclosed_of_isPrefix {quote : Quote} {depth n : Nat} {p t : Text} (hp : p <+: t)
    (h : scanBraces quote depth t = .unclosed n) : ∃ m, scanBraces quote depth p = .unclosed m := by
  induction p generalizing quote depth t with
  | nil => exact ⟨depth, rfl⟩
  | cons c p ih =>
    obtain ⟨rest, rfl⟩ := hp
    rw [List.cons_append] at h
    rcases scanBraces_cons quote depth c with ⟨-, hlast⟩ | ⟨quote', depth', hpass⟩
    · rw [hlast] at h
      cases h
    · rw [hpass] at h ⊢
      obtain ⟨m, hm⟩ := ih (List.prefix_append p rest) (Extent.eq_of_cons_unclosed h)
      exact ⟨m, by rw [hm]; rfl⟩

/-! ## Objects -/

theorem extent_describes (t : Text) :
    (extent ('\x7b' :: t)).Describes .nothing ('\x7b' :: t) := by
  have hrest := scanBraces_describes t (Unfinished.nothing.next '\x7b') (by decide)
  exact hrest.cons

/-- An object that never closes is open in all its beginnings. -/
theorem depth_of_extent_unclosed {t p : Text} {n : Nat} (h : extent ('\x7b' :: t) = .unclosed n)
    (hp : p <+: t) : 1 ≤ (unfinished ('\x7b' :: p)).depth := by
  have hcons : CodePoint.scalar '\x7b' :: p <+: CodePoint.scalar '\x7b' :: t :=
    List.cons_prefix_cons.mpr ⟨rfl, hp⟩
  obtain ⟨m, hm⟩ := scanBraces_unclosed_of_isPrefix hcons h
  have hdescribes := extent_describes p
  rw [extent, hm] at hdescribes
  obtain ⟨hpos, hdepth⟩ := hdescribes
  rw [unfinished, hdepth]
  exact hpos

end AgentPanel.Reply

namespace AgentPanel.Json.Reader

open Reply (Bracket Unfinished unfinished repair missing extent)

variable {limit : Nat}

/-! ## The brace at the bottom -/

/-- The outermost container is an object, or the text may end. -/
def State.InObject (σ : State) : Prop :=
  σ.unfinished.brackets.getLast? = some .curly ∨ ∃ v, σ = ⟨[], .after v⟩

theorem Move.inObject {σ σ' : State} {c : CodePoint} (h : Move limit σ c σ') (plain : σ.PlainWord)
    (hσ : σ.InObject) : σ'.InObject := by
  rcases hσ with hbottom | ⟨v, rfl⟩
  · have hnext : σ'.unfinished = σ.unfinished.next c := (h.next_unfinished plain).symm
    by_cases outside : σ.unfinished.quote = .outside
    · have hσ : σ.unfinished = ⟨.outside, σ.unfinished.brackets⟩ := by rw [← outside]
      rcases h.isPlain_or plain outside with hplain | rfl | hopened | ⟨b, -, hbrackets, w, hafter⟩
      · left
        rw [hnext, hσ, Unfinished.next_of_isPlain hplain]
        exact hbottom
      · left
        rw [hnext, hσ]
        exact hbottom
      · left
        obtain ⟨b, hb⟩ := Option.isSome_iff_exists.mp hopened
        have hpush : σ.unfinished.next c = ⟨.outside, b :: σ.unfinished.brackets⟩ := by
          rw [hσ]
          simp [Unfinished.next, hb]
        rw [hnext, hpush, List.getLast?_cons, hbottom]
        rfl
      · -- the closing bracket of the outermost container leads out of all of them
        obtain ⟨frames, phase⟩ := σ'
        obtain rfl : phase = .after w := hafter
        cases frames with
        | nil => exact .inr ⟨w, rfl⟩
        | cons f outer =>
          left
          rw [hbrackets] at hbottom
          exact List.getLast?_cons_cons.symm.trans hbottom
    · left
      rw [hnext, Unfinished.next_of_quote_ne outside]
      exact hbottom
  · cases h with
    | blank space loose => cases loose
    | after follows =>
      cases follows with
      | blank => exact .inr ⟨v, rfl⟩

theorem inObject_of_run {t : Text} {σ : State} (h : run limit .start ('\x7b' :: t) = some σ) :
    σ.InObject := by
  obtain ⟨σ₁, hstep, hrun⟩ := Option.bind_eq_some_iff.mp (run_cons .start '\x7b' t ▸ h)
  obtain rfl := eq_of_step_curly hstep
  have hboth : σ.InObject ∧ σ.PlainWord := by
    refine run_induction (motive := fun _ σ => σ.InObject ∧ σ.PlainWord) (s := []) hrun
      ⟨.inl rfl, ?_⟩ ?_
    · intro rest v hphase
      cases hphase
    · rintro _ σ c σ' ⟨hobject, plain⟩ hmove
      exact ⟨hmove.inObject plain hobject, hmove.plainWord plain⟩
  exact hboth.1

/-- Where no brace is open any more, the outermost object has been read. -/
theorem exists_after_of_depth {t : Text} {σ : State}
    (h : run limit .start ('\x7b' :: t) = some σ) (hdepth : (unfinished ('\x7b' :: t)).depth = 0) :
    ∃ v, σ = ⟨[], .after v⟩ := by
  rcases inObject_of_run h with hbottom | hafter
  · have hmem : Bracket.curly ∈ σ.unfinished.brackets := List.mem_of_getLast? hbottom
    rw [← unfinished_of_run h] at hmem
    exact absurd hdepth (Nat.ne_of_gt (List.count_pos_iff.mpr hmem))
  · exact hafter

/-! ## Repair of objects -/

/-- Repair leaves accepted texts as they are. -/
theorem repair_of_decodeWithin? {t : Text} {v : Value} (h : decodeWithin? limit t = some v) :
    repair t = t := by
  rw [repair, missing, unfinished_of_decodeWithin? h]
  exact List.append_nil t

/-- A closed object that repair makes valid lacks nothing. -/
theorem repair_eq_of_extent {t o : Text} {v : Value} (h : extent ('\x7b' :: t) = .closed o)
    (hv : decodeWithin? limit (repair o) = some v) : repair o = o := by
  have hdescribes := Reply.extent_describes t
  rw [h] at hdescribes
  obtain ⟨⟨rest, hrest⟩, -, hdepth⟩ := hdescribes
  cases o with
  | nil => rfl
  | cons c o =>
    obtain ⟨rfl, -⟩ := List.cons.inj hrest
    rw [decodeWithin?_repair] at hv
    obtain ⟨σ, hrun, -⟩ := Option.bind_eq_some_iff.mp hv
    obtain ⟨w, rfl⟩ := exists_after_of_depth hrun hdepth
    rw [repair, missing, unfinished_of_run hrun]
    exact List.append_nil _

/-- Repair does not change what a closed object comes to. -/
theorem decodeWithin?_repair_of_extent {t o : Text} (h : extent ('\x7b' :: t) = .closed o) :
    decodeWithin? limit (repair o) = decodeWithin? limit o := by
  cases hv : decodeWithin? limit (repair o) with
  | some v => rw [← hv, repair_eq_of_extent h hv]
  | none =>
    cases hw : decodeWithin? limit o with
    | none => rfl
    | some w =>
      rw [repair_of_decodeWithin? hw, hw] at hv
      cases hv

/-- No beginning of an object that never closes is accepted. -/
theorem decodeWithin?_eq_none_of_extent {t p : Text} {n : Nat}
    (h : extent ('\x7b' :: t) = .unclosed n) (hp : p <+: CodePoint.scalar '\x7b' :: t) :
    decodeWithin? limit p = none := by
  cases hv : decodeWithin? limit p with
  | none => rfl
  | some v =>
    cases p with
    | nil => cases hv
    | cons c p =>
      obtain ⟨rfl, hrest⟩ := List.cons_prefix_cons.mp hp
      have hdepth := Reply.depth_of_extent_unclosed h hrest
      rw [unfinished_of_decodeWithin? hv] at hdepth
      cases hdepth

end AgentPanel.Json.Reader
