import Mathlib.Data.List.Count
import Mathlib.Data.List.Induction
import AgentPanel.Proofs.Reply.BraceDepth

/-!
# The brace around an object

The scan for the end of an object knows how many braces are open, repair knows which brackets are.
A closing bracket may take an opening one out of the middle of the stack, but not from below all
others as long as a second brace is open: the brace that an object begins with stays at the bottom
of the stack until the count comes to zero (`Unfinished.getLast?_brackets_next`).

So repair ends an object that never closes with the counted braces, the outermost one at the very
end, and what it appends to a closed object are square brackets (`repair_closes_counted_braces`).
-/

namespace AgentPanel.Reply

/-! ## The closing punctuation -/

theorem Bracket.closer_injective : Function.Injective Bracket.closer := by
  intro b b' h
  cases b with
  | curly =>
    cases b' with
    | curly => rfl
    | square => cases h
  | square =>
    cases b' with
    | curly => cases h
    | square => rfl

namespace Unfinished

variable {u : Unfinished} {b : Bracket} {c : CodePoint}

/-- What closes the open string has no brace. -/
theorem count_closeString (q : Quote) : (closeString q).count (CodePoint.scalar '\x7d') = 0 := by
  cases q <;> decide

/-- Each open brace has its closing brace. -/
theorem count_closing (u : Unfinished) : u.closing.count (CodePoint.scalar '\x7d') = u.depth := by
  have hbrackets : (u.brackets.map Bracket.closer).count Bracket.curly.closer =
      u.brackets.count .curly :=
    List.count_map_of_injective _ _ Bracket.closer_injective _
  rw [closing, List.count_append, count_closeString, Nat.zero_add]
  exact hbrackets

/-- The outermost bracket is closed at the very end. -/
theorem getLast?_closing (h : u.brackets.getLast? = some b) :
    u.closing.getLast? = some b.closer := by
  rw [closing, List.getLast?_append, List.getLast?_map, h]
  rfl

/-- Where no string and no brace is open, what closes the rest are square brackets. -/
theorem eq_square_of_mem_closing (hquote : u.quote = .outside) (hdepth : u.depth = 0)
    (hc : c ∈ u.closing) : c = ']' := by
  rw [closing, hquote] at hc
  obtain ⟨b, hb, rfl⟩ := List.mem_map.mp hc
  cases b with
  | square => rfl
  | curly => exact absurd hb (List.count_eq_zero.mp hdepth)

/-! ## The bottom of the stack -/

/-- A brace at the bottom of a stack stays there as long as any brace is left. -/
theorem getLast?_erase {brackets : List Bracket} (h : brackets.getLast? = some .curly)
    (hleft : 1 ≤ (brackets.erase b).count .curly) :
    (brackets.erase b).getLast? = some .curly := by
  by_cases hb : b ∈ brackets
  · obtain ⟨inner, outer, hinner, rfl, herase⟩ := List.exists_erase_eq hb
    rw [herase] at hleft ⊢
    rw [List.getLast?_append] at h
    cases outer with
    | nil =>
      -- the erased bracket is the brace at the bottom, and there is none above it
      obtain rfl : b = .curly := Option.some.inj h
      rw [List.append_nil, List.count_eq_zero.mpr hinner] at hleft
      exact absurd hleft (by decide)
    | cons next outer =>
      rw [List.getLast?_cons_cons] at h
      rw [List.getLast?_append]
      exact h
  · rw [List.erase_of_not_mem hb]
    exact h

theorem getLast?_brackets_next (h : u.brackets.getLast? = some .curly)
    (hleft : 1 ≤ (u.next c).depth) : (u.next c).brackets.getLast? = some .curly := by
  by_cases hquote : u.quote = .outside
  · obtain ⟨quote, brackets⟩ := u
    subst hquote
    simp only [next] at hleft ⊢
    split at hleft
    · -- one more bracket on top
      rw [List.getLast?_cons, h]
      rfl
    · exact getLast?_erase h hleft
    · exact h
  · -- inside a string the brackets stay as they are
    rw [next_of_quote_ne hquote]
    exact h

end Unfinished

/-! ## Objects -/

variable {t p : Text} {n : Nat}

/-- An object that never closes has its own brace at the bottom of the stack all the way. -/
theorem getLast?_brackets_of_extent (h : extent ('\x7b' :: t) = .unclosed n) (hp : p <+: t) :
    (unfinished ('\x7b' :: p)).brackets.getLast? = some .curly := by
  induction p using List.reverseRecOn with
  | nil => rfl
  | append_singleton p c ih =>
    have hbefore := ih ((List.prefix_append p [c]).trans hp)
    have hleft := depth_of_extent_unclosed h hp
    have hstep : unfinished ('\x7b' :: (p ++ [c])) = (unfinished ('\x7b' :: p)).next c :=
      List.foldl_append ..
    rw [hstep] at hleft ⊢
    exact Unfinished.getLast?_brackets_next hbefore hleft

/-- So it is closed at the very end. -/
theorem getLast?_missing_of_extent (h : extent ('\x7b' :: t) = .unclosed n) (hp : p <+: t) :
    (missing ('\x7b' :: p)).getLast? = some (CodePoint.scalar '\x7d') :=
  Unfinished.getLast?_closing (getLast?_brackets_of_extent h hp)

theorem getLast?_repair_of_extent (h : extent ('\x7b' :: t) = .unclosed n) (hp : p <+: t) :
    (repair ('\x7b' :: p)).getLast? = some (CodePoint.scalar '\x7d') := by
  rw [repair, List.getLast?_append, getLast?_missing_of_extent h hp]
  rfl

/-- The scan that counts braces and the one that stacks brackets agree on where an object is open.
To an object that never closes, repair appends as many closing braces as the scan for its end has
counted, at least one, and one of them at the very end. To an object that closes, repair appends
closing square brackets only. -/
theorem repair_closes_counted_braces {p : Text} (hp : p.head? = some (CodePoint.scalar '\x7b')) :
    (∀ depth, extent p = .unclosed depth →
        ∃ suffix, repair p = p ++ suffix ∧ 1 ≤ depth ∧
          suffix.count (CodePoint.scalar '\x7d') = depth ∧
          suffix.getLast? = some (CodePoint.scalar '\x7d')) ∧
      ∀ object, extent p = .closed object →
        object <+: p ∧
          ∃ suffix, repair object = object ++ suffix ∧
            ∀ c ∈ suffix, c = CodePoint.scalar ']' := by
  obtain ⟨t, rfl⟩ := List.head?_eq_some_iff.mp hp
  have hdescribes := extent_describes t
  constructor
  · intro depth hextent
    rw [hextent] at hdescribes
    obtain ⟨hpos, hdepth⟩ := hdescribes
    have hcount := Unfinished.count_closing (unfinished ('\x7b' :: t))
    have hlast := getLast?_missing_of_extent hextent (List.prefix_refl t)
    exact ⟨missing ('\x7b' :: t), rfl, hpos, hcount.trans hdepth, hlast⟩
  · intro object hextent
    rw [hextent] at hdescribes
    obtain ⟨hbegins, hquote, hdepth⟩ := hdescribes
    refine ⟨hbegins, missing object, rfl, ?_⟩
    intro c hc
    exact Unfinished.eq_square_of_mem_closing hquote hdepth hc

/-- Closing brackets take opening ones out of the middle, first in an object that is cut off behind
a backslash in a string, then in one that closes with a square bracket open. -/
theorem repair_closes_counted_braces_misnested :
    extent "\x7b\"a\": [\x7b]\x7d, [[\x7b\"b\\" = .unclosed 2 ∧
      repair "\x7b\"a\": [\x7b]\x7d, [[\x7b\"b\\" =
        Text.ofString "\x7b\"a\": [\x7b]\x7d, [[\x7b\"b\\" ++ Text.ofString "\\\"\x7d]]\x7d" ∧
      (Text.ofString "\\\"\x7d]]\x7d").count (CodePoint.scalar '\x7d') = 2 ∧
      (Text.ofString "\\\"\x7d]]\x7d").getLast? = some (CodePoint.scalar '\x7d') ∧
      extent "\x7b[\x7b[\x7d]\x7d \x7d" = .closed "\x7b[\x7b[\x7d]\x7d" ∧
      repair "\x7b[\x7b[\x7d]\x7d" = Text.ofString "\x7b[\x7b[\x7d]\x7d" ++ Text.ofString "]" ∧
      ∀ c ∈ Text.ofString "]", c = CodePoint.scalar ']' := by
  have hopen : extent "\x7b\"a\": [\x7b]\x7d, [[\x7b\"b\\" = .unclosed 2 := by decide
  have hclosed : extent "\x7b[\x7b[\x7d]\x7d \x7d" = .closed "\x7b[\x7b[\x7d]\x7d" := by decide
  have hrepair : repair "\x7b\"a\": [\x7b]\x7d, [[\x7b\"b\\" =
      Text.ofString "\x7b\"a\": [\x7b]\x7d, [[\x7b\"b\\" ++ Text.ofString "\\\"\x7d]]\x7d" := by
    decide
  have hsquare : repair "\x7b[\x7b[\x7d]\x7d" =
      Text.ofString "\x7b[\x7b[\x7d]\x7d" ++ Text.ofString "]" := by decide
  obtain ⟨suffix, happended, -, hcount, hlast⟩ :=
    (repair_closes_counted_braces (by decide)).1 2 hopen
  obtain ⟨-, closers, hclosers, hall⟩ := (repair_closes_counted_braces (by decide)).2 _ hclosed
  obtain rfl : suffix = Text.ofString "\\\"\x7d]]\x7d" :=
    List.append_cancel_left (happended.symm.trans hrepair)
  obtain rfl : closers = Text.ofString "]" :=
    List.append_cancel_left (hclosers.symm.trans hsquare)
  exact ⟨hopen, hrepair, hcount, hlast, hclosed, hsquare, hall⟩

end AgentPanel.Reply
