import AgentPanel.Text.Basic

/-!
# Control sequences

A terminal takes some rows of characters as commands, to change colours for instance:

    escape  [  parameters  marks  final

Parameters and marks may be missing, the final character may not. The three classes have no
character in common, so a control sequence can be read in one way only. It means nothing to a reader
that is no terminal: `withoutControlSequences` leaves it out.
-/

namespace AgentPanel

namespace CodePoint

/-- The digits and signs of parameters, `0` to `?`. -/
def isParameter (c : CodePoint) : Bool := 0x30 ≤ c.toNat && c.toNat ≤ 0x3F

/-- The marks after the parameters, the blank to `/`. -/
def isIntermediate (c : CodePoint) : Bool := 0x20 ≤ c.toNat && c.toNat ≤ 0x2F

/-- The letters and signs that end a control sequence, `@` to `~`. -/
def isFinal (c : CodePoint) : Bool := 0x40 ≤ c.toNat && c.toNat ≤ 0x7E

end CodePoint

namespace Text

/-- What begins a control sequence. -/
def sequenceStart : Text := ['\x1b', '[']

/-- What follows the control sequence at the beginning of a text. -/
def afterControlSequence? (t : Text) : Option Text :=
  match dropStart? sequenceStart t with
  | none => none
  | some rest =>
    match (rest.dropWhile CodePoint.isParameter).dropWhile CodePoint.isIntermediate with
    | [] => none
    | c :: after => if c.isFinal then some after else none

/-- Without its beginning a text is not longer. -/
theorem length_dropStart?_le {start t rest : Text} (h : dropStart? start t = some rest) :
    rest.length ≤ t.length := by
  fun_induction dropStart? start t with
  | case1 t => simp_all
  | case2 => simp at h
  | case3 s b t ih => exact Nat.le_succ_of_le (ih h)
  | case4 => simp at h

/-- What follows a control sequence is shorter than the text that begins with it. -/
theorem length_afterControlSequence?_lt {t after : Text}
    (h : afterControlSequence? t = some after) : after.length < t.length := by
  rw [afterControlSequence?] at h
  split at h
  · simp at h
  · next rest hrest =>
    have hstart := length_dropStart?_le hrest
    have hparameters := (List.dropWhile_suffix CodePoint.isParameter (l := rest)).length_le
    have hmarks := (List.dropWhile_suffix CodePoint.isIntermediate
      (l := rest.dropWhile CodePoint.isParameter)).length_le
    split at h
    · simp at h
    · next c after' hafter =>
      split at h
      · cases h
        rw [hafter, List.length_cons] at hmarks
        omega
      · simp at h

/-- The text without its control sequences. They are found from left to right; one that comes about
because another was left out stays. -/
def withoutControlSequences : Text → Text
  | [] => []
  | c :: rest =>
    match _h : afterControlSequence? (c :: rest) with
    | some after => withoutControlSequences after
    | none => c :: withoutControlSequences rest
termination_by t => t.length
decreasing_by
  · exact length_afterControlSequence?_lt _h
  · simp

/-- A text that does not begin with an escape does not begin with a control sequence. -/
theorem afterControlSequence?_cons_of_ne {c : CodePoint} (h : c ≠ .scalar '\x1b') (rest : Text) :
    afterControlSequence? (c :: rest) = none := by
  simp [afterControlSequence?, sequenceStart, dropStart?, Ne.symm h]

/-- A text without escapes stays as it is. -/
theorem withoutControlSequences_of_not_mem {t : Text} (h : .scalar '\x1b' ∉ t) :
    withoutControlSequences t = t := by
  fun_induction withoutControlSequences t with
  | case1 => rfl
  | case2 c rest after hafter =>
    rw [afterControlSequence?_cons_of_ne (List.ne_of_not_mem_cons h).symm] at hafter
    simp at hafter
  | case3 c rest _ ih => rw [ih (List.not_mem_of_not_mem_cons h)]

end Text

end AgentPanel
