import AgentPanel.Reply.Extent
import AgentPanel.Text.Blank

/-!
# The candidate in a reply

Agents wrap their JSON in prose and code fences. The candidate is the part of a reply that is tried
as JSON: the first object, as far as its closing brace; if it never closes, all the rest without a
fence at the end; and without any brace, the reply without its fence marks and outer blanks.
-/

namespace AgentPanel.Reply

/-- The mark of a code fence. -/
def fence : Text := "```"

/-- The letters of the language label of a fence, in any case. The long s is a form of s. -/
def isLabelLetter (letter : Char) (c : CodePoint) : Bool :=
  c = letter ∨ c = letter.toUpper ∨ (letter = 's' ∧ c = 'ſ')

/-- The text without the label that may follow a fence mark. -/
def dropLabel : Text → Text
  | a :: b :: c :: d :: rest =>
    if isLabelLetter 'j' a ∧ isLabelLetter 's' b ∧ isLabelLetter 'o' c ∧ isLabelLetter 'n' d then
      rest
    else a :: b :: c :: d :: rest
  | t => t

theorem length_dropLabel_le (t : Text) : (dropLabel t).length ≤ t.length := by
  unfold dropLabel
  split
  · split
    · simp; omega
    · simp
  · exact Nat.le_refl _

/-- The text without its fence marks, each with its label if it has one. -/
def dropFences (t : Text) : Text :=
  match t with
  | .scalar '`' :: .scalar '`' :: .scalar '`' :: rest => dropFences (dropLabel rest)
  | c :: rest => c :: dropFences rest
  | [] => []
termination_by t.length
decreasing_by
  · have := length_dropLabel_le rest
    simp; omega
  · simp

/-- The text without the fence mark at its end and the blanks around it. -/
def dropLastFence (t : Text) : Text :=
  Text.trimEnd (t.trimEnd.take (t.trimEnd.length - fence.length))

/-- The text from its first opening brace on. -/
def fromFirstBrace (t : Text) : Text := t.dropWhile (· ≠ .scalar '\x7b')

/-- The candidate in a text that begins with an opening brace. -/
def objectCandidate (t : Text) : Text :=
  match extent t with
  | .closed object => object
  | .unclosed _ => if t.trimEnd.endsWith fence then dropLastFence t else t

/-- The part of a reply that is tried as JSON. -/
def candidate (reply : Text) : Text :=
  if (fromFirstBrace reply).isEmpty then (dropFences reply).trim
  else objectCandidate (fromFirstBrace reply)

end AgentPanel.Reply
