import AgentPanel.Reply.Extent

/-!
# Repairing a truncated reply

A reply that was cut off by a token limit lacks closing punctuation. The repair appends it: the end
of an open string, then the ends of the open containers, innermost first. It tracks strings and
brackets only, so it works on any text; a closing bracket that fits no open one is ignored, and
nothing of the text is ever removed or changed.
-/

namespace AgentPanel.Reply

/-- The two kinds of bracket. -/
inductive Bracket where
  | curly
  | square
  deriving DecidableEq, Repr

namespace Bracket

/-- The code point that closes a bracket. -/
def closer : Bracket → CodePoint
  | curly => '\x7d'
  | square => ']'

/-- The bracket that a code point opens. -/
def opened? (c : CodePoint) : Option Bracket :=
  if c = '\x7b' then some curly else if c = '[' then some square else none

/-- The bracket that a code point closes. -/
def closed? (c : CodePoint) : Option Bracket :=
  if c = '\x7d' then some curly else if c = ']' then some square else none

end Bracket

/-- What is open after a text: a string perhaps, and the brackets outside strings, the innermost
first. -/
structure Unfinished where
  quote : Quote
  brackets : List Bracket
  deriving DecidableEq, Repr

namespace Unfinished

/-- Nothing is open. -/
def nothing : Unfinished := ⟨.outside, []⟩

/-- One code point further. A closing bracket closes the innermost open one of its kind. -/
def next (u : Unfinished) (c : CodePoint) : Unfinished :=
  match u.quote with
  | .outside =>
    match Bracket.opened? c, Bracket.closed? c with
    | some b, _ => ⟨.outside, b :: u.brackets⟩
    | none, some b => ⟨.outside, u.brackets.erase b⟩
    | none, none => ⟨Quote.outside.next c, u.brackets⟩
  | quote => ⟨quote.next c, u.brackets⟩

/-- What closes the open string. After a backslash another one comes first, since a single one
would take the meaning of the closing quote. -/
def closeString : Quote → Text
  | .outside => []
  | .inside => ['"']
  | .escaping => ['\\', '"']

/-- What closes everything that is open. -/
def closing (u : Unfinished) : Text := closeString u.quote ++ u.brackets.map Bracket.closer

end Unfinished

/-- What is open after a text. -/
def unfinished (t : Text) : Unfinished := t.foldl Unfinished.next .nothing

/-- The closing punctuation that a text lacks. -/
def missing (t : Text) : Text := (unfinished t).closing

/-- The text with its missing closing punctuation. -/
def repair (t : Text) : Text := t ++ missing t

end AgentPanel.Reply
