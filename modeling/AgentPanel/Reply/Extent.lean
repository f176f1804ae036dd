import AgentPanel.Text.Basic

/-!
# Where an object ends

Braces inside a string do not count. `Quote` follows a text far enough to know whether it stands
inside a string, and `extent` uses it to find the brace that closes the object a text begins with.
-/

namespace AgentPanel.Reply

/-- Where a scan stands with respect to strings. -/
inductive Quote where
  /-- outside all strings -/
  | outside
  /-- inside a string -/
  | inside
  /-- inside a string, after a backslash that takes the meaning of the next code point -/
  | escaping
  deriving DecidableEq, Repr

/-- One code point further. -/
def Quote.next : Quote → CodePoint → Quote
  | outside, c => if c = '"' then inside else outside
  | inside, c => if c = '\\' then escaping else if c = '"' then outside else inside
  | escaping, _ => inside

/-- How far an object reaches. -/
inductive Extent where
  /-- it is closed; its text -/
  | closed (object : Text)
  /-- the text ends with `depth` braces open -/
  | unclosed (depth : Nat)
  deriving DecidableEq, Repr

/-- Adds a code point in front of a closed object. -/
def Extent.cons (c : CodePoint) : Extent → Extent
  | closed object => closed (c :: object)
  | unclosed depth => unclosed depth

/-- Scans on with `depth` braces open until the brace that closes the last of them. -/
def scanBraces (quote : Quote) (depth : Nat) : Text → Extent
  | [] => .unclosed depth
  | c :: rest =>
    if quote = .outside ∧ c = '\x7b' then .cons c (scanBraces .outside (depth + 1) rest)
    else if quote = .outside ∧ c = '\x7d' then
      if depth ≤ 1 then .closed [c] else .cons c (scanBraces .outside (depth - 1) rest)
    else .cons c (scanBraces (quote.next c) depth rest)

/-- How far the object reaches that the text begins with. -/
def extent (t : Text) : Extent := scanBraces .outside 0 t

end AgentPanel.Reply
