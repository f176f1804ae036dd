import AgentPanel.Text.Printable

/-!
# Quoted text

How a text is shown inside a value or a message: between single quotes, or between double quotes
when it holds a single quote and no double one. The quote in use and the backslash get a backslash;
line feed, carriage return and tab are written `\n`, `\r` and `\t`; any other code point that is not
printable is written by its number as `\xhh`, `\uhhhh` or `\Uhhhhhhhh`, the shortest that fits.
-/

namespace AgentPanel.Text

/-- The mark that a text is quoted with. -/
def quoteMark (t : Text) : CodePoint :=
  if .scalar '\'' ∈ t ∧ .scalar '"' ∉ t then '"' else '\''

/-- A code point as it is written between quotes `mark`. -/
def quotedPoint (mark c : CodePoint) : Text :=
  if c = mark ∨ c = .scalar '\\' then ['\\', c]
  else if c = .scalar '\n' then "\\n"
  else if c = .scalar '\r' then "\\r"
  else if c = .scalar '\t' then "\\t"
  else if c.isPrintable then [c]
  else if c.toNat < 0x100 then "\\x" ++ ofHex 2 c.toNat
  else if c.toNat < 0x10000 then "\\u" ++ ofHex 4 c.toNat
  else "\\U" ++ ofHex 8 c.toNat

/-- The text in quotes. -/
def quoted (t : Text) : Text :=
  let mark := t.quoteMark
  mark :: t.flatMap (quotedPoint mark) ++ [mark]

end AgentPanel.Text
