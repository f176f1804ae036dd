import AgentPanel.Number.Double
import AgentPanel.Text.Blank
import AgentPanel.Text.Digit

/-!
# Numerals in text

Numbers that people and agents write as text: white space may stand around them, the digits may be
of any script, and a single underscore may stand between two digits.
-/

namespace AgentPanel.Text

/-- A code point outside ASCII becomes the ASCII digit of its value if it is a digit, and a space if
it is a blank. -/
def plainPoint (c : CodePoint) : CodePoint :=
  if c.isAscii then c
  else match c.decimalDigit? with
    | some d => .ofNat ('0'.toNat + d)
    | none => if c.isBlank then ' ' else c

/-- The text with the digits and blanks outside ASCII replaced by ASCII ones. -/
def plain (t : Text) : Text := t.map plainPoint

/-- The text without the ASCII blanks at either end. -/
def trimAscii (t : Text) : Text := t.dropAround CodePoint.isAsciiBlank

/-- A text without its sign, and whether that is a minus. -/
def splitSign : Text → Bool × Text
  | .scalar '-' :: rest => (true, rest)
  | .scalar '+' :: rest => (false, rest)
  | t => (false, t)

/-- One or more code points of a class, single underscores between them left out. -/
def grouped? (p : CodePoint → Bool) (t : Text) : Option Text :=
  let groups := splitAll '_' t
  if groups.all fun group => !group.isEmpty && group.all p then some groups.flatten else none

/-- The digits of a numeral: one or more, single underscores between digits left out. -/
def groupedDigits? (t : Text) : Option Text := grouped? CodePoint.isAsciiDigit t

/-- A whole number: an optional sign and digits. -/
def readInt? (t : Text) : Option Int := do
  let (negative, rest) := splitSign (trimAscii t.plain)
  let digits ← groupedDigits? rest
  if maxDigits < digits.length then none
  else
    let n : Int := digitsValue digits
    some (if negative then -n else n)

/-- The digits of a part of a numeral that may be empty. -/
def optionalDigits? (t : Text) : Option Text := if t.isEmpty then some [] else groupedDigits? t

/-- The digits before and after the point, at least one in all. -/
def readMantissa? (t : Text) : Option (Text × Text) := do
  let (whole, fraction) := (splitAtFirst? '.' t).getD (t, [])
  let whole ← optionalDigits? whole
  let fraction ← optionalDigits? fraction
  if whole.isEmpty && fraction.isEmpty then none else some (whole, fraction)

/-- An exponent: an optional sign and digits. -/
def readExponent? (t : Text) : Option Int := do
  let (negative, rest) := splitSign t
  let digits ← groupedDigits? rest
  let n : Int := digitsValue digits
  some (if negative then -n else n)

/-- A decimal fraction without its sign, or the name of a number that is not finite. -/
def readMagnitude? (negative : Bool) (t : Text) : Option Double :=
  let name := toAsciiLower t
  if name = "inf" ∨ name = "infinity" then some (.infinity negative)
  else if name = "nan" then some .nan
  else do
    let (mantissa, exponent) ←
      match splitAtFirst? 'e' name with
      | some (mantissa, exponent) => (readExponent? exponent).map (mantissa, ·)
      | none => some (name, 0)
    let (whole, fraction) ← readMantissa? mantissa
    some (.ofDecimal negative (digitsValue (whole ++ fraction)) (exponent - fraction.length))

/-- A decimal fraction: an optional sign, digits with an optional point, an optional exponent. -/
def readDouble? (t : Text) : Option Double :=
  let (negative, rest) := splitSign (trimAscii t.plain)
  readMagnitude? negative rest

end AgentPanel.Text
