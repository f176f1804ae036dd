import AgentPanel.Text.Basic

/-!
# Blanks

What counts as blank when a text is trimmed, when a submission is judged empty, and around a code
fence: the White_Space characters of Unicode and the four separators `U+001C` to `U+001F`. Around a
number in a setting only White_Space characters are blank.
-/

namespace AgentPanel

/-- The White_Space characters of Unicode. -/
def CodePoint.isWhiteSpace (c : CodePoint) : Bool :=
  let n := c.toNat
  (0x09 ≤ n && n ≤ 0x0D) || n == 0x20 || n == 0x85 || n == 0xA0 || n == 0x1680 ||
    (0x2000 ≤ n && n ≤ 0x200A) || n == 0x2028 || n == 0x2029 || n == 0x202F || n == 0x205F ||
    n == 0x3000

/-- The separators `U+001C` to `U+001F`: of files, groups, records and units. -/
def CodePoint.isSeparator (c : CodePoint) : Bool := 0x1C ≤ c.toNat && c.toNat ≤ 0x1F

/-- A blank: a White_Space character or a separator. -/
def CodePoint.isBlank (c : CodePoint) : Bool := c.isWhiteSpace || c.isSeparator

/-- The blanks of ASCII text input: space, tab, and the four line and page ends. -/
def CodePoint.isAsciiBlank (c : CodePoint) : Bool :=
  let n := c.toNat
  (0x09 ≤ n && n ≤ 0x0D) || n == 0x20

namespace Text

/-- The text without the code points of a class at its beginning. -/
def dropStartWhile (p : CodePoint → Bool) (t : Text) : Text := t.dropWhile p

/-- The text without the code points of a class at its end. -/
def dropEndWhile (p : CodePoint → Bool) (t : Text) : Text := (t.reverse.dropWhile p).reverse

/-- The text without the code points of a class at either end. -/
def dropAround (p : CodePoint → Bool) (t : Text) : Text := dropEndWhile p (dropStartWhile p t)

/-- The text without the blanks at its beginning. -/
def trimStart (t : Text) : Text := t.dropStartWhile CodePoint.isBlank

/-- The text without the blanks at its end. -/
def trimEnd (t : Text) : Text := t.dropEndWhile CodePoint.isBlank

/-- The text without the blanks at either end. -/
def trim (t : Text) : Text := t.trimStart.trimEnd

/-- The text holds nothing but blanks. -/
def isBlank (t : Text) : Bool := t.all CodePoint.isBlank

end Text

end AgentPanel
