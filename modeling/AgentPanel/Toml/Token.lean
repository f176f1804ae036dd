import AgentPanel.Text.Basic

/-!
# Tokens of a settings file

    text ──tokens──▶ tokens ──statements──▶ statements ──carryOut?──▶ table

A TOML text falls into words, quoted texts, punctuation, blanks and line ends. A comment is a token
too; it means nothing. The rules by which a quoted text ends, what it may hold and which escapes it
knows are all here, so later stages never look at single code points of it.

Where no token begins, the tokens end with one that says so. What stands before that place is still
read, for a fault in it comes first.
-/

namespace AgentPanel.Toml

/-- A part of a TOML text. -/
inductive Token where
  /-- spaces and tabs -/
  | blank (t : Text)
  /-- the end of a line -/
  | lineEnd
  | comment
  /-- letters, digits and the signs that keys, numbers and moments are made of -/
  | word (t : Text)
  /-- a text quoted on one line -/
  | quoted (t : Text)
  /-- a text in triple quotes -/
  | block (t : Text)
  | dot
  | equals
  | comma
  | openList
  | closeList
  | openTable
  | closeTable
  /-- the rest of a text that does not begin with a token -/
  | broken
  deriving DecidableEq, Repr

/-- The blanks inside a line. -/
def isLineBlank (c : CodePoint) : Bool := c = ' ' || c = '\t'

/-- Blanks and line ends. -/
def isSpacing (c : CodePoint) : Bool := isLineBlank c || c = '\n'

/-- The control characters of ASCII other than the tab: no comment or quoted text may hold them,
except that a text in triple quotes may hold line ends. -/
def isForbidden (c : CodePoint) : Bool := (c.toNat < 0x20 && c ≠ '\t') || c.toNat = 0x7F

/-- The letters of ASCII. -/
def isAsciiLetter : CodePoint → Bool
  | .scalar c => c.isAlpha
  | .surrogate _ => false

/-- The code points of a key that is written without quotes. -/
def isKeyPoint (c : CodePoint) : Bool :=
  isAsciiLetter c || c.isAsciiDigit || c = '-' || c = '_'

/-- The code points of a word: those of bare keys, and the other signs of numbers and moments. -/
def isWordPoint (c : CodePoint) : Bool := isKeyPoint c || c = '+' || c = ':'

/-! ## Escapes -/

/-- The code point that a one-letter escape stands for. -/
def shortEscape? : CodePoint → Option CodePoint
  | .scalar 'b' => some '\x08'
  | .scalar 't' => some '\t'
  | .scalar 'n' => some '\n'
  | .scalar 'f' => some '\x0c'
  | .scalar 'r' => some '\r'
  | .scalar '"' => some '"'
  | .scalar '\\' => some '\\'
  | _ => none

/-- The character with the number that a row of hexadecimal digits writes. -/
def hexScalar? (digits : Text) : Option CodePoint := do
  let n ← digits.foldlM (fun n c => c.hexDigit?.map (16 * n + ·)) 0
  if n.isValidChar then some (.scalar (Char.ofNat n)) else none

/-- A numbered escape of so many digits after its letter, and its length without the backslash. -/
def numberedEscape? (count : Nat) (t : Text) : Option (CodePoint × Nat) :=
  let digits := t.take count
  if digits.length = count then (hexScalar? digits).map (·, count + 1) else none

/-- The escape at the beginning of what follows a backslash: the code point that it stands for and
its length. -/
def escape? : Text → Option (CodePoint × Nat)
  | [] => none
  | c :: rest =>
    if c = 'u' then numberedEscape? 4 rest
    else if c = 'U' then numberedEscape? 8 rest
    else (shortEscape? c).map (·, 1)

/-! ## Quoted texts -/

/-- The rest of a text in double quotes, and what follows it; `skip` counts the code points of an
escape that are still to be passed over. -/
def escapedLine? : (skip : Nat) → Text → Option (Text × Text)
  | _, [] => none
  | skip + 1, _ :: rest => escapedLine? skip rest
  | 0, c :: rest =>
    if c = '"' then some ([], rest)
    else if c = '\\' then do
      let (d, length) ← escape? rest
      let (t, after) ← escapedLine? length rest
      return (d :: t, after)
    else if isForbidden c then none
    else (escapedLine? 0 rest).map fun (t, after) => (c :: t, after)

/-- The rest of a text in single quotes, and what follows it. -/
def plainLine? : Text → Option (Text × Text)
  | [] => none
  | c :: rest =>
    if c = '\'' then some ([], rest)
    else if isForbidden c then none
    else (plainLine? rest).map fun (t, after) => (c :: t, after)

/-- After the end of a text in triple quotes: up to two more quotes belong to the text. -/
def closingQuotes (mark : CodePoint) (t : Text) : Text × Text :=
  if Text.startsWith t [mark, mark] then ([mark, mark], t.drop 2)
  else if Text.startsWith t [mark] then ([mark], t.drop 1)
  else ([], t)

/-- What the reader of a text in triple quotes passes over. -/
inductive Passing where
  /-- so many code points of an escape -/
  | points (count : Nat)
  /-- the blanks between a backslash and the end of its line -/
  | toLineEnd
  /-- the blanks and empty lines after that -/
  | spacing
  deriving DecidableEq, Repr

/-- The rest of a text in triple double quotes, and what follows it. A backslash at the end of a
line takes the line end and the blanks around it out of the text. -/
def escapedBlock? : Passing → Text → Option (Text × Text)
  | _, [] => none
  | .points (count + 1), _ :: rest => escapedBlock? (.points count) rest
  | .toLineEnd, c :: rest =>
    if isLineBlank c then escapedBlock? .toLineEnd rest
    else if c = '\n' then escapedBlock? .spacing rest
    else none
  | passing, c :: rest =>
    if passing = .spacing ∧ isSpacing c then escapedBlock? .spacing rest
    else if Text.startsWith (c :: rest) ['"', '"', '"'] then some (closingQuotes '"' (rest.drop 2))
    else if c = '\\' then
      if rest.head?.any isSpacing then escapedBlock? .toLineEnd rest
      else do
        let (d, length) ← escape? rest
        let (t, after) ← escapedBlock? (.points length) rest
        return (d :: t, after)
    else if isForbidden c ∧ c ≠ '\n' then none
    else (escapedBlock? (.points 0) rest).map fun (t, after) => (c :: t, after)

/-- The rest of a text in triple single quotes, and what follows it. -/
def plainBlock? : Text → Option (Text × Text)
  | [] => none
  | c :: rest =>
    if Text.startsWith (c :: rest) ['\'', '\'', '\''] then some (closingQuotes '\'' (rest.drop 2))
    else if isForbidden c ∧ c ≠ '\n' then none
    else (plainBlock? rest).map fun (t, after) => (c :: t, after)

/-- A text without a line end at its beginning. -/
def dropLineEnd (t : Text) : Text := (Text.dropStart? ['\n'] t).getD t

/-- The quoted text that begins after a double quote. -/
def doubleQuoted? (t : Text) : Option (Token × Text) :=
  match Text.dropStart? ['"', '"'] t with
  | some rest =>
    (escapedBlock? (.points 0) (dropLineEnd rest)).map fun (t, after) => (.block t, after)
  | none => (escapedLine? 0 t).map fun (t, after) => (.quoted t, after)

/-- The quoted text that begins after a single quote. -/
def singleQuoted? (t : Text) : Option (Token × Text) :=
  match Text.dropStart? ['\'', '\''] t with
  | some rest => (plainBlock? (dropLineEnd rest)).map fun (t, after) => (.block t, after)
  | none => (plainLine? t).map fun (t, after) => (.quoted t, after)

/-! ## The tokens of a text -/

/-- The token that a mark of punctuation is. -/
def markToken? : CodePoint → Option Token
  | .scalar '\n' => some .lineEnd
  | .scalar '.' => some .dot
  | .scalar '=' => some .equals
  | .scalar ',' => some .comma
  | .scalar '[' => some .openList
  | .scalar ']' => some .closeList
  | .scalar '\x7b' => some .openTable
  | .scalar '\x7d' => some .closeTable
  | _ => none

/-- A comment, up to the end of its line, and what follows it. -/
def comment? (t : Text) : Option (Token × Text) :=
  let (line, after) := t.span (· ≠ .scalar '\n')
  if line.any isForbidden then none else some (.comment, after)

/-- The token at the beginning of a text, and what follows it. -/
def token? : Text → Option (Token × Text)
  | [] => none
  | c :: rest =>
    if isLineBlank c then
      let (blanks, after) := (c :: rest).span isLineBlank
      some (.blank blanks, after)
    else if isWordPoint c then
      let (word, after) := (c :: rest).span isWordPoint
      some (.word word, after)
    else if c = '"' then doubleQuoted? rest
    else if c = '\'' then singleQuoted? rest
    else if c = '#' then comment? rest
    else (markToken? c).map (·, rest)

/-- The tokens of a text; `skip` counts the code points of the current token that are still to be
passed over. -/
def tokensFrom : (skip : Nat) → Text → List Token
  | _, [] => []
  | skip + 1, _ :: rest => tokensFrom skip rest
  | 0, c :: rest =>
    match token? (c :: rest) with
    | some (token, after) => token :: tokensFrom (rest.length - after.length) rest
    | none => [.broken]

/-- The tokens of a text. A line may also end in a carriage return and a line feed. -/
def tokens (t : Text) : List Token := tokensFrom 0 (Text.replace t "\r\n" "\n")

end AgentPanel.Toml
