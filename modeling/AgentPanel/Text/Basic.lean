/-!
# Text as code points

Agent replies may carry half of a surrogate pair: `"\ud83d"` is a legal JSON string. So a text
here is a list of code points, and a code point is either a character or a lone surrogate. Lengths,
cuts and comparisons count code points.

This module holds the type and the operations on it that need no table: searching, cutting,
replacing and joining.
-/

namespace AgentPanel

/-- A code point: a character, or half of a surrogate pair that stands alone. The code points from
`U+D800` to `U+DFFF` are the surrogates; `half` counts from the first of them. -/
inductive CodePoint where
  | scalar (char : Char)
  | surrogate (half : Fin 0x800)
  deriving DecidableEq, Repr

namespace CodePoint

/-- The number of a code point. -/
def toNat : CodePoint → Nat
  | scalar c => c.toNat
  | surrogate half => 0xD800 + half.val

/-- The code point with the given number. Numbers beyond `U+10FFFF` name none; they wrap around
into the surrogates. -/
def ofNat (n : Nat) : CodePoint :=
  if n.isValidChar then scalar (Char.ofNat n)
  else surrogate ⟨(n - 0xD800) % 0x800, Nat.mod_lt _ (by decide)⟩

/-- Half of a surrogate pair. -/
def isSurrogate : CodePoint → Bool
  | scalar _ => false
  | surrogate _ => true

/-- The first half of a surrogate pair. -/
def isHighSurrogate : CodePoint → Bool
  | scalar _ => false
  | surrogate half => half.val < 0x400

/-- The second half of a surrogate pair. -/
def isLowSurrogate : CodePoint → Bool
  | scalar _ => false
  | surrogate half => 0x400 ≤ half.val

/-- The code point that a first and a second half encode together. -/
def joinSurrogates (high low : CodePoint) : CodePoint :=
  ofNat (0x10000 + (high.toNat - 0xD800) * 0x400 + (low.toNat - 0xDC00))

/-- The seven-bit code points. -/
def isAscii (c : CodePoint) : Bool := c.toNat < 0x80

/-- The value of an ASCII decimal digit. -/
def asciiDigit? : CodePoint → Option Nat
  | scalar c => if '0' ≤ c ∧ c ≤ '9' then some (c.toNat - '0'.toNat) else none
  | surrogate _ => none

/-- An ASCII decimal digit. -/
def isAsciiDigit (c : CodePoint) : Bool := c.asciiDigit?.isSome

/-- The value of a hexadecimal digit, in either case. -/
def hexDigit? : CodePoint → Option Nat
  | scalar c =>
    if '0' ≤ c ∧ c ≤ '9' then some (c.toNat - '0'.toNat)
    else if 'a' ≤ c ∧ c ≤ 'f' then some (c.toNat - 'a'.toNat + 10)
    else if 'A' ≤ c ∧ c ≤ 'F' then some (c.toNat - 'A'.toNat + 10)
    else none
  | surrogate _ => none

/-- An ASCII capital becomes small; every other code point stays. -/
def toAsciiLower : CodePoint → CodePoint
  | scalar c => scalar c.toLower
  | surrogate half => surrogate half

end CodePoint

instance : Coe Char CodePoint := ⟨CodePoint.scalar⟩

/-- A text: its code points in order. -/
abbrev Text := List CodePoint

namespace Text

/-- The text of a string. -/
def ofString (s : String) : Text := s.toList.map CodePoint.scalar

instance : Coe String Text := ⟨ofString⟩

/-- The string with the same characters, if no surrogate stands alone. -/
def toString? (t : Text) : Option String :=
  String.ofList <$> t.mapM fun
    | .scalar c => some c
    | .surrogate _ => none

/-- The string in which U+FFFD stands for each lone surrogate. -/
def toStringLossy (t : Text) : String :=
  String.ofList <| t.map fun
    | .scalar c => c
    | .surrogate _ => '\ufffd'

/-- Text order: code point by code point, a proper beginning first. -/
def before : Text → Text → Bool
  | [], [] => false
  | [], _ :: _ => true
  | _ :: _, [] => false
  | a :: s, b :: t => a.toNat < b.toNat || (a == b && before s t)

/-- The text without the given beginning, if it starts with it. -/
def dropStart? : (start t : Text) → Option Text
  | [], t => some t
  | _ :: _, [] => none
  | a :: s, b :: t => if a = b then dropStart? s t else none

/-- `t` starts with `start`. -/
def startsWith (t start : Text) : Bool := (dropStart? start t).isSome

/-- `t` ends with `ending`. -/
def endsWith (t ending : Text) : Bool := startsWith t.reverse ending.reverse

/-- `part` occurs somewhere in the text. -/
def contains (t part : Text) : Bool :=
  match t with
  | [] => part.isEmpty
  | c :: rest => startsWith (c :: rest) part || contains rest part

/-- Writes `new` for the occurrences of `old`, found from left to right without overlap; `pending`
counts the code points of an occurrence that are still to be skipped. -/
def replaceFrom (old new : Text) : (pending : Nat) → Text → Text
  | _, [] => []
  | pending + 1, _ :: rest => replaceFrom old new pending rest
  | 0, c :: rest =>
    if startsWith (c :: rest) old then new ++ replaceFrom old new (old.length - 1) rest
    else c :: replaceFrom old new 0 rest

/-- Every occurrence of the non-empty `old` becomes `new`, from left to right, without overlap. -/
def replace (t old new : Text) : Text := replaceFrom old new 0 t

/-- The two sides of the first `mark`, if there is one. -/
def splitAtFirst? (mark : CodePoint) : Text → Option (Text × Text)
  | [] => none
  | c :: rest =>
    if c = mark then some ([], rest)
    else (splitAtFirst? mark rest).map fun (before, after) => (c :: before, after)

/-- The parts between the `mark`s; a text without one is its own only part. -/
def splitAll (mark : CodePoint) : Text → List Text
  | [] => [[]]
  | c :: rest =>
    if c = mark then [] :: splitAll mark rest
    else match splitAll mark rest with
      | [] => [[c]]
      | part :: parts => (c :: part) :: parts

/-- The parts with `mark` between neighbours. -/
def join (mark : Text) : List Text → Text
  | [] => []
  | [part] => part
  | part :: parts => part ++ mark ++ join mark parts

/-- The text with a line feed for every end of a line, also for a carriage return, alone or before a
line feed. -/
def unifyLineEnds (t : Text) : Text := replace (replace t "\r\n" "\n") "\r" "\n"

/-- The lines of a text. A line feed at the end begins no further line. -/
def lines (t : Text) : List Text :=
  let parts := splitAll '\n' t
  if parts.getLast? = some [] then parts.dropLast else parts

/-- `n` copies of the text in a row. -/
def times (n : Nat) (t : Text) : Text := (List.replicate n t).flatten

/-- The number that a row of ASCII decimal digits writes. -/
def digitsValue (digits : Text) : Nat :=
  digits.foldl (fun n c => 10 * n + (c.asciiDigit?.getD 0)) 0

/-- The most digits that a whole number in decimal text may have. -/
def maxDigits : Nat := 4300

/-- ASCII capitals become small, all else stays. -/
def toAsciiLower (t : Text) : Text := t.map CodePoint.toAsciiLower

/-- A whole number in decimal, with a minus sign when it is negative. -/
def ofInt (n : Int) : Text :=
  match n with
  | .ofNat m => (Nat.toDigits 10 m).map CodePoint.scalar
  | .negSucc m => '-' :: (Nat.toDigits 10 (m + 1)).map CodePoint.scalar

/-- A natural number in decimal. -/
def ofNat (n : Nat) : Text := (Nat.toDigits 10 n).map CodePoint.scalar

/-- A number in hexadecimal with small letters, filled up with zeros to the given width. -/
def ofHex (width n : Nat) : Text :=
  let digits := Nat.toDigits 16 n
  (List.replicate (width - digits.length) '0' ++ digits).map CodePoint.scalar

end Text

end AgentPanel
