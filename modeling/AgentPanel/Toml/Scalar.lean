import AgentPanel.Number.Numeral
import AgentPanel.Settings.Setting

/-!
# Scalars of a settings file

The values that are written without quotes and brackets: truth values, whole numbers in four bases,
decimal fractions, and moments in time. A moment is checked against the calendar and then dropped.
-/

namespace AgentPanel.Toml

/-- Why a text is not read as TOML. -/
inductive Fault where
  /-- it breaks the grammar, or gives one thing two meanings -/
  | malformed
  /-- a decimal number has too many digits -/
  | tooManyDigits
  /-- lists and inline tables stand too deep inside each other -/
  | tooDeep
  deriving DecidableEq, Repr

/-! ## Numbers -/

/-- The base that a whole number names in front of its digits, and the rest. -/
def splitBase? (t : Text) : Option (Nat × Text) :=
  match Text.dropStart? "0x" t, Text.dropStart? "0o" t, Text.dropStart? "0b" t with
  | some rest, _, _ => some (16, rest)
  | _, some rest, _ => some (8, rest)
  | _, _, some rest => some (2, rest)
  | none, none, none => none

/-- A digit of the given base, which is at most sixteen. -/
def isDigitOf (base : Nat) (c : CodePoint) : Bool := c.hexDigit?.any (· < base)

/-- The number that a row of digits writes in a base. -/
def valueIn (base : Nat) (digits : Text) : Nat :=
  digits.foldl (fun n c => base * n + c.hexDigit?.getD 0) 0

/-- A whole number that names its base. -/
def basedNumber? (t : Text) : Option Setting := do
  let (base, rest) ← splitBase? t
  let digits ← Text.grouped? (isDigitOf base) rest
  return .int (valueIn base digits)

/-- The whole part of a decimal: no needless zero in front. -/
def wholePart? (t : Text) : Option Text :=
  if t = "0" then some t
  else if t.head? = some '0' then none
  else Text.groupedDigits? t

/-- The two sides of the letter of an exponent; a text without one has no right side. -/
def splitExponent (t : Text) : Text × Option Text :=
  match (Text.splitAtFirst? 'e' t).orElse fun _ => Text.splitAtFirst? 'E' t with
  | some (mantissa, exponent) => (mantissa, some exponent)
  | none => (t, none)

/-- The two sides of the point; a text without one has no right side. -/
def splitPoint (t : Text) : Text × Option Text :=
  match Text.splitAtFirst? '.' t with
  | some (whole, fraction) => (whole, some fraction)
  | none => (t, none)

/-- A decimal without its sign: a whole number if it has neither point nor exponent. -/
def decimal? (negative : Bool) (t : Text) : Option Setting := do
  let (mantissa, exponent) := splitExponent t
  let (whole, fraction) := splitPoint mantissa
  let digits ← wholePart? whole
  match fraction, exponent with
  | none, none =>
    let n : Int := Text.digitsValue digits
    return .int (if negative then -n else n)
  | _, _ =>
    let places ← (fraction.map Text.groupedDigits?).getD (some [])
    let power ← (exponent.map Text.readExponent?).getD (some 0)
    return .float
      (.ofDecimal negative (Text.digitsValue (digits ++ places)) (power - places.length))

/-- The number that is not finite with the given name. -/
def namedNumber? (negative : Bool) (t : Text) : Option Setting :=
  if t = "inf" then some (.float (.infinity negative))
  else if t = "nan" then some (.float .nan)
  else none

/-- A number. -/
def number? (t : Text) : Option Setting :=
  let (negative, rest) := Text.splitSign t
  ((basedNumber? t).orElse fun _ => namedNumber? negative rest).orElse fun _ =>
    decimal? negative rest

/-! ## Whole numbers that are too long -/

/-- The digits that a text begins with, single underscores between them left out, and the rest. -/
def leadingDigits : Text → Text × Text
  | [] => ([], [])
  | c :: rest =>
    if c.isAsciiDigit then
      let (digits, after) := leadingDigits rest
      (c :: digits, after)
    else if c = '_' ∧ rest.head?.any CodePoint.isAsciiDigit then leadingDigits rest
    else ([], c :: rest)

/-- A text begins with what makes the digits before it a fraction: a point and a digit, or the
letter of an exponent, perhaps a sign, and a digit. -/
def startsFraction : Text → Bool
  | [] => false
  | c :: rest =>
    if c = '.' then rest.head?.any CodePoint.isAsciiDigit
    else (c = 'e' || c = 'E') && (Text.splitSign rest).2.head?.any CodePoint.isAsciiDigit

/-- A text begins with a decimal whole number of too many digits. Numbers are read as far as they
go, so whatever follows it comes too late to be the first fault. -/
def startsTooLong (t : Text) : Bool :=
  let unsigned := (Text.splitSign t).2
  let (digits, after) := leadingDigits unsigned
  unsigned.head?.any (fun (c : CodePoint) => c.isAsciiDigit && c != '0')
    && Text.maxDigits < digits.length && !startsFraction after

/-! ## Moments -/

/-- The number that the first `count` code points write, all of them digits, and the rest. -/
def fixedDigits? (count : Nat) (t : Text) : Option (Nat × Text) :=
  let digits := t.take count
  if digits.length = count ∧ digits.all CodePoint.isAsciiDigit then
    some (Text.digitsValue digits, t.drop count)
  else none

/-- The rest of a text after a mark that it has to begin with. -/
def after? (mark : CodePoint) (t : Text) : Option Text := Text.dropStart? [mark] t

/-- A year with a day more than others. -/
def isLeapYear (year : Nat) : Bool := year % 4 = 0 && (year % 100 ≠ 0 || year % 400 = 0)

/-- The number of days of a month. -/
def daysIn (year month : Nat) : Nat :=
  if month = 2 then if isLeapYear year then 29 else 28
  else if month = 4 ∨ month = 6 ∨ month = 9 ∨ month = 11 then 30
  else 31

/-- What follows a day of the calendar. -/
def afterDate? (t : Text) : Option Text := do
  let (year, t) ← fixedDigits? 4 t
  let (month, t) ← fixedDigits? 2 (← after? '-' t)
  let (day, t) ← fixedDigits? 2 (← after? '-' t)
  if 1 ≤ year ∧ 1 ≤ month ∧ month ≤ 12 ∧ 1 ≤ day ∧ day ≤ daysIn year month then some t else none

/-- What follows hours and minutes. -/
def afterMinutes? (t : Text) : Option Text := do
  let (hour, t) ← fixedDigits? 2 t
  let (minute, t) ← fixedDigits? 2 (← after? ':' t)
  if hour < 24 ∧ minute < 60 then some t else none

/-- What follows a time of day with seconds, which may have a fraction. -/
def afterTime? (t : Text) : Option Text := do
  let (second, t) ← fixedDigits? 2 (← after? ':' (← afterMinutes? t))
  if 60 ≤ second then none
  else match after? '.' t with
    | none => some t
    | some fraction =>
      if fraction.head?.any CodePoint.isAsciiDigit then
        some (fraction.dropWhile CodePoint.isAsciiDigit)
      else none

/-- The distance to universal time at the end of a moment; there may be none. -/
def isOffset (t : Text) : Bool :=
  match t with
  | [] => true
  | c :: rest =>
    if c = 'Z' ∨ c = 'z' then rest.isEmpty
    else (c = '+' || c = '-') && afterMinutes? rest == some []

/-- A day, a time of day, or both with a letter or a space between them. -/
def isMoment (t : Text) : Bool :=
  match afterDate? t with
  | some [] => true
  | some (c :: rest) => (c = 'T' || c = 't' || c = ' ') && (afterTime? rest).any isOffset
  | none => afterTime? t == some []

/-! ## Scalars -/

/-- The value of a scalar of permitted length. -/
def scalar? (t : Text) : Option Setting :=
  if t = "true" then some (.bool true)
  else if t = "false" then some (.bool false)
  else if isMoment t then some .moment
  else number? t

/-- The value of a scalar. -/
def scalar (t : Text) : Except Fault Setting :=
  if startsTooLong t then .error .tooManyDigits
  else match scalar? t with
    | some s => .ok s
    | none => .error .malformed

end AgentPanel.Toml
