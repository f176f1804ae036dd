import AgentPanel.Number.Numeral
import AgentPanel.Settings.Setting

/-!
# Reading raw settings

What a raw setting means where a text, a truth value, a whole number or a fraction is wanted. Texts
are taken only from texts. The other kinds are also taken from each other and from texts, as far as
the meaning is certain: `1` for true, `"12.0"` for twelve.
-/

namespace AgentPanel

namespace Text

/-- Single underscores inside a numeral left out; none if there are no such underscores. -/
def withoutUnderscores? (t : Text) : Option Text :=
  if .scalar '_' ∈ t ∧ !startsWith t "_" ∧ !endsWith t "_" ∧ !contains t "__" then
    some (t.filter (· ≠ .scalar '_'))
  else none

/-- A whole number in plain form: perhaps a minus sign, then digits without needless zeros, no more
of them than numerals may have. -/
def plainInt? (t : Text) : Option Int :=
  let (negative, digits) := match t with
    | .scalar '-' :: rest => (true, rest)
    | t => (false, t)
  if digits.isEmpty || !digits.all CodePoint.isAsciiDigit || maxDigits < digits.length then none
  else if digits.head? = some '0' ∧ digits.length ≠ 1 then none
  else
    let n : Int := digitsValue digits
    some (if negative then -n else n)

/-- A numeral without a plus sign, which no minus may follow. -/
def withoutPlus? : Text → Option Text
  | .scalar '+' :: rest => if rest.head? = some '-' then none else some rest
  | t => some t

/-- A nonzero digit or a minus sign: what the zeros before it do not change. -/
def startsNumeral (c : CodePoint) : Bool := (c.isAsciiDigit && c != '0') || c == '-'

/-- The rest of a numeral after zeros and underscores at its beginning; `last` is the latest of
them, which stays if nothing else is left before the point. -/
def afterZeros? (last : CodePoint) : Text → Option Text
  | [] => some [last]
  | c :: rest =>
    if c = '0' ∨ c = '_' then afterZeros? c rest
    else if startsNumeral c then some (c :: rest)
    else if c = '.' then some (last :: c :: rest)
    else none

/-- A numeral without needless zeros at its beginning. -/
def withoutZeros? : Text → Option Text
  | [] => none
  | c :: rest =>
    if c = '0' then afterZeros? c rest
    else if startsNumeral c then some (c :: rest)
    else none

/-- A numeral without needless zeros at its beginning or after its minus sign. -/
def withoutSignedZeros? : Text → Option Text
  | .scalar '-' :: rest => (withoutZeros? rest).map (.scalar '-' :: ·)
  | t => withoutZeros? t

/-- A numeral without a fraction of zeros, at least one of them. -/
def withoutZeroFraction (t : Text) : Text :=
  match splitAtFirst? '.' t with
  | some (whole, fraction) =>
    if !fraction.isEmpty ∧ fraction.all (· = .scalar '0') then whole else t
  | none => t

/-- A numeral brought to plain form. -/
def plainForm? (t : Text) : Option Text := do
  let t ← withoutSignedZeros? (← withoutPlus? t)
  let t := withoutZeroFraction t
  return (withoutUnderscores? t).getD t

/-- A whole number in a setting: plain, or with a plus sign, needless zeros, single underscores or
a fraction of zeros. White space around it is allowed. -/
def settingInt? (t : Text) : Option Int :=
  let t := t.dropAround CodePoint.isWhiteSpace
  (plainInt? t).orElse fun _ => (plainForm? t).bind plainInt?

/-- A decimal fraction without underscores. -/
def plainDouble? (t : Text) : Option Double :=
  if .scalar '_' ∈ t then none
  else
    let (negative, rest) := splitSign t
    readMagnitude? negative rest

/-- A decimal fraction in a setting: plain with white space around it, or with single
underscores. -/
def settingDouble? (t : Text) : Option Double :=
  (plainDouble? (t.dropAround CodePoint.isWhiteSpace)).orElse fun _ =>
    (withoutUnderscores? t).bind plainDouble?

end Text

namespace Setting

/-- The words for true, in any case. -/
def trueWords : List Text := ["1", "on", "t", "true", "y", "yes"]

/-- The words for false, in any case. -/
def falseWords : List Text := ["0", "off", "f", "false", "n", "no"]

/-- The truth value that a number is. -/
def boolOfInt? (n : Int) : Option Bool :=
  if n = 0 then some false else if n = 1 then some true else none

/-- A setting as a text. -/
def text? : Setting → Option Text
  | text t => some t
  | _ => none

/-- A setting as a truth value. -/
def bool? : Setting → Option Bool
  | bool b => some b
  | int n => boolOfInt? n
  | float x => x.toInt?.bind boolOfInt?
  | text t =>
    let word := Text.toAsciiLower t
    if trueWords.contains word then some true
    else if falseWords.contains word then some false
    else none
  | _ => none

/-- The whole numbers strictly between `-2^63` and `2^63`: those taken from fractions. -/
def isWord (n : Int) : Bool := -0x8000000000000000 < n && n < 0x8000000000000000

/-- A setting as a whole number. -/
def int? : Setting → Option Int
  | bool b => some (if b then 1 else 0)
  | int n => some n
  | float x => x.toInt?.bind fun n => if isWord n then some n else none
  | text t => t.settingInt?
  | _ => none

/-- A setting as a fraction. -/
def double? : Setting → Option Double
  | bool b => some (.ofInt (if b then 1 else 0))
  | int n => if (Double.ofInt n).isFinite then some (.ofInt n) else none
  | float x => some x
  | text t => t.settingDouble?
  | _ => none

end Setting

end AgentPanel
