import AgentPanel.Number.Double
import AgentPanel.Text.Basic

/-!
# Shortest decimals

The text of a double-precision number: the fewest decimal digits that read back as the same number,
the nearest such decimal if there are several, and the one with an even last digit if two are
equally near. From `10^-4` up to below `10^16` it is written positionally, with at least one digit
after the point; outside, with one digit before the point and a signed exponent of at least two
digits.
-/

namespace AgentPanel.Double

/-- `p` such that `10^p ≤ n / 2^1074 < 10^(p+1)`, for `n` at least one. -/
def magnitude (n : Nat) : Int :=
  let guess := ((Nat.log2 n : Int) - 1074) * 30103 / 100000
  let reaches (p : Int) : Bool :=
    if 0 ≤ p then Nat.pow 10 p.toNat * unity ≤ n else unity ≤ n * Nat.pow 10 (-p).toNat
  if reaches guess then if reaches (guess + 1) then guess + 1 else guess else guess - 1

/-- Of the decimals `d * 10^unit` with whole `d`, the one that reads back as the number
`n / 2^1074`: one of its two neighbours, the nearer one if both do. -/
def decimalAt? (n : Nat) (unit : Int) : Option Nat :=
  let (top, bottom) :=
    if 0 ≤ unit then (n, unity * Nat.pow 10 unit.toNat) else (n * Nat.pow 10 (-unit).toNat, unity)
  let number := ofRatio false n unity
  let below := top / bottom
  let readsBack (d : Nat) : Bool := ofDecimal false d unit = number
  match readsBack below, readsBack (below + 1) with
  | true, false => some below
  | false, true => some (below + 1)
  | true, true => some (roundDiv top bottom)
  | false, false => none

/-- The shortest decimal of `n / 2^1074`: its digits as a number, and the exponent of their unit.
Seventeen digits always read back. -/
def shortestDecimal (n : Nat) : Nat × Int :=
  let p := magnitude n
  ((List.range 17).findSome? fun (more : Nat) =>
    (decimalAt? n (p - more)).map (·, p - more)).getD (0, 0)

/-- The digits of `d * 10^unit` without zeros at the end, and where the point stands: how many of
them are before it. -/
def significantDigits (d : Nat) (unit : Int) : List Char × Int :=
  let digits := Nat.toDigits 10 d
  ((digits.reverse.dropWhile (· == '0')).reverse, digits.length + unit)

/-- An exponent with its sign and at least two digits. -/
def exponentText (e : Int) : List Char :=
  let digits := Nat.toDigits 10 e.natAbs
  (if e < 0 then '-' else '+') :: (List.replicate (2 - digits.length) '0' ++ digits)

/-- A positive decimal by its significant digits and the place of its point. -/
def decimalText (digits : List Char) (point : Int) : List Char :=
  if point ≤ -4 ∨ 16 < point then
    match digits with
    | [] => []
    | [d] => d :: 'e' :: exponentText (point - 1)
    | d :: more => d :: '.' :: more ++ 'e' :: exponentText (point - 1)
  else if point ≤ 0 then '0' :: '.' :: (List.replicate (-point).toNat '0' ++ digits)
  else
    let whole := digits.take point.toNat
    let fraction := digits.drop point.toNat
    whole ++ List.replicate (point.toNat - whole.length) '0' ++
      '.' :: (if fraction.isEmpty then ['0'] else fraction)

/-- The text of a number. -/
def toText : Double → Text
  | nan => "nan"
  | infinity negative => if negative then "-inf" else "inf"
  | finite negative m s =>
    let sign : Text := if negative then ['-'] else []
    if m = 0 then sign ++ "0.0"
    else
      let (d, unit) := shortestDecimal (m <<< s)
      let (digits, point) := significantDigits d unit
      sign ++ (decimalText digits point).map CodePoint.scalar

end AgentPanel.Double
