/-!
# Double-precision numbers

The numbers that a JSON text writes with a point or an exponent, and the fractional settings. A
finite one is a sign and a multiple of `2^-1074`, so comparing two of them is comparing two
integers, and reading a decimal is one exact division rounded once.
-/

namespace AgentPanel

/-- A double-precision number. `finite negative m s` has the magnitude `m * 2^s / 2^1074`; it is
normal when `m < 2^53`, `s ≤ 2045`, and `2^52 ≤ m` or `s = 0`. All functions here give normal
numbers, so two numbers with the same sign and magnitude are equal. -/
inductive Double where
  | nan
  | infinity (negative : Bool)
  | finite (negative : Bool) (significand scale : Nat)
  deriving DecidableEq, Repr

namespace Double

/-- One, as a multiple of `2^-1074`. -/
def unity : Nat := 1 <<< 1074

/-- Zero, without a sign. -/
def zero : Double := finite false 0 0

/-- The quotient `n / d` rounded to the nearest whole number, a tie to the even one. -/
def roundDiv (n d : Nat) : Nat :=
  let q := n / d
  let twice := 2 * (n % d)
  if d < twice ∨ (twice = d ∧ q % 2 = 1) then q + 1 else q

/-- The number nearest to `n / d`, a tie going to the even significand; past the largest finite
number it is infinite. -/
def ofRatio (negative : Bool) (n d : Nat) : Double :=
  let scaled := n * unity
  let scale := Nat.log2 (scaled / d) - 52
  let significand := roundDiv scaled (d <<< scale)
  let (significand, scale) :=
    if significand = 1 <<< 53 then (1 <<< 52, scale + 1) else (significand, scale)
  if 2045 < scale then infinity negative else finite negative significand scale

/-- The number nearest to `digits * 10^exponent`. Exponents that leave the range of all digits
of the coefficient are settled without computing the power. -/
def ofDecimal (negative : Bool) (digits : Nat) (exponent : Int) : Double :=
  if digits = 0 then finite negative 0 0
  else if 400 < exponent then infinity negative
  else if exponent < -(400 + Nat.log2 digits : Int) then finite negative 0 0
  else if 0 ≤ exponent then ofRatio negative (digits * Nat.pow 10 exponent.toNat) 1
  else ofRatio negative digits (Nat.pow 10 (-exponent).toNat)

/-- The number nearest to a whole number. -/
def ofInt (n : Int) : Double := ofRatio (n < 0) n.natAbs 1

/-- A finite number as a multiple of `2^-1074`. -/
def scaled? : Double → Option Int
  | finite negative m s => some (if negative then -(m <<< s : Nat) else (m <<< s : Nat))
  | _ => none

/-- Neither infinite nor `nan`. -/
def isFinite (x : Double) : Bool := x.scaled?.isSome

/-- The whole number that a number without a fraction is. -/
def toInt? (x : Double) : Option Int :=
  x.scaled?.bind fun n => if n % unity = 0 then some (n / unity) else none

/-- Strictly less; nothing is less than `nan` nor greater than it. -/
def lt : Double → Double → Bool
  | nan, _ => false
  | _, nan => false
  | infinity a, infinity b => a && !b
  | infinity a, finite _ _ _ => a
  | finite _ _ _, infinity b => !b
  | a@(finite _ _ _), b@(finite _ _ _) =>
    match a.scaled?, b.scaled? with
    | some m, some n => m < n
    | _, _ => false

/-- `low` if it is greater than `x`, else `x`. -/
def atLeast (x low : Double) : Double := if x.lt low then low else x

/-- `high` if it is less than `x`, else `x`. -/
def atMost (x high : Double) : Double := if high.lt x then high else x

end Double

end AgentPanel
