import AgentPanel.Json.Value

/-!
# Number literals

A JSON number is an optional minus sign, a whole part without needless leading zeros, an optional
fraction and an optional exponent. `NumberStage` says how far into that shape a literal has got;
`numberValue?` is the value of a complete one. A literal without fraction and exponent is an
integer, any other a double.
-/

namespace AgentPanel.Json

/-- How much of a number literal has been read. -/
inductive NumberStage where
  /-- the minus sign -/
  | sign
  /-- a whole part that is the digit zero -/
  | zero
  /-- some digits of a whole part -/
  | whole
  /-- the point -/
  | point
  /-- some digits of the fraction -/
  | fraction
  /-- the letter of the exponent -/
  | mark
  /-- the letter of the exponent and its sign -/
  | markSign
  /-- some digits of the exponent -/
  | exponent
  deriving DecidableEq, Repr

namespace NumberStage

/-- The stage after one more code point, if the literal may go on with it. -/
def next? (stage : NumberStage) (c : CodePoint) : Option NumberStage :=
  match stage with
  | sign => if c = '0' then some zero else if c.isAsciiDigit then some whole else none
  | zero => if c = '.' then some point else if c = 'e' ∨ c = 'E' then some mark else none
  | whole =>
    if c.isAsciiDigit then some whole
    else if c = '.' then some point
    else if c = 'e' ∨ c = 'E' then some mark
    else none
  | point => if c.isAsciiDigit then some fraction else none
  | fraction =>
    if c.isAsciiDigit then some fraction
    else if c = 'e' ∨ c = 'E' then some mark
    else none
  | mark =>
    if c = '+' ∨ c = '-' then some markSign
    else if c.isAsciiDigit then some exponent
    else none
  | markSign => if c.isAsciiDigit then some exponent else none
  | exponent => if c.isAsciiDigit then some exponent else none

/-- The stage after the first code point of a literal. -/
def first? (c : CodePoint) : Option NumberStage := if c = '-' then some sign else sign.next? c

/-- The stage at the end of a text that a literal may begin with. -/
def ofText? : Text → Option NumberStage
  | [] => none
  | c :: rest => (first? c).bind fun stage => rest.foldlM next? stage

/-- A literal may end here. -/
def isComplete : NumberStage → Bool
  | zero | whole | fraction | exponent => true
  | sign | point | mark | markSign => false

end NumberStage

/-- The text is a complete literal. -/
def isNumber (t : Text) : Bool := (NumberStage.ofText? t).any NumberStage.isComplete

/-- The digits at the beginning of a text, and what follows them. -/
def spanDigits (t : Text) : Text × Text := t.span CodePoint.isAsciiDigit

/-- The exponent that the rest of a literal writes after its digits; zero if there is none. -/
def exponentValue (t : Text) : Int :=
  match t with
  | [] => 0
  | _ :: rest =>
    match rest with
    | .scalar '-' :: digits => -(Text.digitsValue digits : Int)
    | .scalar '+' :: digits => Text.digitsValue digits
    | digits => Text.digitsValue digits

/-- The value of a complete literal without its sign. Too long an integer has none. -/
def unsignedValue? (negative : Bool) (t : Text) : Option Value :=
  let (whole, rest) := spanDigits t
  match rest with
  | [] =>
    if Text.maxDigits < whole.length then none
    else
      let n : Int := Text.digitsValue whole
      some (.int (if negative then -n else n))
  | .scalar '.' :: rest =>
    let (fraction, rest) := spanDigits rest
    some (.float (.ofDecimal negative (Text.digitsValue (whole ++ fraction))
      (exponentValue rest - fraction.length)))
  | rest => some (.float (.ofDecimal negative (Text.digitsValue whole) (exponentValue rest)))

/-- The value of a complete literal. -/
def numberValue? (t : Text) : Option Value :=
  match t with
  | .scalar '-' :: rest => unsignedValue? true rest
  | t => unsignedValue? false t

end AgentPanel.Json
