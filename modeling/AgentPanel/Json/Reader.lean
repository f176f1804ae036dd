import AgentPanel.Json.Lexical
import AgentPanel.Json.Number

/-!
# Reading JSON

Strict JSON, read one code point at a time. The state of the reader is where it stands: the
containers around the current value, innermost first, each with what it holds so far, and the phase
inside the innermost one. A container without a value, like an object that waits for its first key,
is part of the phase. A text is accepted if its last code point leaves the reader outside all
containers with a complete value.

Beyond the grammar of JSON the words `NaN`, `Infinity` and `-Infinity` are numbers, two escapes
that write the halves of a surrogate pair write one code point, a lone half stays as it is, and a
repeated key keeps its first place and its last value. Containers nest at most `limit` deep.

Because the state after a text says all about its continuations, so does it about truncated texts:
which cuts can be closed, and with what.
-/

namespace AgentPanel.Json.Reader

/-! ## Strings -/

/-- Where the reader stands between a backslash and the end of its escape. -/
inductive Escape where
  /-- not inside an escape -/
  | none
  /-- after the backslash -/
  | started
  /-- after `\u` and `count` hexadecimal digits with the given value -/
  | hex (count value : Nat)
  deriving DecidableEq, Repr

/-- The part of a string that has been read: its code points, last first, whether the last one is
the first half of a surrogate pair written by an escape, and the escape under way. -/
structure StringState where
  done : Text
  halfPair : Bool
  escape : Escape
  deriving DecidableEq, Repr

namespace StringState

/-- Nothing read yet. -/
def start : StringState := ⟨[], false, .none⟩

/-- One more code point that stands for itself. -/
def push (s : StringState) (c : CodePoint) : StringState := ⟨c :: s.done, false, .none⟩

/-- One more code point written by number. The second half of a pair joins the first. -/
def pushNumbered (s : StringState) (c : CodePoint) : StringState :=
  match s.halfPair, s.done with
  | true, high :: done =>
    if c.isLowSurrogate then ⟨.joinSurrogates high c :: done, false, .none⟩
    else ⟨c :: s.done, c.isHighSurrogate, .none⟩
  | _, _ => ⟨c :: s.done, c.isHighSurrogate, .none⟩

@[simp] theorem escape_push (s : StringState) (c : CodePoint) : (s.push c).escape = .none := rfl

@[simp] theorem escape_pushNumbered (s : StringState) (c : CodePoint) :
    (s.pushNumbered c).escape = .none := by
  unfold pushNumbered
  split
  · split <;> rfl
  · rfl

/-- What one code point does to a string. -/
inductive Step where
  | goesOn (s : StringState)
  | ends (t : Text)
  | fails

/-- One more code point of a string. -/
def step (s : StringState) (c : CodePoint) : Step :=
  match s.escape with
  | .none =>
    if c = '"' then .ends s.done.reverse
    else if c = '\\' then .goesOn { s with escape := .started }
    else if c.toNat < 0x20 then .fails
    else .goesOn (s.push c)
  | .started =>
    if c = 'u' then .goesOn { s with escape := .hex 0 0 }
    else match letterEscape? c with
      | some written => .goesOn (s.push written)
      | none => .fails
  | .hex count value =>
    match c.hexDigit? with
    | none => .fails
    | some digit =>
      if count = 3 then .goesOn (s.pushNumbered (.ofNat (16 * value + digit)))
      else .goesOn { s with escape := .hex (count + 1) (16 * value + digit) }

end StringState

/-! ## The state of the reader -/

/-- An open container around the value that is being read. -/
inductive Frame where
  /-- an array and the items before the current one, last first -/
  | array (items : List Value)
  /-- an object, the members before the current one, and the key of the current one -/
  | object (members : Members) (key : Text)
  deriving DecidableEq, Repr

/-- Where the reader stands inside the innermost container. -/
inductive Phase where
  /-- a value has to start -/
  | value
  /-- just after the opening of an array: an item or the end -/
  | firstItem
  /-- just after the opening of an object: a key or the end -/
  | firstKey
  /-- after a comma in an object: a key -/
  | nextKey (members : Members)
  /-- inside a key -/
  | inKey (members : Members) (s : StringState)
  /-- after a key: the colon -/
  | colon (members : Members) (key : Text)
  /-- inside a string value -/
  | inString (s : StringState)
  /-- inside a number, its literal so far with the last code point first -/
  | inNumber (literal : Text) (stage : NumberStage)
  /-- inside a word that still has to go on with `rest` -/
  | inWord (rest : Text) (v : Value)
  /-- after a value: a comma or an end -/
  | after (v : Value)
  deriving DecidableEq, Repr

/-- The containers around the current value, innermost first, and the phase inside the innermost
one. -/
structure State where
  frames : List Frame
  phase : Phase
  deriving DecidableEq, Repr

/-- Before the first code point. -/
def State.start : State := ⟨[], .value⟩

/-- The first code point of a word. -/
def beginWord (frames : List Frame) (c : CodePoint) : Option State :=
  if c = 't' then some ⟨frames, .inWord "rue" (.bool true)⟩
  else if c = 'f' then some ⟨frames, .inWord "alse" (.bool false)⟩
  else if c = 'n' then some ⟨frames, .inWord "ull" .null⟩
  else if c = 'N' then some ⟨frames, .inWord "aN" (.float .nan)⟩
  else if c = 'I' then some ⟨frames, .inWord "nfinity" (.float (.infinity false))⟩
  else none

/-- The first code point of a value. -/
def beginValue (limit : Nat) (frames : List Frame) (c : CodePoint) : Option State :=
  if c = '"' then some ⟨frames, .inString .start⟩
  else if c = '[' then
    if frames.length < limit then some ⟨frames, .firstItem⟩ else none
  else if c = '\x7b' then
    if frames.length < limit then some ⟨frames, .firstKey⟩ else none
  else match NumberStage.first? c with
    | some stage => some ⟨frames, .inNumber [c] stage⟩
    | none => beginWord frames c

/-- The code point after a complete value. -/
def afterValue (frames : List Frame) (v : Value) (c : CodePoint) : Option State :=
  if isSpace c then some ⟨frames, .after v⟩
  else match frames with
    | [] => none
    | .array items :: outer =>
      if c = ',' then some ⟨.array (v :: items) :: outer, .value⟩
      else if c = ']' then some ⟨outer, .after (.array (v :: items).reverse)⟩
      else none
    | .object members key :: outer =>
      if c = ',' then some ⟨outer, .nextKey (members.set key v)⟩
      else if c = '\x7d' then some ⟨outer, .after (.object (members.set key v))⟩
      else none

/-- One more code point. -/
def step (limit : Nat) (σ : State) (c : CodePoint) : Option State :=
  match σ.phase with
  | .value => if isSpace c then some σ else beginValue limit σ.frames c
  | .firstItem =>
    if isSpace c then some σ
    else if c = ']' then some ⟨σ.frames, .after (.array [])⟩
    else beginValue limit (.array [] :: σ.frames) c
  | .firstKey =>
    if isSpace c then some σ
    else if c = '\x7d' then some ⟨σ.frames, .after (.object [])⟩
    else if c = '"' then some ⟨σ.frames, .inKey [] .start⟩
    else none
  | .nextKey members =>
    if isSpace c then some σ
    else if c = '"' then some ⟨σ.frames, .inKey members .start⟩
    else none
  | .inKey members s =>
    match s.step c with
    | .goesOn s => some ⟨σ.frames, .inKey members s⟩
    | .ends key => some ⟨σ.frames, .colon members key⟩
    | .fails => none
  | .colon members key =>
    if isSpace c then some σ
    else if c = ':' then some ⟨.object members key :: σ.frames, .value⟩
    else none
  | .inString s =>
    match s.step c with
    | .goesOn s => some ⟨σ.frames, .inString s⟩
    | .ends t => some ⟨σ.frames, .after (.text t)⟩
    | .fails => none
  | .inNumber literal stage =>
    match stage.next? c with
    | some stage => some ⟨σ.frames, .inNumber (c :: literal) stage⟩
    | none =>
      if stage.isComplete then
        (numberValue? literal.reverse).bind fun v => afterValue σ.frames v c
      else if stage = .sign ∧ c = 'I' then
        some ⟨σ.frames, .inWord "nfinity" (.float (.infinity true))⟩
      else none
  | .inWord rest v =>
    match rest with
    | [] => none
    | [last] => if c = last then some ⟨σ.frames, .after v⟩ else none
    | first :: rest => if c = first then some ⟨σ.frames, .inWord rest v⟩ else none
  | .after v => afterValue σ.frames v c

/-- The value that has been read if the text ends here. -/
def State.finish? (σ : State) : Option Value :=
  match σ.frames, σ.phase with
  | [], .after v => some v
  | [], .inNumber literal stage =>
    if stage.isComplete then numberValue? literal.reverse else none
  | _, _ => none

/-- Reads on from a state. -/
def run (limit : Nat) (σ : State) (t : Text) : Option State := t.foldlM (step limit) σ

end AgentPanel.Json.Reader

namespace AgentPanel.Json

/-- The value of a strict JSON text whose containers nest at most `limit` deep. -/
def decodeWithin? (limit : Nat) (t : Text) : Option Value :=
  (Reader.run limit .start t).bind Reader.State.finish?

/-- How deep the containers of a text may nest where the program reads it. -/
def maxNesting : Nat := 1000

/-- The value of a strict JSON text, as the program reads it. -/
def decode? (t : Text) : Option Value := decodeWithin? maxNesting t

end AgentPanel.Json
