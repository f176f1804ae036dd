import AgentPanel.Json.Lexical
import AgentPanel.Json.Number

/-!
# JSON texts as trees

A document is a JSON text taken apart: a tree that keeps how each string and number is spelled and
where blanks stand. `Document.text` is the text that it was taken from, `Document.value?` the value
that it writes, and `Document.depth` says how deep its containers nest.
-/

namespace AgentPanel.Json

/-! ## Strings -/

/-- How one code point is spelled inside a string, or half of one that takes two escapes. -/
inductive Atom where
  /-- it stands for itself -/
  | plain (c : CodePoint)
  /-- a backslash and a letter -/
  | short (letter : CodePoint)
  /-- a backslash, the letter u and four hexadecimal digits -/
  | long (digits : Text)
  deriving DecidableEq, Repr

namespace Atom

/-- The number that hexadecimal digits write. -/
def hexValue (digits : Text) : Nat :=
  digits.foldl (fun n c => 16 * n + c.hexDigit?.getD 0) 0

/-- The spelling is a proper one. -/
def Proper : Atom → Prop
  | plain c => c ≠ '"' ∧ c ≠ '\\' ∧ 0x20 ≤ c.toNat
  | short letter => (letterEscape? letter).isSome
  | long digits => digits.length = 4 ∧ ∀ c ∈ digits, c.hexDigit?.isSome

/-- The text of the spelling. -/
def text : Atom → Text
  | plain c => [c]
  | short letter => ['\\', letter]
  | long digits => '\\' :: 'u' :: digits

/-- The spelling takes a backslash. -/
def isEscape : Atom → Bool
  | plain _ => false
  | short _ | long _ => true

/-- The code point that is spelled. -/
def point : Atom → CodePoint
  | plain c => c
  | short letter => (letterEscape? letter).getD letter
  | long digits => .ofNat (hexValue digits)

/-- The two spellings are the halves of one code point: both are long. -/
def isPair : Atom → Atom → Bool
  | long high, long low =>
    (point (long high)).isHighSurrogate && (point (long low)).isLowSurrogate
  | _, _ => false

/-- The code points that are spelled by a row of atoms. -/
def points : List Atom → Text
  | [] => []
  | [a] => [a.point]
  | a :: b :: rest =>
    if isPair a b then .joinSurrogates a.point b.point :: points rest
    else a.point :: points (b :: rest)

/-- The text of a string in quotes. -/
def quotedText (atoms : List Atom) : Text :=
  CodePoint.scalar '"' :: atoms.flatMap text ++ [CodePoint.scalar '"']

end Atom

/-! ## Documents -/

/-- A word that is a value. -/
inductive Word where
  | null
  | true
  | false
  | nan
  | infinity
  | negativeInfinity
  deriving DecidableEq, Repr

namespace Word

/-- The text of a word. -/
def text : Word → Text
  | null => "null"
  | true => "true"
  | false => "false"
  | nan => "NaN"
  | infinity => "Infinity"
  | negativeInfinity => "-Infinity"

/-- The value of a word. -/
def value : Word → Value
  | null => .null
  | true => .bool .true
  | false => .bool .false
  | nan => .float .nan
  | infinity => .float (.infinity .false)
  | negativeInfinity => .float (.infinity .true)

end Word

/-- Something with blanks before and after it. -/
structure Spaced (α : Type) where
  before : Text
  inner : α
  after : Text
  deriving Repr

/-- A JSON text without outer blanks, taken apart. The gap of a container follows its opening
bracket. -/
inductive Document where
  | word (w : Word)
  | number (literal : Text)
  | string (atoms : List Atom)
  | array (gap : Text) (items : List (Spaced Document))
  | object (gap : Text) (members : List (Spaced (List Atom) × Spaced Document))
  deriving Repr

namespace Document

mutual

/-- The text that a document was taken from. -/
def text : Document → Text
  | word w => w.text
  | number literal => literal
  | string atoms => Atom.quotedText atoms
  | array gap items => CodePoint.scalar '[' :: gap ++ itemsText items ++ [CodePoint.scalar ']']
  | object gap members =>
    CodePoint.scalar '\x7b' :: gap ++ membersText members ++ [CodePoint.scalar '\x7d']

/-- The text of the items of an array, a comma between neighbours. -/
def itemsText : List (Spaced Document) → Text
  | [] => []
  | [⟨before, d, after⟩] => before ++ text d ++ after
  | ⟨before, d, after⟩ :: rest =>
    before ++ text d ++ after ++ CodePoint.scalar ',' :: itemsText rest

/-- The text of the members of an object, a comma between neighbours. -/
def membersText : List (Spaced (List Atom) × Spaced Document) → Text
  | [] => []
  | [(key, ⟨before, d, after⟩)] =>
    key.before ++ Atom.quotedText key.inner ++ key.after ++
      CodePoint.scalar ':' :: before ++ text d ++ after
  | (key, ⟨before, d, after⟩) :: rest =>
    key.before ++ Atom.quotedText key.inner ++ key.after ++
      CodePoint.scalar ':' :: before ++ text d ++ after ++ CodePoint.scalar ',' :: membersText rest

end

mutual

/-- The value that a document writes; none if an integer in it is too long. -/
def value? : Document → Option Value
  | word w => some w.value
  | number literal => numberValue? literal
  | string atoms => some (.text (Atom.points atoms))
  | array _ items => .array <$> itemValues? items
  | object _ members => .object <$> memberValues? [] members

/-- The values of the items of an array. -/
def itemValues? : List (Spaced Document) → Option (List Value)
  | [] => some []
  | ⟨_, d, _⟩ :: rest => do return (← value? d) :: (← itemValues? rest)

/-- The given members with those of an object set in them. -/
def memberValues? (done : Members) : List (Spaced (List Atom) × Spaced Document) → Option Members
  | [] => some done
  | (key, ⟨_, d, _⟩) :: rest => do
    memberValues? (done.set (Atom.points key.inner) (← value? d)) rest

end

mutual

/-- How deep the containers of a document nest. -/
def depth : Document → Nat
  | word _ | number _ | string _ => 0
  | array _ items => itemDepth items + 1
  | object _ members => memberDepth members + 1

/-- The depth of the deepest item. -/
def itemDepth : List (Spaced Document) → Nat
  | [] => 0
  | ⟨_, d, _⟩ :: rest => max (depth d) (itemDepth rest)

/-- The depth of the deepest member. -/
def memberDepth : List (Spaced (List Atom) × Spaced Document) → Nat
  | [] => 0
  | (_, ⟨_, d, _⟩) :: rest => max (depth d) (memberDepth rest)

end

/-- Blanks between the tokens of JSON. -/
def Blanks (t : Text) : Prop := ∀ c ∈ t, isSpace c

mutual

/-- Blanks are blanks, strings are spelled properly and numbers are complete literals. -/
def Proper : Document → Prop
  | word _ => True
  | number literal => isNumber literal
  | string atoms => ∀ a ∈ atoms, a.Proper
  | array gap items => Blanks gap ∧ ProperItems items
  | object gap members => Blanks gap ∧ ProperMembers members

/-- So it is in all items of an array. -/
def ProperItems : List (Spaced Document) → Prop
  | [] => True
  | ⟨before, d, after⟩ :: rest => Blanks before ∧ Proper d ∧ Blanks after ∧ ProperItems rest

/-- So it is in all members of an object. -/
def ProperMembers : List (Spaced (List Atom) × Spaced Document) → Prop
  | [] => True
  | (key, ⟨before, d, after⟩) :: rest =>
    Blanks key.before ∧ (∀ a ∈ key.inner, a.Proper) ∧ Blanks key.after ∧ Blanks before ∧
      Proper d ∧ Blanks after ∧ ProperMembers rest

end

/-- The keys of the members of an object. -/
def keys (members : List (Spaced (List Atom) × Spaced Document)) : List Text :=
  members.map fun (key, _) => Atom.points key.inner

mutual

/-- No object of the document repeats a key. -/
def DistinctKeys : Document → Prop
  | word _ | number _ | string _ => True
  | array _ items => DistinctKeysItems items
  | object _ members => (keys members).Nodup ∧ DistinctKeysMembers members

/-- No object in the items of an array does. -/
def DistinctKeysItems : List (Spaced Document) → Prop
  | [] => True
  | ⟨_, d, _⟩ :: rest => DistinctKeys d ∧ DistinctKeysItems rest

/-- No object in the members of an object does. -/
def DistinctKeysMembers : List (Spaced (List Atom) × Spaced Document) → Prop
  | [] => True
  | (_, ⟨_, d, _⟩) :: rest => DistinctKeys d ∧ DistinctKeysMembers rest

end

end Document

end AgentPanel.Json
