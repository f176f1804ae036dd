import AgentPanel.Text.Basic

/-!
# UTF-8

Files hold bytes. Decoding is strict: no overlong forms, no surrogates, nothing beyond `U+10FFFF`. A
fault says which bytes are wrong and why. The other way round, a text can be written only if no
surrogate stands alone in it.
-/

namespace AgentPanel.Text

/-! ## Decoding -/

/-- Why bytes are no UTF-8. -/
inductive Utf8Reason where
  /-- no character starts with the byte -/
  | start
  /-- the byte after the faulty ones does not continue the character -/
  | continuation
  /-- the bytes end within a character -/
  | ended
  deriving DecidableEq, Repr

/-- The words for a reason. -/
def Utf8Reason.words : Utf8Reason → Text
  | start => "invalid start byte"
  | continuation => "invalid continuation byte"
  | ended => "unexpected end of data"

/-- A place where bytes are no UTF-8: `count` bytes from `position` on, the first of which is
`byte`. -/
structure Utf8Fault where
  position : Nat
  count : Nat
  byte : UInt8
  reason : Utf8Reason
  deriving DecidableEq, Repr

/-- A place in a text or in bytes: one position, or the first and the last of several. -/
def placeText (position count : Nat) : Text :=
  if count ≤ 1 then ofNat position else ofNat position ++ "-" ++ ofNat (position + count - 1)

/-- The message of a fault. -/
def Utf8Fault.message (f : Utf8Fault) : Text :=
  let what : Text := if f.count ≤ 1 then "byte 0x" ++ ofHex 2 f.byte.toNat else "bytes"
  "'utf-8' codec can't decode " ++ what ++ " in position " ++ placeText f.position f.count ++
    ": " ++ f.reason.words

/-- What the first byte of a character says: how many bytes follow, between which bounds the first
of these lies, and the bits that it gives itself. -/
structure LeadByte where
  following : Nat
  low : Nat
  high : Nat
  bits : Nat
  deriving DecidableEq, Repr

/-- The first byte of a character. -/
def leadByte? (byte : UInt8) : Option LeadByte :=
  let n := byte.toNat
  if n < 0x80 then some ⟨0, 0x80, 0xBF, n⟩
  else if n < 0xC2 then none
  else if n < 0xE0 then some ⟨1, 0x80, 0xBF, n - 0xC0⟩
  else if n < 0xF0 then
    some ⟨2, if n = 0xE0 then 0xA0 else 0x80, if n = 0xED then 0x9F else 0xBF, n - 0xE0⟩
  else if n < 0xF5 then
    some ⟨3, if n = 0xF0 then 0x90 else 0x80, if n = 0xF4 then 0x8F else 0xBF, n - 0xF0⟩
  else none

/-- Reads the bytes that follow in a character, the first of them between the given bounds. `taken`
bytes have been read, and `value` is what they give. -/
def readFollowing (low high taken value : Nat) :
    (following : Nat) → List UInt8 → Except (Utf8Reason × Nat) Nat
  | 0, _ => .ok value
  | _ + 1, [] => .error (.ended, taken)
  | following + 1, byte :: rest =>
    if low ≤ byte.toNat ∧ byte.toNat ≤ high then
      readFollowing 0x80 0xBF (taken + 1) (value * 0x40 + byte.toNat % 0x40) following rest
    else .error (.continuation, taken)

/-- Reads one character: its code point and the number of bytes after the first. -/
def readCharacter (byte : UInt8) (rest : List UInt8) :
    Except (Utf8Reason × Nat) (CodePoint × Nat) :=
  match leadByte? byte with
  | none => .error (.start, 1)
  | some lead => do
    let value ← readFollowing lead.low lead.high 1 lead.bits lead.following rest
    return (.ofNat value, lead.following)

/-- Decodes bytes from a position on; `skip` counts the bytes of the current character that are
still to be passed over. -/
def decodeFrom (position : Nat) : (skip : Nat) → List UInt8 → Except Utf8Fault Text
  | _, [] => .ok []
  | skip + 1, _ :: rest => decodeFrom (position + 1) skip rest
  | 0, byte :: rest =>
    match readCharacter byte rest with
    | .error (reason, count) => .error ⟨position, count, byte, reason⟩
    | .ok (c, following) => return c :: (← decodeFrom (position + 1) following rest)

/-- The text that bytes encode. -/
def ofUtf8 (bytes : List UInt8) : Except Utf8Fault Text := decodeFrom 0 0 bytes

/-! ## Texts that cannot be written -/

/-- The lone surrogates that stand first in a text, and the position of the first of them. -/
def loneSurrogates? (t : Text) : Option (Nat × Text) :=
  let before := t.takeWhile fun c => !c.isSurrogate
  let surrogates := (t.drop before.length).takeWhile CodePoint.isSurrogate
  if surrogates.isEmpty then none else some (before.length, surrogates)

/-- The message for a text that cannot be written because of these surrogates. -/
def unwritableMessage (position : Nat) (surrogates : Text) : Text :=
  let what : Text := match surrogates with
    | [c] => "character '\\u" ++ ofHex 4 c.toNat ++ "'"
    | _ => "characters"
  "'utf-8' codec can't encode " ++ what ++ " in position " ++
    placeText position surrogates.length ++ ": surrogates not allowed"

/-- The text with an escape for each lone surrogate. -/
def withEscapedSurrogates (t : Text) : Text :=
  t.flatMap fun c => if c.isSurrogate then "\\u" ++ ofHex 4 c.toNat else [c]

/-- The text with a replacement character for each of the three bytes that a lone surrogate would
take. -/
def withReplacedSurrogates (t : Text) : Text :=
  t.flatMap fun c => if c.isSurrogate then ['\ufffd', '\ufffd', '\ufffd'] else [c]

end AgentPanel.Text
