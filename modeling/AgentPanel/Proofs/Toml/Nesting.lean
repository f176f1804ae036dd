import AgentPanel.Settings.Field

/-!
# Lists that stand too deep

A file that opens one list in another is read as long as there is room for it. Beyond that the fault
is not that of a malformed file (`table?_bracketFile`), whatever follows.
-/

namespace AgentPanel

namespace Toml

namespace Reading

/-- A line that assigns to `a`, with so many lists open in it. -/
def bracketed : Nat → Reading
  | 0 => ⟨[], .line (some ["a"]), [], []⟩
  | n + 1 => ⟨[], .list [], [], (bracketed n).context :: (bracketed n).outer⟩

theorem totalWeight_bracketed (n : Nat) :
    Context.totalWeight ((bracketed n).context :: (bracketed n).outer) = 2 * n := by
  induction n with
  | zero => rfl
  | succ n ih =>
    rw [bracketed, Context.totalWeight, ih]
    show 2 + 2 * n = 2 * (n + 1)
    omega

theorem step_bracketed (room n : Nat) :
    (bracketed n).step room .openList =
      if 2 * (n + 1) ≤ room then .ok (bracketed (n + 1)) else .error .tooDeep := by
  have hopened : (bracketed n).step room .openList = (bracketed n).opened room (.list []) := by
    cases n <;> rfl
  have hready : ((bracketed n).context.wantsValue && (bracketed n).part.isEmpty) = true := by
    cases n <;> rfl
  have hstatements : (bracketed n).statements = [] := by
    cases n <;> rfl
  have hweight : Context.totalWeight (.list [] :: (bracketed n).context :: (bracketed n).outer) =
      2 * (n + 1) := totalWeight_bracketed (n + 1)
  rw [hopened, opened, if_pos hready]
  dsimp only
  rw [hweight, hstatements]
  rfl

/-- The list that goes beyond the room ends the reading, whatever follows it. -/
theorem run_bracketed {room n count : Nat} (hn : 2 * n ≤ room) (h : room < 2 * (n + count))
    (rest : List Token) :
    (bracketed n).run room (List.replicate count .openList ++ rest) = ([], some .tooDeep) := by
  induction count generalizing n with
  | zero => omega
  | succ count ih =>
    rw [List.replicate_succ, List.cons_append, run, step_bracketed]
    by_cases hroom : 2 * (n + 1) ≤ room
    -- one more list fits, so fewer are left to be opened
    · rw [if_pos hroom]
      exact ih hroom (by omega)
    · rw [if_neg hroom]
      have hstatements : (bracketed n).statements = [] := by
        cases n <;> rfl
      dsimp only
      rw [hstatements]
      rfl

end Reading

/-! ## Such a file -/

/-- A file that assigns to `a` and opens so many lists. -/
def bracketFile (count : Nat) : List UInt8 := 0x61 :: 0x3D :: List.replicate count 0x5B

/-- The brackets of the file. -/
def brackets (count : Nat) : Text := List.replicate count (.scalar '[')

theorem brackets_succ (count : Nat) : brackets (count + 1) = .scalar '[' :: brackets count := rfl

theorem decodeFrom_of_ascii {byte : UInt8} (h : byte.toNat < 0x80) (position : Nat)
    (rest : List UInt8) :
    Text.decodeFrom position 0 (byte :: rest) =
      (Text.decodeFrom (position + 1) 0 rest).map (CodePoint.ofNat byte.toNat :: ·) := by
  have hlead : Text.leadByte? byte = some ⟨0, 0x80, 0xBF, byte.toNat⟩ := if_pos h
  rw [Text.decodeFrom, Text.readCharacter, hlead]
  show Text.decodeFrom (position + 1) 0 rest >>= _ = _
  cases Text.decodeFrom (position + 1) 0 rest <;> rfl

theorem decodeFrom_brackets (position count : Nat) :
    Text.decodeFrom position 0 (List.replicate count 0x5B) = .ok (brackets count) := by
  induction count generalizing position with
  | zero => rfl
  | succ count ih =>
    rw [List.replicate_succ, decodeFrom_of_ascii (by decide), ih]
    rfl

theorem ofUtf8_bracketFile (count : Nat) :
    Text.ofUtf8 (bracketFile count) = .ok (.scalar 'a' :: .scalar '=' :: brackets count) := by
  rw [Text.ofUtf8, bracketFile, decodeFrom_of_ascii (by decide), decodeFrom_of_ascii (by decide),
    decodeFrom_brackets]
  rfl

theorem replaceFrom_brackets (count : Nat) :
    Text.replaceFrom "\r\n" "\n" 0 (brackets count) = brackets count := by
  induction count with
  | zero => rfl
  | succ count ih =>
    rw [brackets_succ, Text.replaceFrom, ih]
    rfl

theorem tokensFrom_brackets (count : Nat) :
    tokensFrom 0 (brackets count) = List.replicate count .openList := by
  induction count with
  | zero => rfl
  | succ count ih =>
    have htoken : token? (.scalar '[' :: brackets count) = some (.openList, brackets count) := rfl
    rw [brackets_succ, tokensFrom, htoken]
    dsimp only
    rw [Nat.sub_self, ih]
    rfl

theorem tokens_brackets (count : Nat) :
    tokens (.scalar 'a' :: .scalar '=' :: brackets count) =
      .word "a" :: .equals :: List.replicate count .openList := by
  have hlines : Text.replace (.scalar 'a' :: .scalar '=' :: brackets count) "\r\n" "\n" =
      .scalar 'a' :: .scalar '=' :: brackets count := by
    show .scalar 'a' :: .scalar '=' :: Text.replaceFrom "\r\n" "\n" 0 (brackets count) = _
    rw [replaceFrom_brackets]
  have hword : token? (.scalar 'a' :: .scalar '=' :: brackets count) =
      some (.word "a", .scalar '=' :: brackets count) := by
    rfl
  have hequals : token? (.scalar '=' :: brackets count) = some (.equals, brackets count) := rfl
  rw [tokens, hlines, tokensFrom, hword]
  dsimp only
  rw [Nat.sub_self, tokensFrom, hequals]
  dsimp only
  rw [Nat.sub_self, tokensFrom_brackets]

theorem table?_bracketFile {room count : Nat} (h : room < 2 * count) :
    (FoundFile.content (bracketFile count)).table? room = .error (.toml .tooDeep) := by
  have hstart : Reading.start.run room (.word "a" :: .equals :: List.replicate count .openList) =
      (Reading.bracketed 0).run room (List.replicate count .openList ++ []) := by
    rw [List.append_nil]
    rfl
  have hrun := Reading.run_bracketed (Nat.zero_le room) (by omega : room < 2 * (0 + count)) []
  have hread : read room (.scalar 'a' :: .scalar '=' :: brackets count) = .error .tooDeep := by
    rw [read, tokens_brackets, statements, hstart, hrun]
    rfl
  rw [FoundFile.table?, ofUtf8_bracketFile]
  show (read room _).mapError LoadFault.toml >>= _ = _
  rw [hread]
  rfl

end Toml

end AgentPanel
