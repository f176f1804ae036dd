import AgentPanel.Failure
import AgentPanel.Json.Value

/-!
# Values without a text

Not every value has a text. An integer of more digits than a decimal text may have is not written,
and a value is written level by level, so it must not nest deeper than there is room for on the
stack. Whichever of the two is met first ends the writing (`textFault?`).

Where the room is sure to be enough, only digits can be in the way (`written?`).
-/

namespace AgentPanel

namespace TextFault

/-- An integer has too many digits. -/
def tooManyDigits : TextFault where
  name := "ValueError"
  message := "Exceeds the limit (" ++ Text.ofNat Text.maxDigits ++ " digits) for integer string " ++
    "conversion; use sys.set_int_max_str_digits() to increase the limit"

/-- A value nests deeper than there is room for. -/
def tooDeep : TextFault where
  name := "RecursionError"
  message := "maximum recursion depth exceeded while getting the repr of an object"

end TextFault

namespace Json.Value

/-- An integer of more digits than a decimal text may have. -/
@[irreducible]
def isLong (n : Int) : Bool := Nat.pow 10 Text.maxDigits ≤ n.natAbs

mutual

/-- The first fault in the way of a value's text, where so many levels can be written. -/
def textFault? (room : Nat) : Value → Option TextFault
  | int n => if room = 0 then some .tooDeep else if isLong n then some .tooManyDigits else none
  | null | bool _ | float _ | text _ => if room = 0 then some .tooDeep else none
  | array items => if room = 0 then some .tooDeep else itemFault? (room - 1) items
  | object members => if room = 0 then some .tooDeep else memberFault? (room - 1) members

/-- The first fault in the way of the texts of items. -/
def itemFault? (room : Nat) : List Value → Option TextFault
  | [] => none
  | v :: rest => (textFault? room v).or (itemFault? room rest)

/-- The first fault in the way of the texts of members. -/
def memberFault? (room : Nat) : List (Text × Value) → Option TextFault
  | [] => none
  | (_, v) :: rest => (textFault? room v).or (memberFault? room rest)

end

/-- The text of a value, or the first fault in its way. A text is shown as itself, and needs no
writing. -/
def shown? (room : Nat) (v : Value) : Except TextFault Text :=
  match v with
  | text t => .ok t
  | v =>
    match textFault? room v with
    | some fault => .error fault
    | none => .ok v.shown

/-- The levels that the program has room to write. -/
def standardRoom : Nat := 975

/-! ## Faults one by one -/

mutual

/-- The value holds an integer of too many digits. -/
def holdsLongInt : Value → Bool
  | int n => isLong n
  | null | bool _ | float _ | text _ => false
  | array items => itemsHoldLongInt items
  | object members => membersHoldLongInt members

/-- One of the items holds such an integer. -/
def itemsHoldLongInt : List Value → Bool
  | [] => false
  | v :: rest => holdsLongInt v || itemsHoldLongInt rest

/-- One of the members holds such an integer. -/
def membersHoldLongInt : List (Text × Value) → Bool
  | [] => false
  | (_, v) :: rest => holdsLongInt v || membersHoldLongInt rest

end

mutual

/-- The number of levels of a value, its own one included. -/
def height : Value → Nat
  | null | bool _ | int _ | float _ | text _ => 1
  | array items => itemHeight items + 1
  | object members => memberHeight members + 1

/-- The number of levels of items. -/
def itemHeight : List Value → Nat
  | [] => 0
  | v :: rest => max (height v) (itemHeight rest)

/-- The number of levels of members. -/
def memberHeight : List (Text × Value) → Nat
  | [] => 0
  | (_, v) :: rest => max (height v) (memberHeight rest)

end

/-- The text of a value that nests no deeper than there is room for, whatever that is. -/
def written? (v : Value) : Except TextFault Text :=
  match v with
  | text t => .ok t
  | v => if holdsLongInt v then .error .tooManyDigits else .ok v.shown

mutual

/-- With room for all levels of a value, digits alone can be in the way of its text. -/
theorem textFault?_of_height_le {room : Nat} : ∀ {v : Value}, height v ≤ room →
    textFault? room v = if holdsLongInt v then some .tooManyDigits else none
  | .int n, h => by
    rw [height] at h
    rw [textFault?, holdsLongInt, if_neg (by omega)]
  | .null, h | .bool _, h | .float _, h | .text _, h => by
    rw [height] at h
    rw [textFault?, if_neg (by omega)]
    rfl
  | .array items, h => by
    rw [height] at h
    rw [textFault?, holdsLongInt, if_neg (by omega), itemFault?_of_itemHeight_le (by omega)]
  | .object members, h => by
    rw [height] at h
    rw [textFault?, holdsLongInt, if_neg (by omega), memberFault?_of_memberHeight_le (by omega)]

theorem itemFault?_of_itemHeight_le {room : Nat} : ∀ {items : List Value}, itemHeight items ≤ room →
    itemFault? room items = if itemsHoldLongInt items then some .tooManyDigits else none
  | [], _ => rfl
  | v :: rest, h => by
    obtain ⟨hfirst, hrest⟩ := Nat.max_le.mp h
    rw [itemFault?, itemsHoldLongInt, textFault?_of_height_le hfirst,
      itemFault?_of_itemHeight_le hrest]
    cases holdsLongInt v <;> rfl

theorem memberFault?_of_memberHeight_le {room : Nat} : ∀ {members : List (Text × Value)},
    memberHeight members ≤ room →
      memberFault? room members = if membersHoldLongInt members then some .tooManyDigits else none
  | [], _ => rfl
  | (k, v) :: rest, h => by
    obtain ⟨hfirst, hrest⟩ := Nat.max_le.mp h
    rw [memberFault?, membersHoldLongInt, textFault?_of_height_le hfirst,
      memberFault?_of_memberHeight_le hrest]
    cases holdsLongInt v <;> rfl

end

mutual

/-- A value with more levels than there is room for is not written. -/
theorem textFault?_ne_none_of_lt : ∀ {room : Nat} {v : Value}, room < height v →
    textFault? room v ≠ none
  | room, .null, h | room, .bool _, h | room, .int _, h | room, .float _, h | room, .text _, h => by
    rw [height] at h
    rw [textFault?, if_pos (by omega)]
    exact nofun
  | room, .array items, h => by
    rw [height] at h
    rw [textFault?]
    split
    · exact nofun
    · exact itemFault?_ne_none_of_lt (by omega)
  | room, .object members, h => by
    rw [height] at h
    rw [textFault?]
    split
    · exact nofun
    · exact memberFault?_ne_none_of_lt (by omega)

theorem itemFault?_ne_none_of_lt {room : Nat} : ∀ {items : List Value}, room < itemHeight items →
    itemFault? room items ≠ none
  | [], h => absurd h (Nat.not_lt_zero room)
  | v :: rest, h => by
    rw [itemFault?, Ne, Option.or_eq_none_iff]
    rintro ⟨hfirst, hrest⟩
    have hsome : room < height v ∨ room < itemHeight rest := by
      rw [itemHeight] at h
      omega
    rcases hsome with hv | hitems
    · exact textFault?_ne_none_of_lt hv hfirst
    · exact itemFault?_ne_none_of_lt hitems hrest

theorem memberFault?_ne_none_of_lt {room : Nat} : ∀ {members : List (Text × Value)},
    room < memberHeight members → memberFault? room members ≠ none
  | [], h => absurd h (Nat.not_lt_zero room)
  | (k, v) :: rest, h => by
    rw [memberFault?, Ne, Option.or_eq_none_iff]
    rintro ⟨hfirst, hrest⟩
    have hsome : room < height v ∨ room < memberHeight rest := by
      rw [memberHeight] at h
      omega
    rcases hsome with hv | hmembers
    · exact textFault?_ne_none_of_lt hv hfirst
    · exact memberFault?_ne_none_of_lt hmembers hrest

end

/-- A value can be written just if there is room for all its levels and no integer in it has too
many digits. -/
theorem textFault?_eq_none_iff {room : Nat} {v : Value} :
    textFault? room v = none ↔ height v ≤ room ∧ holdsLongInt v = false := by
  constructor
  · intro h
    have hroom : height v ≤ room := by
      apply Nat.not_lt.mp
      intro hlt
      exact textFault?_ne_none_of_lt hlt h
    rw [textFault?_of_height_le hroom] at h
    refine ⟨hroom, ?_⟩
    cases hlong : holdsLongInt v with
    | true => rw [hlong] at h; cases h
    | false => rfl
  · rintro ⟨hroom, hlong⟩
    rw [textFault?_of_height_le hroom, hlong]
    rfl

/-- With room for all levels, `written?` is what is shown. -/
theorem shown?_eq_written? {room : Nat} {v : Value} (h : height v ≤ room) :
    shown? room v = written? v := by
  cases v with
  | text t => rfl
  | _ =>
    simp only [shown?, written?, textFault?_of_height_le h]
    generalize holdsLongInt _ = long
    cases long <;> rfl

end Json.Value

end AgentPanel
