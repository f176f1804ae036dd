import AgentPanel.Keyed
import AgentPanel.Number.Shortest
import AgentPanel.Text.Quoted

/-!
# JSON values

A decoded value keeps the kind of its numbers: `1` is an integer and `1.0` is a double. An object
keeps its members in the order of their first appearance, each key once.

Beside the type stand the ways to look into a value, its depth, equality, and the two texts of a
value that messages and components show: `literal`, in which texts are quoted, and `shown`, which is
the literal except that a text is shown as itself.
-/

namespace AgentPanel.Json

/-- A decoded JSON value. -/
inductive Value where
  | null
  | bool (b : Bool)
  | int (n : Int)
  | float (x : Double)
  | text (t : Text)
  | array (items : List Value)
  | object (members : List (Text × Value))
  deriving Repr

/-- The members of an object, in the order of their first appearance. -/
abbrev Members := Keyed Value

namespace Value

/-! ## Equality -/

mutual

/-- The same value: same kinds, same numbers, same texts, same members in the same order. -/
def same : Value → Value → Bool
  | null, null => true
  | bool a, bool b => a = b
  | int a, int b => a = b
  | float a, float b => a = b
  | text a, text b => a = b
  | array a, array b => sameItems a b
  | object a, object b => sameMembers a b
  | _, _ => false

/-- Item by item the same. -/
def sameItems : List Value → List Value → Bool
  | [], [] => true
  | a :: as, b :: bs => same a b && sameItems as bs
  | _, _ => false

/-- Member by member the same. -/
def sameMembers : List (Text × Value) → List (Text × Value) → Bool
  | [], [] => true
  | (k, a) :: as, (l, b) :: bs => k = l && (same a b && sameMembers as bs)
  | _, _ => false

end

mutual

theorem same_iff : ∀ a b : Value, same a b = true ↔ a = b
  | null, b => by cases b <;> simp [same]
  | bool _, b => by cases b <;> simp [same]
  | int _, b => by cases b <;> simp [same]
  | float _, b => by cases b <;> simp [same]
  | text _, b => by cases b <;> simp [same]
  | array as, b => by
    cases b with
    | array bs => simp [same, sameItems_iff as bs]
    | _ => simp [same]
  | object as, b => by
    cases b with
    | object bs => simp [same, sameMembers_iff as bs]
    | _ => simp [same]

theorem sameItems_iff : ∀ as bs : List Value, sameItems as bs = true ↔ as = bs
  | [], bs => by cases bs <;> simp [sameItems]
  | a :: as, bs => by
    cases bs with
    | nil => simp [sameItems]
    | cons b bs => simp [sameItems, same_iff a b, sameItems_iff as bs]

theorem sameMembers_iff : ∀ as bs : List (Text × Value), sameMembers as bs = true ↔ as = bs
  | [], bs => by cases bs <;> simp [sameMembers]
  | (k, a) :: as, bs => by
    cases bs with
    | nil => simp [sameMembers]
    | cons b bs =>
      obtain ⟨l, b⟩ := b
      simp [sameMembers, same_iff a b, sameMembers_iff as bs, and_assoc]

end

instance : DecidableEq Value := fun a b => decidable_of_iff _ (same_iff a b)

/-! ## Looking into a value -/

/-- The name of a value's kind, as messages give it. -/
def kindName : Value → String
  | null => "NoneType"
  | bool _ => "bool"
  | int _ => "int"
  | float _ => "float"
  | text _ => "str"
  | array _ => "list"
  | object _ => "dict"

/-- The value under a key of an object; other values have none. -/
def member? (key : Text) : Value → Option Value
  | object members => Keyed.get? key members
  | _ => none

/-- Empty or nothing: null, false, a zero, and the empty text, array and object. -/
def isEmpty : Value → Bool
  | null => true
  | bool b => !b
  | int n => n == 0
  | float (.finite _ m _) => m == 0
  | float _ => false
  | text t => t.isEmpty
  | array items => items.isEmpty
  | object members => members.isEmpty

/-! ## Depth -/

mutual

/-- How deep the arrays and objects of a value nest. -/
def depth : Value → Nat
  | null | bool _ | int _ | float _ | text _ => 0
  | array items => itemDepth items + 1
  | object members => memberDepth members + 1

/-- The depth of the deepest item. -/
def itemDepth : List Value → Nat
  | [] => 0
  | v :: rest => max (depth v) (itemDepth rest)

/-- The depth of the deepest member. -/
def memberDepth : List (Text × Value) → Nat
  | [] => 0
  | (_, v) :: rest => max (depth v) (memberDepth rest)

end

/-! ## The text of a value -/

mutual

/-- The text of a value in which texts are quoted. -/
def literal : Value → Text
  | null => "None"
  | bool b => if b then "True" else "False"
  | int n => Text.ofInt n
  | float x => x.toText
  | text t => t.quoted
  | array items => "[" ++ literalItems items ++ "]"
  | object members => "\x7b" ++ literalMembers members ++ "\x7d"

/-- The items of an array, a comma and a space between neighbours. -/
def literalItems : List Value → Text
  | [] => []
  | [v] => literal v
  | v :: rest => literal v ++ ", " ++ literalItems rest

/-- The members of an object, key and value joined by a colon and a space. -/
def literalMembers : List (Text × Value) → Text
  | [] => []
  | [(k, v)] => k.quoted ++ ": " ++ literal v
  | (k, v) :: rest => k.quoted ++ ": " ++ literal v ++ ", " ++ literalMembers rest

end

/-- The text of a value; a text is shown as itself. -/
def shown : Value → Text
  | text t => t
  | v => literal v

end Value

end AgentPanel.Json
