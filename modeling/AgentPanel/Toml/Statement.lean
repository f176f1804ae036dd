import AgentPanel.Toml.Entry
import AgentPanel.Toml.Scalar
import AgentPanel.Toml.Token

/-!
# Statements of a settings file

A TOML text is a row of statements: the assignment of a value to a key, the header of a table, or
the header of the next item of a list of tables.

Tokens are read one by one with a stack of what is open: a line and the brackets in it, each with
the values that it has so far. When a bracket closes, it becomes one piece of what is around it: a
value, or the key of a header. So reading needs no recursion on nesting. There is still a limit to
it: a bracket that would go beyond the room for nesting that the reader is given is not opened.

A value is made as soon as the mark after it is reached. So the fault that ends the reading is the
first one in the text, and the statements before it are known.
-/

namespace AgentPanel.Toml

/-- One statement. -/
inductive Statement where
  | assignment (key : Key) (s : Setting)
  | tableHeader (key : Key)
  | itemHeader (key : Key)
  deriving Repr

/-- A part of a line or bracket. -/
inductive Piece where
  | token (t : Token)
  /-- a list or table whose bracket has closed -/
  | value (s : Setting)
  /-- the key inside the inner brackets of an item header -/
  | key (k : Key)
  /-- a header whose bracket has closed -/
  | header (s : Statement)
  deriving Repr

namespace Piece

/-- Spaces and tabs. -/
def isLineBlank : Piece → Bool
  | token (.blank _) => true
  | _ => false

/-- Spaces, tabs and line ends. -/
def isSpacing : Piece → Bool
  | token .lineEnd => true
  | p => p.isLineBlank

/-- The given token. -/
def isToken (t : Token) : Piece → Bool
  | token u => t = u
  | _ => false

end Piece

/-- The pieces without those of a class at either end. -/
def trimPieces (p : Piece → Bool) (pieces : List Piece) : List Piece :=
  ((pieces.dropWhile p).reverse.dropWhile p).reverse

/-- The parts between the marks of a class; pieces without one are their own only part. -/
def splitPieces (isMark : Piece → Bool) : List Piece → List (List Piece)
  | [] => [[]]
  | p :: rest =>
    if isMark p then [] :: splitPieces isMark rest
    else match splitPieces isMark rest with
      | [] => [[p]]
      | part :: parts => (p :: part) :: parts

/-! ## Keys and values -/

/-- One part of a dotted key: a bare word, or a text quoted on one line. -/
def keyPart? (pieces : List Piece) : Option Text :=
  match trimPieces Piece.isLineBlank pieces with
  | [.token (.word w)] => if w.all isKeyPoint then some w else none
  | [.token (.quoted t)] => some t
  | _ => none

/-- A dotted key. -/
def key (pieces : List Piece) : Except Fault Key :=
  match (splitPieces (Piece.isToken .dot) pieces).mapM keyPart? with
  | some key => .ok key
  | none => .error .malformed

/-- The text of a piece that may be part of a scalar. -/
def scalarText? : Piece → Option Text
  | .token (.word w) => some w
  | .token (.blank t) => some t
  | .token .dot => some "."
  | _ => none

/-- The text of the scalar that pieces begin with. -/
def scalarStart (pieces : List Piece) : Text :=
  ((pieces.takeWhile fun p => (scalarText? p).isSome).filterMap scalarText?).flatten

/-- A single value. -/
def value (pieces : List Piece) : Except Fault Setting :=
  match pieces with
  | [.value s] => .ok s
  | [.token (.quoted t)] => .ok (.text t)
  | [.token (.block t)] => .ok (.text t)
  | pieces =>
    if pieces.all fun p => (scalarText? p).isSome then scalar (scalarStart pieces)
    else if startsTooLong (scalarStart pieces) then .error .tooManyDigits
    else .error .malformed

/-! ## Lines and brackets -/

/-- A line or bracket up to its last mark. -/
inductive Context where
  /-- a line, and the key before its equals sign -/
  | line (key : Option Key)
  /-- the bracket of a header -/
  | header
  /-- the second bracket of an item header -/
  | innerHeader
  /-- a list with its values so far, last first -/
  | list (items : List Setting)
  /-- an inline table with its entries so far, and the key before the latest equals sign -/
  | table (entries : Entries) (key : Option Key)

namespace Context

/-- A value may begin after the last mark. -/
def wantsValue : Context → Bool
  | line key => key.isSome
  | list _ => true
  | table _ key => key.isSome
  | header | innerHeader => false

/-- The pieces that mean nothing before and after a value: in a list, line ends too. -/
def isIdle : Context → Piece → Bool
  | list _ => Piece.isSpacing
  | _ => Piece.isLineBlank

/-- What an open bracket takes of the room for nesting: an inline table takes more than a list. -/
def weight : Context → Nat
  | list _ => 2
  | table _ _ => 3
  | line _ | header | innerHeader => 0

/-- What all that is open takes of the room for nesting. -/
def totalWeight : List Context → Nat
  | [] => 0
  | context :: outer => context.weight + totalWeight outer

end Context

/-- The room that the program has for lists and inline tables that stand inside each other. -/
def nestingRoom : Nat := 980

/-- How far a text has been read: the statements so far, what is being read and the pieces after its
last mark, and what is open around it, the innermost first. Statements and pieces stand last
first. -/
structure Reading where
  statements : List Statement
  context : Context
  pieces : List Piece
  outer : List Context

namespace Reading

/-- Before the first token. -/
def start : Reading := ⟨[], .line none, [], []⟩

/-- The pieces after the last mark, without those that mean nothing. -/
def part (r : Reading) : List Piece := trimPieces r.context.isIdle r.pieces.reverse

/-- Adds a piece. -/
def push (r : Reading) (p : Piece) : Reading := { r with pieces := p :: r.pieces }

/-- Goes on after a mark. -/
def marked (r : Reading) (context : Context) : Reading := { r with context, pieces := [] }

/-- The first fault if the next token may not stand where it does. -/
def fault (r : Reading) : Fault :=
  match if r.context.wantsValue then value r.part else .error .malformed with
  | .error f => f
  | .ok _ => .malformed

/-- Opens a bracket where a value may begin, if there is room for it. -/
def opened (r : Reading) (room : Nat) (bracket : Context) : Except Fault Reading :=
  if r.context.wantsValue && r.part.isEmpty then
    let outer := r.context :: r.outer
    if Context.totalWeight (bracket :: outer) ≤ room then
      .ok { r with context := bracket, pieces := [], outer }
    else .error .tooDeep
  else .error r.fault

/-- Opens a square bracket: of a header at the beginning of a line or just after the first one, else
of a list. -/
def openedSquare (r : Reading) (room : Nat) : Except Fault Reading :=
  let inside (bracket : Context) : Reading :=
    { r with context := bracket, pieces := [], outer := r.context :: r.outer }
  match r.context with
  | .line none => if r.part.isEmpty then .ok (inside .header) else .error .malformed
  | .header => if r.pieces.isEmpty then .ok (inside .innerHeader) else .error .malformed
  | _ => r.opened room (.list [])

/-- Ends the innermost bracket, which becomes a piece of what is around it. -/
def closed (r : Reading) (p : Piece) : Except Fault Reading :=
  match r.outer with
  | [] => .error .malformed
  | context :: outer => .ok { r with context, pieces := [p], outer }

/-- The entries of an inline table after the assignment of a value to a key. -/
def assigned (entries : Entries) (key : Key) (s : Setting) : Except Fault Entries :=
  match Entries.assign 0 s key entries with
  | some entries => .ok entries
  | none => .error .malformed

/-- Reads an equals sign. -/
def equals (r : Reading) : Except Fault Reading :=
  match r.context with
  | .line none => (key r.pieces.reverse).map fun k => r.marked (.line (some k))
  | .table entries none => (key r.pieces.reverse).map fun k => r.marked (.table entries (some k))
  | _ => .error r.fault

/-- Reads a comma. -/
def comma (r : Reading) : Except Fault Reading :=
  match r.context with
  | .list items => (value r.part).map fun s => r.marked (.list (s :: items))
  | .table entries (some k) => do
    let s ← value r.part
    return r.marked (.table (← assigned entries k s) none)
  | _ => .error r.fault

/-- Reads a closing square bracket. The last value of a list may be followed by a comma. -/
def closeSquare (r : Reading) : Except Fault Reading :=
  match r.context with
  | .list items =>
    if r.part.isEmpty then r.closed (.value (.list items.reverse))
    else do r.closed (.value (.list ((← value r.part) :: items).reverse))
  | .innerHeader => do r.closed (.key (← key r.pieces.reverse))
  | .header =>
    match r.pieces with
    | [.key k] => r.closed (.header (.itemHeader k))
    | pieces => do r.closed (.header (.tableHeader (← key pieces.reverse)))
  | _ => .error r.fault

/-- Reads a closing curly bracket. -/
def closeCurly (r : Reading) : Except Fault Reading :=
  match r.context with
  | .table [] none => if r.part.isEmpty then r.closed (.value (.table [])) else .error .malformed
  | .table entries (some k) => do
    let s ← value r.part
    r.closed (.value (.table (toSettings (← assigned entries k s))))
  | _ => .error r.fault

/-- Ends a line, which makes a statement unless it is blank. -/
def ended (r : Reading) : Except Fault Reading :=
  match r.context, r.part with
  | .line none, [] => .ok (r.marked (.line none))
  | .line none, [.header s] => .ok { r.marked (.line none) with statements := s :: r.statements }
  | .line (some k), part => do
    let s ← value part
    return { r.marked (.line none) with statements := .assignment k s :: r.statements }
  | _, _ => .error r.fault

/-- Reads one token. -/
def step (r : Reading) (room : Nat) (t : Token) : Except Fault Reading :=
  match t with
  | .comment => .ok r
  | .lineEnd =>
    match r.context with
    | .list _ => .ok (r.push (.token .lineEnd))
    | _ => r.ended
  | .equals => r.equals
  | .comma => r.comma
  | .openList => r.openedSquare room
  | .openTable => r.opened room (.table [] none)
  | .closeList => r.closeSquare
  | .closeTable => r.closeCurly
  | .broken => .error r.fault
  | t => .ok (r.push (.token t))

/-- The statements of a row of tokens up to the first fault, and that fault. -/
def run (r : Reading) (room : Nat) : List Token → List Statement × Option Fault
  | [] =>
    match r.ended with
    | .ok r => (r.statements.reverse, none)
    | .error f => (r.statements.reverse, some f)
  | t :: rest =>
    match r.step room t with
    | .ok r => r.run room rest
    | .error f => (r.statements.reverse, some f)

end Reading

/-- The statements of a row of tokens up to the first fault, and that fault. -/
def statements (room : Nat) (tokens : List Token) : List Statement × Option Fault :=
  Reading.start.run room tokens

end AgentPanel.Toml
