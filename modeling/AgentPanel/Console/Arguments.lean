import AgentPanel.Keyed

/-!
# Arguments of the console

    [--verbose | -v] [--config FILE] COMMAND

The commands are `render [--format FORMAT] SOURCE`, `components`, and
`chat [--model KEY] [--format FORMAT]`. Options of the console stand before the command; options of
a command stand anywhere after it. A double dash ends the options.

The options of the console are read first. The arguments of the command are read when the console
has done what its own options ask for.
-/

namespace AgentPanel.Console

/-- How rendered trees are printed. -/
inductive Format where
  | outline
  | json
  deriving DecidableEq, Repr

/-- The format of a name. -/
def Format.ofName? (name : Text) : Option Format :=
  if name = "outline" then some .outline else if name = "json" then some .json else none

/-- What the console is to do. -/
inductive Command where
  /-- render the reply in a file, or on standard input for a dash -/
  | render (source : Text) (format : Format)
  /-- list the component types -/
  | components
  /-- talk with the agent -/
  | chat (model : Option Text) (format : Format)
  deriving DecidableEq, Repr

/-- The name of a command. -/
inductive CommandName where
  | render
  | components
  | chat
  deriving DecidableEq, Repr

/-- The command name that a text is. -/
def CommandName.ofText? (t : Text) : Option CommandName :=
  if t = "render" then some .render
  else if t = "components" then some .components
  else if t = "chat" then some .chat
  else none

/-- One run of the console: its options, and the command with its arguments as they are given. -/
structure Invocation where
  verbose : Bool
  settingsFile : Option Text
  name : CommandName
  arguments : List Text
  deriving DecidableEq, Repr

/-! ## Options and operands -/

/-- Which options there are. -/
structure OptionSet where
  /-- options without a value -/
  flags : List Text := []
  /-- the letters for some of the flags -/
  letters : List (CodePoint × Text) := []
  /-- options with a value -/
  valued : List Text := []
  /-- options may stand after operands -/
  anywhere : Bool := true

/-- Arguments by kind. Of several values of one option the last one counts. -/
structure Scanned where
  flags : List Text := []
  values : Keyed Text := []
  operands : List Text := []
  deriving DecidableEq, Repr

namespace Scanned

/-- Adds flags in front. -/
def withFlags (s : Scanned) (flags : List Text) : Scanned := { s with flags := flags ++ s.flags }

/-- Adds the value of an option in front. -/
def withValue (s : Scanned) (name value : Text) : Scanned :=
  if s.values.has name then s else { s with values := s.values.set name value }

/-- Adds an operand in front. -/
def withOperand (s : Scanned) (operand : Text) : Scanned :=
  { s with operands := operand :: s.operands }

end Scanned

/-- What an argument is. -/
inductive Argument where
  | operand
  /-- the end of the options -/
  | optionsEnd
  | flags (names : List Text)
  /-- an option with its value -/
  | value (name value : Text)
  /-- an option whose value is the next argument -/
  | nextIsValue (name : Text)
  | unknown
  deriving DecidableEq, Repr

namespace OptionSet

/-- The flags that letters after a single dash stand for. -/
def lettersOf (o : OptionSet) (t : Text) : Argument :=
  match t.mapM fun c => o.letters.lookup c with
  | some names => .flags names
  | none => .unknown

/-- An argument that begins with two dashes. -/
def longOption (o : OptionSet) (t : Text) : Argument :=
  match Text.splitAtFirst? '=' t with
  | some (name, value) => if name ∈ o.valued then .value name value else .unknown
  | none =>
    if t ∈ o.flags then .flags [t]
    else if t ∈ o.valued then .nextIsValue t
    else .unknown

/-- What an argument is. -/
def argument (o : OptionSet) (t : Text) : Argument :=
  if t = "--" then .optionsEnd
  else if Text.startsWith t "--" then o.longOption t
  else match t with
    | .scalar '-' :: letters@(_ :: _) => o.lettersOf letters
    | _ => .operand

/-- Sorts arguments by kind; none if an option is unknown or lacks its value. -/
def scan? (o : OptionSet) : List Text → Option Scanned
  | [] => some {}
  | t :: rest =>
    match o.argument t with
    | .operand =>
      if o.anywhere then (o.scan? rest).map (·.withOperand t)
      else some { operands := t :: rest }
    | .optionsEnd => some { operands := rest }
    | .flags names => (o.scan? rest).map (·.withFlags names)
    | .value name value => (o.scan? rest).map (·.withValue name value)
    | .nextIsValue name =>
      match rest with
      | [] => none
      | value :: rest => (o.scan? rest).map (·.withValue name value)
    | .unknown => none

end OptionSet

/-! ## Invocations -/

/-- The options of the console. -/
def consoleOptions : OptionSet where
  flags := ["--verbose"]
  letters := [('v', "--verbose")]
  valued := ["--config"]
  anywhere := false

/-- The format that the options of a command choose. -/
def formatOf? (s : Scanned) : Option Format :=
  Format.ofName? ((s.values.get? "--format").getD "outline")

/-- The command of a name with its arguments; none if they are misused. -/
def CommandName.command? (arguments : List Text) : CommandName → Option Command
  | render => do
    let s ← OptionSet.scan? { valued := ["--format"] } arguments
    let format ← formatOf? s
    match s.operands with
    | [source] => some (.render source format)
    | _ => none
  | components => do
    let s ← OptionSet.scan? {} arguments
    if s.operands.isEmpty then some .components else none
  | chat => do
    let s ← OptionSet.scan? { valued := ["--model", "--format"] } arguments
    let format ← formatOf? s
    if s.operands.isEmpty then some (.chat (s.values.get? "--model") format) else none

/-- The invocation that arguments describe; none if the options of the console are misused, or there
is no such command. -/
def Invocation.ofArguments? (arguments : List Text) : Option Invocation := do
  let s ← consoleOptions.scan? arguments
  match s.operands with
  | [] => none
  | name :: rest =>
    let name ← CommandName.ofText? name
    some ⟨s.flags.contains "--verbose", s.values.get? "--config", name, rest⟩

/-- What the console is to do; none if the arguments of the command are misused. -/
def Invocation.command? (i : Invocation) : Option Command := i.name.command? i.arguments

end AgentPanel.Console
