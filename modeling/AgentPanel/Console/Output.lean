import AgentPanel.Failure
import AgentPanel.Journal
import AgentPanel.Json.Printer
import AgentPanel.Panel.Rendered
import AgentPanel.Console.Arguments
import AgentPanel.Text.ControlSequence
import AgentPanel.Text.Upper
import AgentPanel.Text.Utf8

/-!
# What the console writes

The console writes rendered trees to standard output, and notices and log lines to standard error.
Neither is taken for a terminal, so trees and notices are written without control sequences; log
lines are written as they are. Standard output is strict: a text with a lone surrogate cannot be
written there and ends the run. Standard error shows an escape in its place.
-/

namespace AgentPanel.Console

/-- One thing that the console writes. -/
inductive Output where
  /-- to standard output -/
  | screen (t : Text)
  /-- to standard error -/
  | notice (t : Text)
  deriving DecidableEq, Repr

/-- A line of standard output. -/
def screenLine (t : Text) : Output := .screen (Text.withoutControlSequences t ++ "\n")

/-- A line of the log, on standard error. -/
def logLine (t : Text) : Output := .notice (Text.withEscapedSurrogates t ++ "\n")

/-- A notice, on standard error. -/
def noticeLine (t : Text) : Output := logLine (Text.withoutControlSequences t)

/-- How a run ends. -/
inductive Ending where
  /-- with an exit code -/
  | exit (code : Nat)
  /-- with an error that nobody handles; its exit code is one -/
  | raised (e : Raised)
  deriving DecidableEq, Repr

/-- The exit code of misused arguments. -/
def usageExit : Nat := 2

/-- The outputs up to the first one that cannot be written, and the error of that one. -/
def written : List Output → List Output × Option Raised
  | [] => ([], none)
  | .screen t :: rest =>
    match Text.loneSurrogates? t with
    | some (position, surrogates) =>
      ([], some (.other "UnicodeEncodeError" (Text.unwritableMessage position surrogates)))
    | none => let (outputs, e) := written rest; (.screen t :: outputs, e)
  | .notice t :: rest => let (outputs, e) := written rest; (.notice t :: outputs, e)

/-- The text on standard output. -/
def screenText (outputs : List Output) : Text :=
  outputs.flatMap fun
    | .screen t => t
    | .notice _ => []

/-- The text on standard error. -/
def noticeText (outputs : List Output) : Text :=
  outputs.flatMap fun
    | .screen _ => []
    | .notice t => t

/-! ## Log lines -/

/-- The names of log levels, each with the least weight of an event that it lets through. -/
def levelWeights : List (Text × Nat) := [
  ("NOTSET", 0), ("DEBUG", 10), ("INFO", 20), ("WARN", 30), ("WARNING", 30), ("ERROR", 40),
  ("FATAL", 50), ("CRITICAL", 50)]

/-- Names that the log knows though they name no level, each with the error that it raises where a
level is wanted. -/
def misnomers : List (Text × Raised) := [
  ("BASIC_FORMAT", .other "ValueError" "Unknown level: '%(levelname)s:%(name)s:%(message)s'"),
  ("_STYLES", .other "TypeError" <|
    "Level not an integer or a valid string: \x7b'%': (<class 'logging.PercentStyle'>, " ++
    "'%(levelname)s:%(name)s:%(message)s'), '\x7b': (<class 'logging.StrFormatStyle'>, " ++
    "'\x7blevelname\x7d:\x7bname\x7d:\x7bmessage\x7d'), '$': (<class " ++
    "'logging.StringTemplateStyle'>, '$\x7blevelname\x7d:$\x7bname\x7d:$\x7bmessage\x7d')\x7d")]

/-- The weight from which on events are logged at the named level, in any case. An unknown name
stands for the level of information. -/
def threshold (name : Text) : Except Raised Nat :=
  let name := name.toUpper
  match misnomers.lookup name with
  | some e => .error e
  | none => .ok ((levelWeights.lookup name).getD Level.info.weight)

/-- The log lines of events from the given weight on. -/
def logLines (threshold : Nat) (events : List Event) : List Output :=
  (events.filter fun e => threshold ≤ e.level.weight).map fun e =>
    logLine (Text.ofString e.level.name ++ " " ++ e.message)

/-- The lines of events that are reported before there is a log: warnings and errors, the bare
message. -/
def earlyLines (events : List Event) : List Output :=
  (events.filter fun e => Level.warning.weight ≤ e.level.weight).map fun e => logLine e.message

/-! ## Trees -/

/-- Rendered trees in a format. -/
def showTrees (trees : List Rendered) : Format → List Output
  | .outline => trees.map fun tree => screenLine tree.outline
  | .json => [screenLine ((Json.Value.array (Rendered.toValues trees)).indented 0)]

end AgentPanel.Console
