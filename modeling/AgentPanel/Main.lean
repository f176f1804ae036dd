import AgentPanel.Console.Run

/-!
# The console

Reads arguments, environment, files and lines, runs the steps of a command, and writes what they
give. No network is at hand, so every request to a model ends with a connection error.
-/

namespace AgentPanel.Console

/-- The environment variables that settings come from. -/
def readEnvironment : IO Environment :=
  Settings.variableNames.filterMapM fun name => do
    return (← IO.getEnv name.toStringLossy).map fun value => (name, Text.ofString value)

/-- What is found under a path. -/
def findFile (path : Text) : IO FoundFile := do
  try
    return .content (← IO.FS.readBinFile path.toStringLossy).toList
  catch
    | .noFileOrDirectory .. => return .nothing
    | .permissionDenied .. => return .unreadable "PermissionError"
    | .inappropriateType .. => return .directory
    | _ => return .unreadable "OSError"

/-- Writes outputs, and gives the error of the first one that cannot be written. -/
def writeOutputs (outputs : List Output) : IO (Option Raised) := do
  let (outputs, unwritable) := written outputs
  for output in outputs do
    match output with
    | .screen t => IO.print t.toStringLossy
    | .notice t => IO.eprint t.toStringLossy
  (← IO.getStdout).flush
  return unwritable

/-- Ends a run: shows an error that nobody handles, and gives the exit code. -/
def endRun : Ending → IO UInt32
  | .exit code => return code.toUInt32
  | .raised e => do
    let text := match e.text with
      | .ok text => text
      | .error _ => "<exception str() failed>"
    IO.eprintln (e.name ++ ": " ++ text).toStringLossy
    return 1

/-- Writes outputs and ends a run. -/
def finishRun (outputs : List Output) (ending : Ending) : IO UInt32 := do
  match ← writeOutputs outputs with
  | some e => endRun (.raised e)
  | none => endRun ending

/-- How every request to a model ends. -/
def offline : ModelOutcome := .raised (.other "ConnectionError" "no network access")

/-- Talks with the user until the lines end or one of them is a farewell. -/
partial def talk (c : Context) (format : Format) (a : Assistant) : IO UInt32 := do
  if let some e ← writeOutputs [.screen prompt] then return ← endRun (.raised e)
  let line ← (← IO.getStdin).getLine
  if line.isEmpty then return 0
  match hear a ((Text.ofString line).unifyLineEnds.lines.headD []) with
  | .farewell => return 0
  | .nothing => talk c format a
  | .request a =>
    let (outputs, next) := answered c format a offline
    match ← writeOutputs outputs, next with
    | some e, _ | none, .error e => endRun (.raised e)
    | none, .ok a => talk c format a

/-- Chats with a model. -/
def runChat (c : Context) (model : Option Text) (format : Format) : IO UInt32 := do
  let created := (ModelRegistry.builtin id).create model c.settings []
  let _ ← writeOutputs (c.log created)
  match created.value.1 with
  | .error e => let (outputs, ending) := noModel e; finishRun outputs ending
  | .ok _ =>
    let (a, outputs) := beginChat c format
    match ← writeOutputs outputs with
    | some e => endRun (.raised e)
    | none => talk c format a

/-- Refuses misused arguments. -/
def refuse : IO UInt32 := do
  IO.eprintln ("Usage: [--verbose] [--config FILE] " ++
    "(render [--format FORMAT] SOURCE | components | chat [--model KEY] [--format FORMAT])")
  return usageExit.toUInt32

/-- Runs an invocation. -/
def runInvocation (i : Invocation) : IO UInt32 := do
  if let some path := i.settingsFile then
    let .content _ ← findFile path | return ← refuse
  let environment ← readEnvironment
  let directory := Path.ofText (Text.ofString (← IO.currentDir).toString)
  let path := Settings.filePath i.settingsFile environment directory
  let loaded := Settings.load Toml.nestingRoom environment path (← findFile path.toText)
  let (outputs, context) := beginRun i.verbose Registry.builtin.freeze loaded
  let _ ← writeOutputs outputs
  let c ← match context with
    | .ok c => pure c
    | .error e => return ← endRun (.raised e)
  match i.command? with
  | none => refuse
  | some .components => finishRun (listComponents c) (.exit 0)
  | some (.chat model format) => runChat c model format
  | some (.render source format) => do
    let bytes ← if source = "-" then
        pure (FoundFile.content (← (← IO.getStdin).readBinToEnd).toList)
      else findFile source
    let .content bytes := bytes | refuse
    let (outputs, ending) := renderBytes c format bytes
    finishRun outputs ending

end AgentPanel.Console

/-- The console. -/
def main (arguments : List String) : IO UInt32 :=
  match AgentPanel.Console.Invocation.ofArguments? (arguments.map AgentPanel.Text.ofString) with
  | some i => AgentPanel.Console.runInvocation i
  | none => AgentPanel.Console.refuse
