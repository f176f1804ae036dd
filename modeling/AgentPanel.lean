import AgentPanel.Checked
import AgentPanel.Console.Arguments
import AgentPanel.Console.Output
import AgentPanel.Console.Run
import AgentPanel.Console.Sample
import AgentPanel.Conversation.Assistant
import AgentPanel.Conversation.History
import AgentPanel.Conversation.Prompt
import AgentPanel.Conversation.Request
import AgentPanel.Conversation.Turn
import AgentPanel.Environment
import AgentPanel.Failure
import AgentPanel.Journal
import AgentPanel.Json.Document
import AgentPanel.Json.Lexical
import AgentPanel.Json.Number
import AgentPanel.Json.Pointer
import AgentPanel.Json.Printer
import AgentPanel.Json.Reader
import AgentPanel.Json.Showing
import AgentPanel.Json.Truncation
import AgentPanel.Json.Value
import AgentPanel.Keyed
import AgentPanel.Main
import AgentPanel.Models.Catalog
import AgentPanel.Models.Creation
import AgentPanel.Models.Gemini
import AgentPanel.Models.Message
import AgentPanel.Models.PlainCatalog
import AgentPanel.Number.Double
import AgentPanel.Number.Numeral
import AgentPanel.Number.Shortest
import AgentPanel.Panel.Builtin
import AgentPanel.Panel.Depth
import AgentPanel.Panel.Element
import AgentPanel.Panel.Gauge
import AgentPanel.Panel.Registry
import AgentPanel.Panel.RegistryHistory
import AgentPanel.Panel.RegistryStore
import AgentPanel.Panel.Rendered
import AgentPanel.Panel.Rendering
import AgentPanel.Path
import AgentPanel.Payload.Checking
import AgentPanel.Payload.Component
import AgentPanel.Payload.Grammar
import AgentPanel.Payload.Wire
import AgentPanel.Payload.WireLimits
import AgentPanel.Reply.Candidate
import AgentPanel.Reply.DeepCut
import AgentPanel.Reply.Extent
import AgentPanel.Reply.Level
import AgentPanel.Reply.Parsed
import AgentPanel.Reply.Repair
import AgentPanel.Reply.Sweep
import AgentPanel.Settings.Basic
import AgentPanel.Settings.Field
import AgentPanel.Settings.Loading
import AgentPanel.Settings.Reading
import AgentPanel.Settings.Setting
import AgentPanel.Text.Basic
import AgentPanel.Text.Blank
import AgentPanel.Text.ControlSequence
import AgentPanel.Text.Digit
import AgentPanel.Text.Printable
import AgentPanel.Text.Quoted
import AgentPanel.Text.Upper
import AgentPanel.Text.Utf8
import AgentPanel.Toml.Document
import AgentPanel.Toml.Entry
import AgentPanel.Toml.Scalar
import AgentPanel.Toml.Statement
import AgentPanel.Toml.Token
import AgentPanel.Traversal
import AgentPanel.Proofs.Conversation.Ending
import AgentPanel.Proofs.Conversation.Log
import AgentPanel.Proofs.Conversation.Outcomes
import AgentPanel.Proofs.Document.DistinctKeys
import AgentPanel.Proofs.Document.Parts
import AgentPanel.Proofs.Document.Stops
import AgentPanel.Proofs.Models.KeptBuiltins
import AgentPanel.Proofs.Panel.BuiltinComponents
import AgentPanel.Proofs.Panel.BuiltinElements
import AgentPanel.Proofs.Panel.DepthLimit
import AgentPanel.Proofs.Panel.OutlineLines
import AgentPanel.Proofs.Panel.Registration
import AgentPanel.Proofs.Panel.RegistryRequests
import AgentPanel.Proofs.Panel.Shape
import AgentPanel.Proofs.Panel.SharedRegistries
import AgentPanel.Proofs.Panel.VisitingOrder
import AgentPanel.Proofs.Payload.Grammar
import AgentPanel.Proofs.Payload.WireFaults
import AgentPanel.Proofs.Payload.WireRoundTrip
import AgentPanel.Proofs.Reader.Along
import AgentPanel.Proofs.Reader.Closing
import AgentPanel.Proofs.Reader.Cuts
import AgentPanel.Proofs.Reader.Documents
import AgentPanel.Proofs.Reader.Move
import AgentPanel.Proofs.Reader.Spelling
import AgentPanel.Proofs.Reader.Strings
import AgentPanel.Proofs.Reader.Unfinished
import AgentPanel.Proofs.Repair.ClosingSuffix
import AgentPanel.Proofs.Repair.Recovery
import AgentPanel.Proofs.Repair.ShortestSuffix
import AgentPanel.Proofs.Repair.Truncation
import AgentPanel.Proofs.Reply.BraceDepth
import AgentPanel.Proofs.Reply.CutLevels
import AgentPanel.Proofs.Reply.DeepCut
import AgentPanel.Proofs.Reply.DistinctNames
import AgentPanel.Proofs.Reply.Extraction
import AgentPanel.Proofs.Reply.OutermostBrace
import AgentPanel.Proofs.Reply.Sweep
import AgentPanel.Proofs.Reply.Verdict
import AgentPanel.Proofs.Reply.WholeObject
import AgentPanel.Proofs.Results
import AgentPanel.Proofs.Settings.Fields
import AgentPanel.Proofs.Settings.Layers
import AgentPanel.Proofs.Settings.Loaded
import AgentPanel.Proofs.Text.Lines
import AgentPanel.Proofs.Text.Order
import AgentPanel.Proofs.Text.Replacement
import AgentPanel.Proofs.Toml.DistinctKeys
import AgentPanel.Proofs.Toml.Nesting
import AgentPanel.Proofs.Traversal.Preorder
