import FlowGraph.Binary64
import FlowGraph.Binary64.Decimal
import FlowGraph.Blueprint
import FlowGraph.Box
import FlowGraph.Builtin
import FlowGraph.Builtin.Control
import FlowGraph.Builtin.Input
import FlowGraph.Builtin.Output
import FlowGraph.Builtin.Processing
import FlowGraph.Connection
import FlowGraph.Encoding.Box
import FlowGraph.Encoding.Evaluation
import FlowGraph.Encoding.Metadata
import FlowGraph.Encoding.StoredGraph
import FlowGraph.Evaluation
import FlowGraph.Evaluation.Computation
import FlowGraph.Evaluation.Event
import FlowGraph.Evaluation.Run
import FlowGraph.Graph
import FlowGraph.Graph.Order
import FlowGraph.Graph.Problem
import FlowGraph.GraphError
import FlowGraph.Hexadecimal
import FlowGraph.Json
import FlowGraph.Json.Outline
import FlowGraph.Json.Printer
import FlowGraph.Json.Reader
import FlowGraph.Json.Token
import FlowGraph.Kind
import FlowGraph.Node
import FlowGraph.NodeId
import FlowGraph.NodeType
import FlowGraph.OrderedMap
import FlowGraph.OrderedSet
import FlowGraph.Path
import FlowGraph.Regex
import FlowGraph.Regex.Atom
import FlowGraph.Regex.Bracket
import FlowGraph.Regex.Engine
import FlowGraph.Regex.Error
import FlowGraph.Regex.Expression
import FlowGraph.Regex.Flags
import FlowGraph.Regex.Match
import FlowGraph.Regex.Pattern
import FlowGraph.Regex.Spacing
import FlowGraph.Registry
import FlowGraph.Scripted
import FlowGraph.StoredGraph
import FlowGraph.Text.Blank
import FlowGraph.Unicode.Age
import FlowGraph.Unicode.Boundary
import FlowGraph.Unicode.CaseFolding
import FlowGraph.Unicode.CharSet
import FlowGraph.Unicode.GeneralCategory
import FlowGraph.Unicode.Lookup
import FlowGraph.Unicode.NamedSet
import FlowGraph.Unicode.Property
import FlowGraph.Unicode.Script
import FlowGraph.Unicode.ScriptExtension
import FlowGraph.Proofs.Node
import FlowGraph.Proofs.Graph.Edit
import FlowGraph.Proofs.Graph.Invariant
import FlowGraph.Proofs.Graph.Order
import FlowGraph.Proofs.Graph.TopologicalSort
import FlowGraph.Proofs.Evaluation.Step
import FlowGraph.Proofs.Evaluation.Spread
import FlowGraph.Proofs.Evaluation.Effect
import FlowGraph.Proofs.Evaluation.Bookkeeping
import FlowGraph.Proofs.Evaluation.Progress
import FlowGraph.Proofs.Evaluation.Schedule
import FlowGraph.Proofs.Evaluation.Walk
import FlowGraph.Proofs.Evaluation.Agreement
import FlowGraph.Proofs.Evaluation.Typing
import FlowGraph.Proofs.Evaluation.Events
import FlowGraph.Proofs.Evaluation.Trace
import FlowGraph.Proofs.StoredGraph
import FlowGraph.Proofs.Evaluation.Attribution
import FlowGraph.Proofs.Box
import FlowGraph.Proofs.Evaluation.Delivery
import FlowGraph.Proofs.Graph.Problem
import FlowGraph.Proofs.Builtin
import FlowGraph.Proofs.Evaluation.Validity
import FlowGraph.Proofs.Graph.Staleness
import FlowGraph.Proofs.Raise
import FlowGraph.Proofs.Mismatch
import FlowGraph.Proofs.Encoding.Box
import FlowGraph.Proofs.Graph.Mismatch
import FlowGraph.Proofs.Evaluation.Supply
import FlowGraph.Proofs.Evaluation.Timeline
import FlowGraph.Proofs.Evaluation.RunningTime
import FlowGraph.Proofs.Graph.Cycle
import FlowGraph.Proofs.Graph.Rearrangement
import FlowGraph.Proofs.Evaluation.Rearrangement
import FlowGraph.Proofs.Evaluation.Ancestry
import FlowGraph.Proofs.Evaluation.Announcement
import FlowGraph.Proofs.Json.Outline
import FlowGraph.Proofs.Json.Reader
import FlowGraph.Proofs.Encoding.StoredGraph
import FlowGraph.Proofs.Json.Document
import FlowGraph.Proofs.Json.Token
import FlowGraph.Proofs.Graph.LeastOrder
import FlowGraph.Proofs.Graph.Component
import FlowGraph.Proofs.Evaluation.Propagation
import FlowGraph.Proofs.Regex.Matching
import FlowGraph.Proofs.Regex.Atom
import FlowGraph.Proofs.Regex.Bracket
import FlowGraph.Proofs.Regex.Count
import FlowGraph.Proofs.Regex.Group
import FlowGraph.Proofs.Regex.Pattern
import FlowGraph.Proofs.Regex.WholeWord
import FlowGraph.Proofs.Graph.InPlace
import FlowGraph.Proofs.Graph.SettingChange
import FlowGraph.Proofs.Graph.Connecting
import FlowGraph.Proofs.StoredGraph.NormalForm
import FlowGraph.Proofs.StoredGraph.Problem
import FlowGraph.Proofs.Path
import FlowGraph.Proofs.Path.Writing
import FlowGraph.Proofs.Blueprint
import FlowGraph.Proofs.Evaluation.Serial
import FlowGraph.Proofs.InPlace
import FlowGraph.Proofs.Node.Overrides
import FlowGraph.Proofs.Graph.Removal
import FlowGraph.Proofs.Binary64
import FlowGraph.Proofs.Builtin.Merge
import FlowGraph.Proofs.Encoding.Event
import FlowGraph.Proofs.Box.Lookup
import FlowGraph.Proofs.Text.ByteOrder
import FlowGraph.Proofs.Registry
import FlowGraph.Proofs.Evaluation.Exactness
import FlowGraph.Proofs.Regex.Account
import FlowGraph.Proofs.Regex.Engine
