import ModalEditing.Action
import ModalEditing.Command.Basic
import ModalEditing.Command.Builder
import ModalEditing.Command.Operator
import ModalEditing.Editor.Basic
import ModalEditing.Editor.Dispatch
import ModalEditing.Editor.Handling
import ModalEditing.Editor.Typing
import ModalEditing.Fault
import ModalEditing.Host.Buffer
import ModalEditing.Host.Session
import ModalEditing.Host.Terminal
import ModalEditing.Host.Tour
import ModalEditing.Inspect
import ModalEditing.Key.Basic
import ModalEditing.Key.Notation
import ModalEditing.Keymap.Basic
import ModalEditing.Keymap.Directive
import ModalEditing.Keymap.Handler
import ModalEditing.Keymap.Index
import ModalEditing.Keymap.ModeSet
import ModalEditing.Keymap.Registry
import ModalEditing.Keymap.Script
import ModalEditing.Keymap.Standard
import ModalEditing.Main
import ModalEditing.Mode.Basic
import ModalEditing.Mode.State
import ModalEditing.Motion
import ModalEditing.Proofs.ActionBounds
import ModalEditing.Proofs.AskedActions
import ModalEditing.Proofs.BuilderCalls
import ModalEditing.Proofs.CheckedOffsets
import ModalEditing.Proofs.CheckedSpans
import ModalEditing.Proofs.ControlState
import ModalEditing.Proofs.CountPlaces
import ModalEditing.Proofs.CoveredText
import ModalEditing.Proofs.DetectedLines
import ModalEditing.Proofs.DispatchSteps
import ModalEditing.Proofs.HandlerRuns
import ModalEditing.Proofs.HeldKeys
import ModalEditing.Proofs.IndentBlocks
import ModalEditing.Proofs.IndentedLines
import ModalEditing.Proofs.KeptColumn
import ModalEditing.Proofs.KeymapLookup
import ModalEditing.Proofs.LineSearches
import ModalEditing.Proofs.LineSpans
import ModalEditing.Proofs.LineWalks
import ModalEditing.Proofs.MappedKeys
import ModalEditing.Proofs.MappingOwners
import ModalEditing.Proofs.NumberedLines
import ModalEditing.Proofs.OffsetBounds
import ModalEditing.Proofs.OperatedBlocks
import ModalEditing.Proofs.PartialCommands
import ModalEditing.Proofs.RegisteredLookup
import ModalEditing.Proofs.RejectedInput
import ModalEditing.Proofs.RestingPlaces
import ModalEditing.Proofs.ReturnMode
import ModalEditing.Proofs.SelectedObjects
import ModalEditing.Proofs.SessionBounds
import ModalEditing.Proofs.SettingsTable
import ModalEditing.Proofs.ShownSelection
import ModalEditing.Proofs.SingleCommands
import ModalEditing.Proofs.SpanForm
import ModalEditing.Proofs.SpelledKeys
import ModalEditing.Proofs.StandardDispatch
import ModalEditing.Proofs.StrokeMarks
import ModalEditing.Proofs.TurnEnd
import ModalEditing.Proofs.TurnFrame
import ModalEditing.Proofs.TypedCounts
import ModalEditing.Proofs.TypedOver
import ModalEditing.Proofs.WordBoundaries
import ModalEditing.Proofs.WordSpans
import ModalEditing.Proofs.WrittenKeys
import ModalEditing.Quoted
import ModalEditing.Selection
import ModalEditing.Settings
import ModalEditing.Text.Basic
import ModalEditing.Text.Cluster
import ModalEditing.Text.Indentation
import ModalEditing.Text.Line
import ModalEditing.Text.Row
import ModalEditing.Text.Span
import ModalEditing.Text.Word
import ModalEditing.TextObject.Basic
import ModalEditing.TextObject.IndentBlock
import ModalEditing.Unicode.Alphanumeric
import ModalEditing.Unicode.CharSet
import ModalEditing.Unicode.ClusterClass
import ModalEditing.Unicode.Printable
import ModalEditing.Unicode.Space
import ModalEditing.Yaml.Node
import ModalEditing.Yaml.Scalar
import ModalEditing.Yaml.Source
import ModalEditing.Yaml.Token
