import UiStream.Action.Binding
import UiStream.Action.Builtin
import UiStream.Action.Dispatch
import UiStream.Action.Identifiers
import UiStream.Action.Interpolate
import UiStream.Character.Age
import UiStream.Character.CaseChange
import UiStream.Character.CaseFolding
import UiStream.Character.Category.Invisible
import UiStream.Character.Category.Letters
import UiStream.Character.Category.Marks
import UiStream.Character.Category.Numbers
import UiStream.Character.Category.Punctuation
import UiStream.Character.Category.Symbols
import UiStream.Character.CombiningClass
import UiStream.Character.Composition
import UiStream.Character.Direction
import UiStream.Character.GeneralCategory
import UiStream.Character.Joining
import UiStream.Character.Listed
import UiStream.Character.NormalForm
import UiStream.Character.Property
import UiStream.Character.Ranges
import UiStream.Character.Script
import UiStream.Character.ScriptExtensions
import UiStream.Character.ScriptRanges
import UiStream.Character.Segmentation
import UiStream.Check.Basic
import UiStream.Check.Rule
import UiStream.Check.Run
import UiStream.Command.Arguments
import UiStream.Command.Run
import UiStream.Expression.Basic
import UiStream.Expression.Condition
import UiStream.Expression.Resolve
import UiStream.Expression.Scope
import UiStream.Json.Basic
import UiStream.Json.Display
import UiStream.Json.Equal
import UiStream.Json.Height
import UiStream.Json.Parser
import UiStream.Json.Printer
import UiStream.Main
import UiStream.Number.Decimal
import UiStream.Number.Double
import UiStream.Number.Reading
import UiStream.Patch.Apply
import UiStream.Patch.Basic
import UiStream.Patch.Codec
import UiStream.Pointer.Basic
import UiStream.Pointer.Lookup
import UiStream.Pointer.Write
import UiStream.Proofs.Action.Bounded
import UiStream.Proofs.Action.Builtin
import UiStream.Proofs.Action.Identifiers
import UiStream.Proofs.Action.Interpolation
import UiStream.Proofs.Action.Screens
import UiStream.Proofs.Command.Modes
import UiStream.Proofs.Expression.Alike
import UiStream.Proofs.Expression.NormalForm
import UiStream.Proofs.Expression.Ordering
import UiStream.Proofs.Expression.Reads
import UiStream.Proofs.Expression.Structure
import UiStream.Proofs.Json.Alike
import UiStream.Proofs.Json.Equivalence
import UiStream.Proofs.Json.Members
import UiStream.Proofs.Json.Parsed
import UiStream.Proofs.Json.Trimmed
import UiStream.Proofs.Patch.Alike
import UiStream.Proofs.Patch.Atomic
import UiStream.Proofs.Patch.Commute
import UiStream.Proofs.Patch.Inside
import UiStream.Proofs.Pointer.Alike
import UiStream.Proofs.Pointer.Apart
import UiStream.Proofs.Pointer.Checked
import UiStream.Proofs.Pointer.Composed
import UiStream.Proofs.Pointer.Frame
import UiStream.Proofs.Pointer.Inverse
import UiStream.Proofs.Pointer.Lens
import UiStream.Proofs.Pointer.Restore
import UiStream.Proofs.Pointer.RoundTrip
import UiStream.Proofs.Record.Settled
import UiStream.Proofs.Render.Params
import UiStream.Proofs.Render.Reachable
import UiStream.Proofs.Spec.Decoding
import UiStream.Proofs.Spec.Flattened
import UiStream.Proofs.Spec.Written
import UiStream.Proofs.Stream.Arrivals
import UiStream.Proofs.Stream.Automaton
import UiStream.Proofs.Stream.Boundaries
import UiStream.Proofs.Stream.Classification
import UiStream.Proofs.Stream.Compilation
import UiStream.Proofs.Stream.Fence
import UiStream.Proofs.Stream.Filtered
import UiStream.Proofs.Stream.Interleaved
import UiStream.Proofs.Stream.Lines
import UiStream.Proofs.Stream.Markers
import UiStream.Proofs.Stream.Replay
import UiStream.Proofs.Stream.Restart
import UiStream.Proofs.Stream.TextParts
import UiStream.Proofs.Text.Boundary
import UiStream.Proofs.Text.Trim
import UiStream.Proofs.Text.Utf8
import UiStream.Proofs.Validation.Decoding
import UiStream.Proofs.Validation.Orphans
import UiStream.Proofs.Validation.Repair
import UiStream.Record.Basic
import UiStream.Record.Fault
import UiStream.Regex.Automaton.Basic
import UiStream.Regex.Automaton.Sets
import UiStream.Regex.Automaton.Size
import UiStream.Regex.Automaton.Words
import UiStream.Regex.Basic
import UiStream.Regex.Bracket
import UiStream.Regex.Escape
import UiStream.Regex.Flags
import UiStream.Regex.Limits
import UiStream.Regex.Normal
import UiStream.Regex.Pattern
import UiStream.Regex.SetName
import UiStream.Render.Tree
import UiStream.Spec.Basic
import UiStream.Spec.Nested
import UiStream.Stream.Chat
import UiStream.Stream.Fence
import UiStream.Stream.Lines
import UiStream.Stream.PatchLine
import UiStream.Stream.Pieces
import UiStream.Stream.Session
import UiStream.Stream.TextParts
import UiStream.Text.Blank
import UiStream.Text.ByteRanges
import UiStream.Text.Digit
import UiStream.Text.Quoted
import UiStream.Text.Split
import UiStream.Text.Units
import UiStream.Text.Utf8
import UiStream.Url.Address
import UiStream.Url.Basic
import UiStream.Url.Domain
import UiStream.Url.Label
import UiStream.Url.Punycode
import UiStream.Url.Spelling
import UiStream.Url.Spelling.Characters
import UiStream.Url.Spelling.Texts
import UiStream.Validation.Outline
import UiStream.Validation.Problem
import UiStream.Validation.Repair
import UiStream.Validation.Validate
