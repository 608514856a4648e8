import Stencil.Binary64
import Stencil.Binary64.Decimal
import Stencil.Builtin
import Stencil.Calendar.Date
import Stencil.Calendar.DateTime
import Stencil.Calendar.Rfc3339
import Stencil.CommandLine.Arguments
import Stencil.CommandLine.Command
import Stencil.Config
import Stencil.Counter
import Stencil.Entropy
import Stencil.Error
import Stencil.Expansion
import Stencil.Expansion.Backward
import Stencil.FilePath
import Stencil.FileTree
import Stencil.Format.DateTime
import Stencil.Format.Number
import Stencil.Format.Pattern
import Stencil.Guid
import Stencil.Hex
import Stencil.Inspect
import Stencil.Main
import Stencil.Numeral
import Stencil.Placeholder
import Stencil.Placeholder.Cursor
import Stencil.Placeholder.Grammar
import Stencil.Placeholder.Scan
import Stencil.Proofs.Binary64.Basin
import Stencil.Proofs.Binary64.Natural
import Stencil.Proofs.Binary64.Powers
import Stencil.Proofs.Binary64.Reading
import Stencil.Proofs.Binary64.Rounding
import Stencil.Proofs.Binary64.Shortest
import Stencil.Proofs.Builtin.Date
import Stencil.Proofs.Builtin.File
import Stencil.Proofs.Calendar.Clock
import Stencil.Proofs.Calendar.RoundTrip
import Stencil.Proofs.Counter
import Stencil.Proofs.Expansion.Backward
import Stencil.Proofs.Expansion.Boundary
import Stencil.Proofs.Expansion.Counting
import Stencil.Proofs.Expansion.Encoded
import Stencil.Proofs.Expansion.Escape
import Stencil.Proofs.Expansion.Evaluation
import Stencil.Proofs.Expansion.Indexed
import Stencil.Proofs.Expansion.Marker
import Stencil.Proofs.Expansion.Overlay
import Stencil.Proofs.Expansion.Reachable
import Stencil.Proofs.Expansion.Splice
import Stencil.Proofs.Expansion.Unresolved
import Stencil.Proofs.FilePath
import Stencil.Proofs.Format.Agreement
import Stencil.Proofs.Format.DatePattern
import Stencil.Proofs.Format.DateTime
import Stencil.Proofs.Format.Failure
import Stencil.Proofs.Format.Grouped
import Stencil.Proofs.Format.Instant
import Stencil.Proofs.Format.Pattern
import Stencil.Proofs.Format.Percent
import Stencil.Proofs.Format.Reading
import Stencil.Proofs.Format.Rendering
import Stencil.Proofs.Format.Scaled
import Stencil.Proofs.Format.Standard
import Stencil.Proofs.Guid
import Stencil.Proofs.Hex
import Stencil.Proofs.Hex.Bytes
import Stencil.Proofs.Hex.Units
import Stencil.Proofs.Numeral
import Stencil.Proofs.Placeholder.Brace
import Stencil.Proofs.Placeholder.Context
import Stencil.Proofs.Placeholder.Cursor
import Stencil.Proofs.Placeholder.Forms
import Stencil.Proofs.Placeholder.Nesting
import Stencil.Proofs.Placeholder.Tokens
import Stencil.Proofs.Placeholder.Walk
import Stencil.Proofs.Placeholder.Written
import Stencil.Proofs.Ratio
import Stencil.Proofs.Registry
import Stencil.Proofs.Session
import Stencil.Proofs.Text.Braces
import Stencil.Proofs.Text.Bytes
import Stencil.Proofs.Text.Encoding
import Stencil.Proofs.Text.Fill
import Stencil.Proofs.Text.Occurrence
import Stencil.Proofs.Value.Argument
import Stencil.Proofs.Value.Assignment
import Stencil.Ratio
import Stencil.Registry
import Stencil.Shared
import Stencil.Text
import Stencil.Text.Blank
import Stencil.Text.Case
import Stencil.Text.CaseTables
import Stencil.Text.Quoted
import Stencil.Text.Utf16
import Stencil.Text.Utf8
import Stencil.Text.VisibleTables
import Stencil.Text.Width
import Stencil.Toml.Document
import Stencil.Toml.Quoted
import Stencil.Toml.Scalar
import Stencil.Toml.Tree
import Stencil.Value
import Stencil.Value.Argument
