import Stencil.Capture.Dispatcher
import Stencil.Document.Cursor
import Stencil.Document.Decode
import Stencil.Template.Compile
import Stencil.Matching.Run
import Stencil.CommandLine.Ending
import Stencil.Main
import Stencil.Proofs.Matching.Captures
import Stencil.Proofs.Matching.Lasting
import Stencil.Proofs.Matching.Meaning
import Stencil.Proofs.Matching.Mirror
import Stencil.Proofs.Matching.Shapes
import Stencil.Proofs.Document.Texts
import Stencil.Proofs.Matching.Provenance
import Stencil.Proofs.Brackets
import Stencil.Proofs.Document.Balance
import Stencil.Proofs.Document.Repair
import Stencil.Document.Arena
import Stencil.Proofs.Arena.Build
import Stencil.Proofs.Arena.Links
import Stencil.Proofs.Arena.Normal
import Stencil.Proofs.Arena.Lossless
import Stencil.Proofs.Document.Context
import Stencil.Proofs.Matching.Root
import Stencil.Proofs.Matching.Rejected
import Stencil.Proofs.Matching.Isolation
import Stencil.Proofs.Matching.Ignored
import Stencil.Proofs.Template.Nested
import Stencil.Proofs.Markup.Escape
import Stencil.Proofs.Template.Markup
import Stencil.Proofs.Template.Reserved
import Stencil.Proofs.Template.Operators
import Stencil.Proofs.Template.Separators
import Stencil.Proofs.Template.Payload
import Stencil.Proofs.Template.Flaws
import Stencil.Proofs.Matching.Plain
import Stencil.Proofs.CommandLine.Printed
import Stencil.Proofs.Document.Positions
import Stencil.Proofs.Template.Positions
import Stencil.Proofs.Matching.Wildcards
import Stencil.Proofs.Matching.Branches
import Stencil.Proofs.Matching.Folding
import Stencil.Proofs.Matching.Repetition
import Stencil.Proofs.Matching.Collapse
import Stencil.Proofs.Markup.References
import Stencil.Proofs.Template.Expressions
import Stencil.Proofs.Matching.Frames
import Stencil.Proofs.Matching.Course
import Stencil.Proofs.Matching.Deepest
import Stencil.Proofs.Template.Violations
import Stencil.Proofs.Template.EmptyExpressions
import Stencil.Proofs.Document.Tidy
import Stencil.Proofs.Capture.Visible
