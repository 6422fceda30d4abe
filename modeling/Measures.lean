import Measures.Text.Digit
import Measures.Text.Blank
import Measures.Text.Lowercase
import Measures.Text.Quoted
import Measures.Decimal.Shortest
import Measures.Catalog.Standard
import Measures.Fault
import Measures.Main
import Measures.Proofs.Query.Acceptance
import Measures.Proofs.Query.Connector
import Measures.Proofs.Notation
import Measures.Proofs.Outcome
import Measures.Proofs.Catalog.Acceptance
import Measures.Proofs.Catalog.Reading
import Measures.Proofs.Catalog.Extension
import Measures.Proofs.Reply
import Measures.Proofs.Catalog.Standard
import Measures.Proofs.Scaling
import Measures.Proofs.Casing
import Measures.Proofs.Command.Console
import Measures.Proofs.Command.Boundary
import Measures.Proofs.Dialogue
import Measures.Proofs.Command.Arguments
import Measures.Proofs.Command.Release
import Measures.Proofs.Command.Service
import Measures.Proofs.Command.Unquoted
import Measures.Proofs.Command.Ending
import Measures.Proofs.Note
import Measures.Proofs.Command.Verbose
import Measures.Proofs.Catalog.Index
import Measures.Proofs.Query.Written
import Measures.Proofs.Sentence
import Measures.Proofs.Minus
import Measures.Proofs.Coherence
import Measures.Proofs.Command.Display
import Measures.Proofs.Command.Markup
import Measures.Proofs.Double.Rounding
import Measures.Proofs.Overflow
import Measures.Proofs.Catalog.Groups
import Measures.Proofs.Query.Shape
import Measures.Proofs.Catalog.Listing
