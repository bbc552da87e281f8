import FrontEnd.Arithmetic.Analysis
import FrontEnd.Diagnostic
import FrontEnd.Script.Lexing
import FrontEnd.Script.Parsing
import FrontEnd.Proofs.Dialogue.Journal
import FrontEnd.Proofs.Dialogue.Unwinding
import FrontEnd.Proofs.Lexing.Ahead
import FrontEnd.Proofs.Lexing.History
import FrontEnd.Proofs.Lexing.Call
import FrontEnd.Proofs.Lexing.Partition
import FrontEnd.Proofs.Lexing.Coordinates
import FrontEnd.Proofs.Parsing.Ahead
import FrontEnd.Proofs.Parsing.Cursor
import FrontEnd.Proofs.Parsing.Accounting
import FrontEnd.Proofs.Arithmetic.Pieces
import FrontEnd.Proofs.Arithmetic.Lines
import FrontEnd.Proofs.Arithmetic.Munch
import FrontEnd.Proofs.Arithmetic.Analysis
import FrontEnd.Proofs.Arithmetic.Contents
import FrontEnd.Proofs.Arithmetic.Composition
import FrontEnd.Proofs.Arithmetic.UnknownCharacters
import FrontEnd.Proofs.Arithmetic.Context
import FrontEnd.Proofs.Arithmetic.Descent
import FrontEnd.Proofs.Arithmetic.Acceptance
import FrontEnd.Proofs.Arithmetic.RoundTrip
import FrontEnd.Proofs.Arithmetic.Segments
import FrontEnd.Proofs.Arithmetic.Recovery
import FrontEnd.Proofs.Arithmetic.Agreement
import FrontEnd.Proofs.Arithmetic.Reading
import FrontEnd.Proofs.Arithmetic.Locality
import FrontEnd.Proofs.Arithmetic.Placement
import FrontEnd.Proofs.Arithmetic.Blanks
import FrontEnd.Proofs.Arithmetic.Diagnostics
import FrontEnd.Proofs.Parsing.Lookahead
import FrontEnd.Proofs.Parsing.Skipping
import FrontEnd.Proofs.Parsing.Advance
import FrontEnd.Proofs.Dialogue.Comparison
import FrontEnd.Proofs.Parsing.Horizon
import FrontEnd.Proofs.Arithmetic.Horizon
import FrontEnd.Proofs.Lexing.Reports
import FrontEnd.Proofs.Parsing.Reports
import FrontEnd.Proofs.Log
import FrontEnd.Proofs.Failure
import FrontEnd.Proofs.Arithmetic.Failures
import FrontEnd.Proofs.Arithmetic.Progress
