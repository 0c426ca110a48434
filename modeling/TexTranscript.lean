import TexTranscript.Main
import TexTranscript.Proofs.Accounting
import TexTranscript.Proofs.Faults
import TexTranscript.Proofs.Marks
import TexTranscript.Proofs.Regrouping
import TexTranscript.Proofs.Unfolding
import TexTranscript.Proofs.Dialects
import TexTranscript.Proofs.Verbosity
import TexTranscript.Proofs.Passing
import TexTranscript.Proofs.Tour
import TexTranscript.Proofs.Divisions
import TexTranscript.Proofs.Discipline
import TexTranscript.Proofs.Watching
import TexTranscript.Proofs.Delegation
import TexTranscript.Proofs.Reordering
import TexTranscript.Proofs.Templates
import TexTranscript.Proofs.RoundTrip
import TexTranscript.Proofs.Encoding
import TexTranscript.Proofs.Ledger
import TexTranscript.Proofs.Turns
import TexTranscript.Proofs.Runs
import TexTranscript.Proofs.Endings
import TexTranscript.Proofs.Foresight
import TexTranscript.Proofs.Setup
import TexTranscript.Proofs.Updates
import TexTranscript.Proofs.Thrift
import TexTranscript.Proofs.Output
import TexTranscript.Proofs.Rejoining
import TexTranscript.Proofs.Failure
import TexTranscript.Proofs.Levels
import TexTranscript.Proofs.Fatality
import TexTranscript.Proofs.Capture
import TexTranscript.Proofs.Limits
import TexTranscript.Proofs.Histories
import TexTranscript.Proofs.Attribution
import TexTranscript.Proofs.Entries
import TexTranscript.Proofs.Matches
import TexTranscript.Proofs.FileLineErrors
import TexTranscript.Proofs.Lookahead
import TexTranscript.Proofs.Excerpts
import TexTranscript.Proofs.Registry
import TexTranscript.Proofs.Biber
import TexTranscript.Proofs.Framing
import TexTranscript.Proofs.Repetition
import TexTranscript.Proofs.EditorLinks
import TexTranscript.Proofs.Progress
import TexTranscript.Proofs.LineNumbers
import TexTranscript.Proofs.Precedence
import TexTranscript.Proofs.Unbroken
import TexTranscript.Proofs.OutputLines
import TexTranscript.Proofs.SamePlaces
