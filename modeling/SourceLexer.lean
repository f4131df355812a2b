import SourceLexer.Directory
import SourceLexer.Main
import SourceLexer.Session
import SourceLexer.Proofs.Place
import SourceLexer.Proofs.Remaining
import SourceLexer.Proofs.Segment
import SourceLexer.Proofs.Reading
import SourceLexer.Proofs.Segmentation
import SourceLexer.Proofs.Offset
import SourceLexer.Proofs.Concatenation
import SourceLexer.Proofs.Spelling
import SourceLexer.Proofs.Layout
import SourceLexer.Proofs.Rebuild
import SourceLexer.Proofs.Extension
import SourceLexer.Proofs.History
import SourceLexer.Proofs.Observation
import SourceLexer.Proofs.Navigation
import SourceLexer.Proofs.Attachment
import SourceLexer.Proofs.Sessions
import SourceLexer.Proofs.EventLog
import SourceLexer.Proofs.Automata
import SourceLexer.Proofs.FilterReading
import SourceLexer.Proofs.Reliance
import SourceLexer.Proofs.Invocation
import SourceLexer.Proofs.ListingLines
import SourceLexer.Proofs.JsonScalars
import SourceLexer.Proofs.JsonDocuments
import SourceLexer.Proofs.TokenRoundTrip
import SourceLexer.Proofs.Runs
import SourceLexer.Proofs.Tally
import SourceLexer.Proofs.Spans
import SourceLexer.Proofs.Renaming
import SourceLexer.Proofs.SinglePass
import SourceLexer.Proofs.TextEnd
