import SqlTemplate.Catalog
import SqlTemplate.Proofs.Accepted
import SqlTemplate.Proofs.Binding
import SqlTemplate.Proofs.Capture
import SqlTemplate.Proofs.Confinement
import SqlTemplate.Proofs.Deletion
import SqlTemplate.Proofs.Descriptions
import SqlTemplate.Proofs.Fetching
import SqlTemplate.Proofs.FileRoundTrip
import SqlTemplate.Proofs.FragmentBody
import SqlTemplate.Proofs.Headers
import SqlTemplate.Proofs.History
import SqlTemplate.Proofs.Inline
import SqlTemplate.Proofs.Inlining
import SqlTemplate.Proofs.Integers
import SqlTemplate.Proofs.Joining
import SqlTemplate.Proofs.Lexeme
import SqlTemplate.Proofs.Lexical
import SqlTemplate.Proofs.LineBreak
import SqlTemplate.Proofs.LineEnding
import SqlTemplate.Proofs.LineMachine
import SqlTemplate.Proofs.LiteralContents
import SqlTemplate.Proofs.NamePattern
import SqlTemplate.Proofs.Nesting
import SqlTemplate.Proofs.OnePass
import SqlTemplate.Proofs.Phrase
import SqlTemplate.Proofs.Positions
import SqlTemplate.Proofs.Prepared
import SqlTemplate.Proofs.QuotedValue
import SqlTemplate.Proofs.Reload
import SqlTemplate.Proofs.RenamedText
import SqlTemplate.Proofs.Repeated
import SqlTemplate.Proofs.Resting
import SqlTemplate.Proofs.RoundTrip
import SqlTemplate.Proofs.Scoping
import SqlTemplate.Proofs.Snapshots
import SqlTemplate.Proofs.Spelling
import SqlTemplate.Proofs.Strictness
import SqlTemplate.Proofs.Tokens
import SqlTemplate.Proofs.Trace
import SqlTemplate.Proofs.WholeNames
import SqlTemplate.Proofs.WholeTokens
import SqlTemplate.Query
import SqlTemplate.Settings.Reader
