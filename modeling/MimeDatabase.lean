import MimeDatabase.Failure
import MimeDatabase.Session
import MimeDatabase.Text.Latin
import MimeDatabase.Proofs.Config.TextSettings
import MimeDatabase.Proofs.Detection.Evidence
import MimeDatabase.Proofs.Detection.ReadAhead
import MimeDatabase.Proofs.FileName
import MimeDatabase.Proofs.Glob.Candidates
import MimeDatabase.Proofs.Glob.Literal
import MimeDatabase.Proofs.Glob.Spelling
import MimeDatabase.Proofs.Glob.Winner
import MimeDatabase.Proofs.Hierarchy.Ancestors
import MimeDatabase.Proofs.Hierarchy.WalkOrder
import MimeDatabase.Proofs.Hierarchy.Nearness
import MimeDatabase.Proofs.Hierarchy.LastAncestor
import MimeDatabase.Proofs.Hierarchy.Order
import MimeDatabase.Proofs.Magic.Conditions
import MimeDatabase.Proofs.Magic.Deciding
import MimeDatabase.Proofs.Magic.Grammar
import MimeDatabase.Proofs.Magic.Growth
import MimeDatabase.Proofs.Magic.Independence
import MimeDatabase.Proofs.Magic.Lookup
import MimeDatabase.Proofs.Magic.Meaning
import MimeDatabase.Proofs.Magic.Progress
import MimeDatabase.Proofs.Magic.RoundTrip
import MimeDatabase.Proofs.Magic.Sections
import MimeDatabase.Proofs.Text.Lower
import MimeDatabase.Proofs.TypeName
import MimeDatabase.Proofs.Magic.WellFormed
import MimeDatabase.Proofs.Record.Seams
import MimeDatabase.Proofs.Record.WellFormed
import MimeDatabase.Proofs.Alias
import MimeDatabase.Proofs.Hierarchy.Foreign
import MimeDatabase.Proofs.Database.Icons
import MimeDatabase.Proofs.Database.Queries
import MimeDatabase.Proofs.Database.Records
import MimeDatabase.Proofs.Database.Stability
import MimeDatabase.Proofs.Database.Transparency
import MimeDatabase.Proofs.Database.Roots
import MimeDatabase.Proofs.Database.Numbering
import MimeDatabase.Proofs.Database.Precedence
import MimeDatabase.Proofs.Snapshot
import MimeDatabase.Proofs.Session
import MimeDatabase.Proofs.Source.Loading
