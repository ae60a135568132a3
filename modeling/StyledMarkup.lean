import StyledMarkup.ClassName
import StyledMarkup.Css.Selection
import StyledMarkup.Markup
import StyledMarkup.Proofs.Alias.Blocks
import StyledMarkup.Proofs.Alias.Characters
import StyledMarkup.Proofs.Alias.Delimiter
import StyledMarkup.Proofs.Alias.Distinct
import StyledMarkup.Proofs.Alias.EmptyStem
import StyledMarkup.Proofs.Alias.Growth
import StyledMarkup.Proofs.Alias.NameByName
import StyledMarkup.Proofs.Alias.Scheme
import StyledMarkup.Proofs.Alias.Slots
import StyledMarkup.Proofs.ClassNames
import StyledMarkup.Proofs.Css.ClassSelectors
import StyledMarkup.Proofs.Css.Offsets
import StyledMarkup.Proofs.Css.Reselection
import StyledMarkup.Proofs.Css.Selection
import StyledMarkup.Proofs.Json.Settled
import StyledMarkup.Proofs.Markup.ClosingQuote
import StyledMarkup.Proofs.Markup.Escape
import StyledMarkup.Proofs.Markup.Layout
import StyledMarkup.Proofs.Markup.Pieces
import StyledMarkup.Proofs.Markup.Places
import StyledMarkup.Proofs.Report.Labels
import StyledMarkup.Proofs.Report.Rows
import StyledMarkup.Proofs.RunRenaming
import StyledMarkup.Proofs.Session
import StyledMarkup.Proofs.Snapshot.Flags
import StyledMarkup.Proofs.Snapshot.Frame
import StyledMarkup.Proofs.Snapshot.Halves
import StyledMarkup.Proofs.Snapshot.Survival
import StyledMarkup.Proofs.Strip.Leftmost
import StyledMarkup.Proofs.Strip.OtherNames
import StyledMarkup.Proofs.Strip.Parts
import StyledMarkup.Proofs.Strip.Scan
import StyledMarkup.Proofs.Strip.Surroundings
import StyledMarkup.Proofs.Strip.Tokens
import StyledMarkup.Proofs.Strip.Values
import StyledMarkup.Proofs.Text.Encoding
import StyledMarkup.Proofs.Tree.ClassValues
import StyledMarkup.Proofs.Tree.Paths
import StyledMarkup.Proofs.Tree.Preorder
import StyledMarkup.Proofs.Tree.RoundTrip
import StyledMarkup.Proofs.Tree.Walks
import StyledMarkup.Proofs.WorkingNames
import StyledMarkup.Registry
import StyledMarkup.Rename
import StyledMarkup.Report
import StyledMarkup.Settings
import StyledMarkup.Snapshot
import StyledMarkup.Strip
import StyledMarkup.Tree.Encoded
import StyledMarkup.Tree.Reader
import StyledMarkup.Tree.Walk
