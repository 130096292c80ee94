import SyntaxOutline.Main
import SyntaxOutline.Source.Concrete
import SyntaxOutline.Source.Graph
import SyntaxOutline.Proofs.Json.Grammar
import SyntaxOutline.Proofs.Json.Outcome
import SyntaxOutline.Proofs.Json.Strings
import SyntaxOutline.Proofs.Json.Numbers
import SyntaxOutline.Proofs.Json.Brackets
import SyntaxOutline.Proofs.Json.Values
import SyntaxOutline.Proofs.Json.Typed
import SyntaxOutline.Proofs.Outline.Read
import SyntaxOutline.Proofs.Json.Written
import SyntaxOutline.Proofs.Outline.RoundTrip
import SyntaxOutline.Proofs.Outline.Unambiguous
import SyntaxOutline.Proofs.Outline.Reread
import SyntaxOutline.Proofs.Walk.Listing
import SyntaxOutline.Proofs.Outline.Levels
import SyntaxOutline.Proofs.Outline.Paths
import SyntaxOutline.Proofs.Outline.Occurrences
import SyntaxOutline.Proofs.Walk.Limits
import SyntaxOutline.Proofs.Graph.Runs
import SyntaxOutline.Proofs.Graph.Cycles
import SyntaxOutline.Proofs.Graph.Levels
import SyntaxOutline.Proofs.Graph.Loosening
import SyntaxOutline.Proofs.Render.Paths
import SyntaxOutline.Proofs.Files.Store
import SyntaxOutline.Proofs.Toml.Grammar
import SyntaxOutline.Proofs.Toml.Blanks
import SyntaxOutline.Proofs.Toml.Strings
import SyntaxOutline.Proofs.Toml.Keys
import SyntaxOutline.Proofs.Toml.Numbers
import SyntaxOutline.Proofs.Toml.Dates
import SyntaxOutline.Proofs.Toml.Scalars
import SyntaxOutline.Proofs.Toml.Entries
import SyntaxOutline.Proofs.Toml.Paths
import SyntaxOutline.Proofs.Toml.Commands
import SyntaxOutline.Proofs.Toml.Values
import SyntaxOutline.Proofs.Toml.Documents
import SyntaxOutline.Proofs.Settings.Given
import SyntaxOutline.Proofs.Settings.RoundTrip
import SyntaxOutline.Proofs.Settings.Saves
import SyntaxOutline.Proofs.Command.Dependence
import SyntaxOutline.Proofs.Command.Stages
import SyntaxOutline.Proofs.Text.Spans
import SyntaxOutline.Proofs.Text.Slices
import SyntaxOutline.Proofs.Concrete.Outline
import SyntaxOutline.Proofs.Concrete.Positions
import SyntaxOutline.Proofs.Concrete.LineEndings
import SyntaxOutline.Proofs.Concrete.Tokens
import SyntaxOutline.Proofs.Parsed.Nodes
import SyntaxOutline.Proofs.Walk.Descent
import SyntaxOutline.Proofs.Parsed.Fits
import SyntaxOutline.Proofs.Graph.Unfolding
import SyntaxOutline.Proofs.Walk.Kinds
import SyntaxOutline.Proofs.Text.OnePass
import SyntaxOutline.Proofs.Json.Indentation
import SyntaxOutline.Proofs.Json.Skipping
import SyntaxOutline.Proofs.Json.Records
import SyntaxOutline.Proofs.Settings.Forms
import SyntaxOutline.Proofs.Settings.Partial
import SyntaxOutline.Proofs.Text.Offsets
import SyntaxOutline.Proofs.Settings.Names
