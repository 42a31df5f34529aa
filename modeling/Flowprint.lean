import Flowprint.Document.Encode
import Flowprint.Main
import Flowprint.Text.Quoted
import Flowprint.Workspace.Basic
import Flowprint.Graph.Adjacency
import Flowprint.Proofs.Graph.Levels
import Flowprint.Proofs.Graph.Distance
import Flowprint.Proofs.Document.Acceptance
import Flowprint.Proofs.Json.Escape
import Flowprint.Proofs.Json.Numeral
import Flowprint.Proofs.Json.Integers
import Flowprint.Proofs.Json.Tokens
import Flowprint.Proofs.Json.RoundTrip
import Flowprint.Proofs.Document.Written
import Flowprint.Proofs.Document.RoundTrip
import Flowprint.Proofs.Flowgraph.History
import Flowprint.Proofs.Document.Expressible
import Flowprint.Proofs.Workspace.Frame
import Flowprint.Proofs.Workspace.Pulls
import Flowprint.Proofs.Feature.Collection
import Flowprint.Proofs.Graph.Nested
import Flowprint.Proofs.Feature.Relocation
import Flowprint.Proofs.Graph.Alike
import Flowprint.Proofs.Graph.Relocation
import Flowprint.Proofs.Document.Reordering
import Flowprint.Proofs.File.Path
import Flowprint.Proofs.Text.Lowercase
import Flowprint.Proofs.File.Tree
import Flowprint.Proofs.Feature.Export
import Flowprint.Proofs.Report.Export
import Flowprint.Proofs.Command.Reports
import Flowprint.Proofs.Command.Retention
import Flowprint.Proofs.Graph.Isometry
import Flowprint.Proofs.Graph.Locality
import Flowprint.Proofs.File.Access
import Flowprint.Proofs.Command.Alone
import Flowprint.Proofs.Command.Partition
import Flowprint.Proofs.Document.Concatenation
import Flowprint.Proofs.Json.Shape
import Flowprint.Proofs.Document.Restyling
import Flowprint.Proofs.Document.Ledger
import Flowprint.Proofs.Text.Hexadecimal
import Flowprint.Proofs.Text.Separated
import Flowprint.Proofs.Rendering.Listing
import Flowprint.Proofs.Rendering.Dot
import Flowprint.Proofs.Feature.Ngram
import Flowprint.Proofs.Flowgraph.Blocks
import Flowprint.Proofs.Flowgraph.Boundary
import Flowprint.Proofs.Feature.Reread
import Flowprint.Proofs.Feature.Summary
import Flowprint.Proofs.Graph.Termination
import Flowprint.Proofs.Feature.Labels
import Flowprint.Proofs.Text.Quoted
import Flowprint.Proofs.File.Naming
import Flowprint.Proofs.File.Visits
import Flowprint.Proofs.File.Search
