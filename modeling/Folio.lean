import Folio.Asset.Basic
import Folio.Asset.Client
import Folio.Asset.Map
import Folio.Asset.Resolve
import Folio.Asset.Target
import Folio.Asset.Viewport
import Folio.Command.Arguments
import Folio.Command.Run
import Folio.Config.Basic
import Folio.Config.Format
import Folio.Config.Options
import Folio.Config.Storage
import Folio.Document.Basic
import Folio.Document.Frame
import Folio.Document.Node
import Folio.Draft.Basic
import Folio.Draft.Cell
import Folio.Draft.Emit
import Folio.Edit.Request
import Folio.Edit.Style
import Folio.Edit.Wire
import Folio.Export.Process
import Folio.Export.Report
import Folio.Export.Run
import Folio.Export.Services
import Folio.Export.State
import Folio.File.Access
import Folio.File.Path
import Folio.File.Tree
import Folio.Hash.Blake3
import Folio.Http.Exchange
import Folio.Json.Basic
import Folio.Json.Decode
import Folio.Json.Literal
import Folio.Json.Read
import Folio.Json.Write
import Folio.Main
import Folio.Markdown.Block
import Folio.Markdown.Emphasis
import Folio.Markdown.Entity
import Folio.Markdown.EntityNames
import Folio.Markdown.Event
import Folio.Markdown.Html
import Folio.Markdown.InlineReader
import Folio.Markdown.Leaf
import Folio.Markdown.Line
import Folio.Markdown.Link
import Folio.Markdown.Marker
import Folio.Markdown.Nesting
import Folio.Markdown.Outline
import Folio.Markdown.Reader
import Folio.Markdown.Table
import Folio.Number.Binary
import Folio.Number.Shortest
import Folio.Proofs.Draft.Meaning
import Folio.Proofs.Draft.Position
import Folio.Proofs.Draft.Rendering
import Folio.Proofs.Export.Accounting
import Folio.Proofs.Export.Shape
import Folio.Proofs.Export.Trace
import Folio.Proofs.Remote.Content
import Folio.Proofs.Remote.Grid
import Folio.Proofs.Remote.Reading
import Folio.Proofs.Remote.Replacement
import Folio.Proofs.Remote.Rewrite
import Folio.Proofs.Table.Apart
import Folio.Proofs.Table.Complete
import Folio.Proofs.Table.Filling
import Folio.Proofs.Table.Found
import Folio.Proofs.Table.Marking
import Folio.Proofs.Table.Outline
import Folio.Proofs.Table.Pairing
import Folio.Proofs.Table.Populating
import Folio.Proofs.Table.Replacing
import Folio.Proofs.Table.Retry
import Folio.Proofs.Table.Selection
import Folio.Proofs.Table.Sites
import Folio.Proofs.Table.Skeletons
import Folio.Service.Client
import Folio.Service.Error
import Folio.Snapshot.Basic
import Folio.Snapshot.Decode
import Folio.Table.Error
import Folio.Table.Marker
import Folio.Table.Materialize
import Folio.Table.Placement
import Folio.Table.Plan
import Folio.Table.Population
import Folio.Text.Blank
import Folio.Text.Canonical
import Folio.Text.CaseFold
import Folio.Text.Decimal
import Folio.Text.Direction
import Folio.Text.Hex
import Folio.Text.Joining
import Folio.Text.Mark
import Folio.Text.Normal
import Folio.Text.Punctuation
import Folio.Text.Row
import Folio.Text.Slice
import Folio.Text.Split
import Folio.Text.Utf16
import Folio.Text.Utf8
import Folio.Toml.Basic
import Folio.Toml.Read
import Folio.Toml.Scalar
import Folio.Toml.Write
import Folio.Web.Domain
import Folio.Web.DomainMapping
import Folio.Web.Host
import Folio.Web.Percent
import Folio.Web.Punycode
import Folio.Web.Url
import Folio.Proofs.Asset.Holding
import Folio.Proofs.Asset.Attempts
import Folio.Proofs.Asset.Sharing
import Folio.Proofs.Draft.Pictures
import Folio.Proofs.Export.Strictness
import Folio.Proofs.Draft.Diagrams
import Folio.Proofs.Draft.ItemTurns
import Folio.Proofs.Draft.Lines
import Folio.Proofs.Document.Outlined
import Folio.Proofs.Table.CellFate
import Folio.Proofs.Table.Sighting
import Folio.Proofs.Table.Classified
import Folio.Proofs.Table.Placing
import Folio.Proofs.Table.Seats
import Folio.Proofs.Table.Ordering
import Folio.Proofs.Export.Trouble
import Folio.Proofs.Draft.Simplified
import Folio.Proofs.Draft.Issues
import Folio.Proofs.Table.Occurrences
import Folio.Proofs.Table.Refilling
import Folio.Proofs.Document.Leaving
import Folio.Proofs.Document.Literal
import Folio.Proofs.Document.Runs
import Folio.Proofs.Document.Prose
import Folio.Proofs.Draft.Paragraphs
import Folio.Proofs.Document.Tabled
import Folio.Proofs.Document.TableSource
import Folio.Proofs.Document.NormalForm
import Folio.Proofs.Export.Advice
import Folio.Proofs.Json.Literals
import Folio.Proofs.Json.Reading
import Folio.Proofs.Json.Members
import Folio.Proofs.Edit.RoundTrip
import Folio.Proofs.Text.Lines
import Folio.Proofs.Text.Utf8
import Folio.Proofs.Toml.Strings
import Folio.Proofs.Toml.Values
import Folio.Proofs.Toml.Sheets
import Folio.Proofs.Config.Pruned
import Folio.Proofs.Config.Saving
import Folio.Proofs.Document.Positions
import Folio.Proofs.Snapshot.Records
import Folio.Proofs.Snapshot.Amended
