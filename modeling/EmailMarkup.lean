import EmailMarkup.Cli.Arguments
import EmailMarkup.Cli.Command
import EmailMarkup.Cli.Run
import EmailMarkup.Component.Basic
import EmailMarkup.Component.Field
import EmailMarkup.Component.Form
import EmailMarkup.Component.Markup
import EmailMarkup.Component.OfElement
import EmailMarkup.Editor
import EmailMarkup.Export.Format
import EmailMarkup.Export.Html
import EmailMarkup.Export.React
import EmailMarkup.Export.Slot
import EmailMarkup.Files.Access
import EmailMarkup.Files.Collect
import EmailMarkup.Files.Content
import EmailMarkup.Files.Markup
import EmailMarkup.Files.Path
import EmailMarkup.Files.Tree
import EmailMarkup.Gate
import EmailMarkup.Http.Api
import EmailMarkup.Http.Body
import EmailMarkup.Http.Path
import EmailMarkup.Http.Server
import EmailMarkup.Journal
import EmailMarkup.Json.Basic
import EmailMarkup.Json.Display
import EmailMarkup.Json.Reader
import EmailMarkup.Json.Same
import EmailMarkup.Json.Writer
import EmailMarkup.Lint
import EmailMarkup.Main
import EmailMarkup.Markup.Attribute
import EmailMarkup.Markup.Element
import EmailMarkup.Markup.Head
import EmailMarkup.Markup.Place
import EmailMarkup.Markup.Sweep
import EmailMarkup.Number.Binary64
import EmailMarkup.Number.Numeral
import EmailMarkup.Number.Shortest
import EmailMarkup.Proofs.Arrival
import EmailMarkup.Proofs.Attribute
import EmailMarkup.Proofs.Block
import EmailMarkup.Proofs.Boundary
import EmailMarkup.Proofs.Bracket
import EmailMarkup.Proofs.Canonical
import EmailMarkup.Proofs.Carried
import EmailMarkup.Proofs.Casing
import EmailMarkup.Proofs.Collect
import EmailMarkup.Proofs.Commuting
import EmailMarkup.Proofs.Content
import EmailMarkup.Proofs.Depth
import EmailMarkup.Proofs.Document
import EmailMarkup.Proofs.Editing
import EmailMarkup.Proofs.Endpoint
import EmailMarkup.Proofs.Export
import EmailMarkup.Proofs.Form
import EmailMarkup.Proofs.Gate
import EmailMarkup.Proofs.Handle
import EmailMarkup.Proofs.Head
import EmailMarkup.Proofs.Identity
import EmailMarkup.Proofs.Inverse
import EmailMarkup.Proofs.Judgement
import EmailMarkup.Proofs.Layout
import EmailMarkup.Proofs.Lexeme
import EmailMarkup.Proofs.Line
import EmailMarkup.Proofs.Lint
import EmailMarkup.Proofs.Literal
import EmailMarkup.Proofs.Location
import EmailMarkup.Proofs.Nesting
import EmailMarkup.Proofs.Operand
import EmailMarkup.Proofs.Pairs
import EmailMarkup.Proofs.Placed
import EmailMarkup.Proofs.Priority
import EmailMarkup.Proofs.Reader
import EmailMarkup.Proofs.Reopened
import EmailMarkup.Proofs.Replay
import EmailMarkup.Proofs.Rescan
import EmailMarkup.Proofs.RoundTrip
import EmailMarkup.Proofs.Route
import EmailMarkup.Proofs.Selection
import EmailMarkup.Proofs.Settling
import EmailMarkup.Proofs.Status
import EmailMarkup.Proofs.Step
import EmailMarkup.Proofs.Stored
import EmailMarkup.Proofs.Text
import EmailMarkup.Proofs.Token
import EmailMarkup.Proofs.Torn
import EmailMarkup.Proofs.Transfer
import EmailMarkup.Proofs.Value
import EmailMarkup.Proofs.Verdict
import EmailMarkup.Proofs.WellFormed
import EmailMarkup.Proofs.Word
import EmailMarkup.Proofs.Yield
import EmailMarkup.Query
import EmailMarkup.Report
import EmailMarkup.Settings
import EmailMarkup.Starter
import EmailMarkup.Stream.Lines
import EmailMarkup.Stream.Replay
import EmailMarkup.Stream.Session
import EmailMarkup.Text.Alphanumeric
import EmailMarkup.Text.Blank
import EmailMarkup.Text.Case
import EmailMarkup.Text.CaseTable
import EmailMarkup.Text.CharSet
import EmailMarkup.Text.Digit
import EmailMarkup.Text.DigitTable
import EmailMarkup.Text.Half
import EmailMarkup.Text.Lines
import EmailMarkup.Text.Printable
import EmailMarkup.Text.Quoted
import EmailMarkup.Text.Search
import EmailMarkup.Text.Utf8
import EmailMarkup.Text.Word
