import DocBrowser.Dictionary
import DocBrowser.Text.Utf8
import DocBrowser.Number.Binary64
import DocBrowser.Json.Basic
import DocBrowser.Json.Written
import DocBrowser.Json.Token
import DocBrowser.Text.Blank
import DocBrowser.Text.CaseTable
import DocBrowser.Text.EscapedTable
import DocBrowser.Text.LetterCase
import DocBrowser.Text.Quoted
import DocBrowser.Json.Fault
import DocBrowser.Json.Reader
import DocBrowser.Gzip.Checksum
import DocBrowser.Gzip.Code
import DocBrowser.Gzip.Inflate
import DocBrowser.Gzip.Member
import DocBrowser.Index.Basic
import DocBrowser.Index.Document
import DocBrowser.Index.Search
import DocBrowser.Regex.Basic
import DocBrowser.Regex.Reader
import DocBrowser.Route.Expression
import DocBrowser.Route.Pattern
import DocBrowser.Route.Table
import DocBrowser.Loader
import DocBrowser.Navigation
import DocBrowser.Loader.Desk
import DocBrowser.Page.Styled
import DocBrowser.Page.Render
import DocBrowser.Toml.Basic
import DocBrowser.Toml.Document
import DocBrowser.Files.Basic
import DocBrowser.Files.Tree
import DocBrowser.Settings
import DocBrowser.CommandLine.Words
import DocBrowser.Fetch
import DocBrowser.Session.Basic
import DocBrowser.CommandLine.Run
import DocBrowser.Main
import DocBrowser.Proofs.Loader.Course
import DocBrowser.Proofs.Loader.Invariant
import DocBrowser.Proofs.Loader.Run
import DocBrowser.Proofs.Loader.SingleFlight
import DocBrowser.Proofs.Loader.Finality
import DocBrowser.Proofs.Loader.Responses
import DocBrowser.Proofs.Loader.Progress
import DocBrowser.Proofs.Loader.Flight
import DocBrowser.Proofs.Navigation.Chain
import DocBrowser.Proofs.Navigation.Visit
import DocBrowser.Proofs.Session.History
import DocBrowser.Proofs.Navigation.Awaiting
import DocBrowser.Proofs.Navigation.Turns
import DocBrowser.Proofs.Navigation.Confluence
import DocBrowser.Proofs.Navigation.Abandonment
import DocBrowser.Proofs.Route.Percent
import DocBrowser.Proofs.Route.Segments
import DocBrowser.Proofs.Loader.Prospect
import DocBrowser.Proofs.Navigation.Outcome
import DocBrowser.Proofs.Route.Standard
import DocBrowser.Proofs.Navigation.Totality
import DocBrowser.Proofs.Navigation.Shortening
import DocBrowser.Proofs.Dictionary
import DocBrowser.Proofs.Navigation.PrintedLinks
import DocBrowser.Proofs.Index.Names
import DocBrowser.Proofs.Index.Search
import DocBrowser.Proofs.Navigation.Links
import DocBrowser.Proofs.Regex.Language
import DocBrowser.Proofs.Regex.Matching
import DocBrowser.Proofs.Route.Expression
import DocBrowser.Proofs.Route.Patterns
import DocBrowser.Proofs.Route.Registration
import DocBrowser.Proofs.Route.Matching
import DocBrowser.Proofs.Route.Order
import DocBrowser.Proofs.Route.Companions
import DocBrowser.Proofs.Json.Value
import DocBrowser.Proofs.Json.Layout
import DocBrowser.Proofs.Json.Reading
import DocBrowser.Proofs.Json.Results
import DocBrowser.Proofs.Index.RoundTrip
import DocBrowser.Proofs.Json.Printable
import DocBrowser.Proofs.Page.Styling
import DocBrowser.Proofs.Gzip.Bits
import DocBrowser.Proofs.Gzip.Blocks
import DocBrowser.Proofs.Gzip.Member
import DocBrowser.Proofs.Gzip.Truncation
import DocBrowser.Proofs.Index.Compression
import DocBrowser.Proofs.Json.Grammar
import DocBrowser.Proofs.Json.Strings
import DocBrowser.Proofs.Json.Literals
import DocBrowser.Proofs.Json.Brackets
import DocBrowser.Proofs.Json.Acceptance
import DocBrowser.Proofs.Index.Acceptance
import DocBrowser.Proofs.Route.Grammar
import DocBrowser.Proofs.Route.Preservation
import DocBrowser.Proofs.Navigation.Trail
import DocBrowser.Proofs.Navigation.Effects
import DocBrowser.Proofs.Page.Listings
import DocBrowser.Proofs.Route.Decoding
