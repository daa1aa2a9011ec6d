import Letterpress.Compile
import Letterpress.Css.Length
import Letterpress.Decimal.Binary64
import Letterpress.Decimal.Layout
import Letterpress.Decimal.Nearest
import Letterpress.Decimal.Power
import Letterpress.Decimal.Reader
import Letterpress.Decimal.Shortest
import Letterpress.Html.Band
import Letterpress.Html.Box
import Letterpress.Html.Collapse
import Letterpress.Html.Component
import Letterpress.Html.Escape
import Letterpress.Html.Fragment
import Letterpress.Html.Page
import Letterpress.Html.Renderer
import Letterpress.Html.Style
import Letterpress.Html.Writer
import Letterpress.Ini.Reader
import Letterpress.Json.Basic
import Letterpress.Json.Draft
import Letterpress.Json.Fault
import Letterpress.Json.Misfit
import Letterpress.Json.Numeral
import Letterpress.Json.Reader
import Letterpress.Json.Record
import Letterpress.Json.Spelling
import Letterpress.Json.Value
import Letterpress.Json.Writer
import Letterpress.Json5.Quotation
import Letterpress.Json5.Reader
import Letterpress.Keyed
import Letterpress.Ledger
import Letterpress.Mail.Confirmation
import Letterpress.Mail.Mailer
import Letterpress.Mail.Transport
import Letterpress.Markup.Assembly
import Letterpress.Markup.Attribute
import Letterpress.Markup.Element
import Letterpress.Markup.Layers
import Letterpress.Markup.Misprint
import Letterpress.Markup.Tag
import Letterpress.Markup.Token
import Letterpress.Placeholder.Cut
import Letterpress.Placeholder.Fill
import Letterpress.Placeholder.Grammar
import Letterpress.Placeholder.Helper
import Letterpress.Placeholder.Scope
import Letterpress.Placeholder.Syntax
import Letterpress.Placeholder.Template
import Letterpress.Placeholder.Trim
import Letterpress.Placeholder.Value
import Letterpress.Press.Basic
import Letterpress.Press.Plate
import Letterpress.Proofs.Attributes
import Letterpress.Proofs.Backends
import Letterpress.Proofs.Basic
import Letterpress.Proofs.Blanks
import Letterpress.Proofs.BodySize
import Letterpress.Proofs.Collapsed
import Letterpress.Proofs.Columns
import Letterpress.Proofs.Confinement
import Letterpress.Proofs.Context
import Letterpress.Proofs.Css.Length
import Letterpress.Proofs.Decimal.Amount
import Letterpress.Proofs.Decimal.Digits
import Letterpress.Proofs.Decimal.Rounding
import Letterpress.Proofs.Dialect
import Letterpress.Proofs.Expressions
import Letterpress.Proofs.Filling
import Letterpress.Proofs.Html.Bare
import Letterpress.Proofs.Html.Blocks
import Letterpress.Proofs.Html.Braces
import Letterpress.Proofs.Html.Brackets
import Letterpress.Proofs.Html.Collapsing
import Letterpress.Proofs.Html.Contents
import Letterpress.Proofs.Html.Fragment
import Letterpress.Proofs.Html.Lookalike
import Letterpress.Proofs.Html.Neighbours
import Letterpress.Proofs.Html.Preformatted
import Letterpress.Proofs.Html.Quoting
import Letterpress.Proofs.Html.Scaffold.Band
import Letterpress.Proofs.Html.Scaffold.Basic
import Letterpress.Proofs.Html.Scaffold.Brackets
import Letterpress.Proofs.Html.Scaffold.Component
import Letterpress.Proofs.Html.Scaffold.Page
import Letterpress.Proofs.Html.Scaffold.Steady
import Letterpress.Proofs.Html.Siblings
import Letterpress.Proofs.Html.Smooth
import Letterpress.Proofs.Html.Stretches
import Letterpress.Proofs.Html.Tags
import Letterpress.Proofs.Html.Weaving
import Letterpress.Proofs.Html.Writer
import Letterpress.Proofs.Json.Drafting
import Letterpress.Proofs.Json.Reading
import Letterpress.Proofs.Json.Records
import Letterpress.Proofs.Json.Scaling
import Letterpress.Proofs.Json.Scanning
import Letterpress.Proofs.Json.Values
import Letterpress.Proofs.Keyed
import Letterpress.Proofs.Layering
import Letterpress.Proofs.Ledger
import Letterpress.Proofs.Mail.Redaction
import Letterpress.Proofs.Mail.Sending
import Letterpress.Proofs.Markup.Assembling
import Letterpress.Proofs.Markup.Cutting
import Letterpress.Proofs.Markup.Dialect
import Letterpress.Proofs.Markup.Placing
import Letterpress.Proofs.Markup.Refusing
import Letterpress.Proofs.Markup.Rereading
import Letterpress.Proofs.Markup.Scanning
import Letterpress.Proofs.Markup.Spelling
import Letterpress.Proofs.Markup.Standing
import Letterpress.Proofs.Markup.Twins
import Letterpress.Proofs.Markup.Values
import Letterpress.Proofs.Outbox
import Letterpress.Proofs.Placeholder.Conditional
import Letterpress.Proofs.Placeholder.Forms
import Letterpress.Proofs.Placeholder.Nesting
import Letterpress.Proofs.Placeholder.Plain
import Letterpress.Proofs.Placeholder.Slots
import Letterpress.Proofs.Plain
import Letterpress.Proofs.Press.Keeping
import Letterpress.Proofs.Preview
import Letterpress.Proofs.Secrecy
import Letterpress.Proofs.Server.Headers
import Letterpress.Proofs.Server.Ledger
import Letterpress.Proofs.Server.Outbox
import Letterpress.Proofs.Session.Ledger
import Letterpress.Proofs.Session.Steps
import Letterpress.Proofs.Setting.Overlay
import Letterpress.Proofs.Settings.Keys
import Letterpress.Proofs.Settings.Spelling
import Letterpress.Proofs.Size
import Letterpress.Proofs.Stockroom.Basic
import Letterpress.Proofs.Stockroom.Kept
import Letterpress.Proofs.Stockroom.Sweeping
import Letterpress.Proofs.Store.Catalog
import Letterpress.Proofs.Store.Path
import Letterpress.Proofs.Store.Shelf
import Letterpress.Proofs.Store.Volume
import Letterpress.Proofs.Supplying
import Letterpress.Proofs.Template.Check
import Letterpress.Proofs.Template.Sound
import Letterpress.Proofs.Text.Places
import Letterpress.Proofs.Text.Searching
import Letterpress.Proofs.TopLevel
import Letterpress.Proofs.Transparency
import Letterpress.Proofs.Widths
import Letterpress.Proofs.WireForms
import Letterpress.Proofs.Workshop.Alone
import Letterpress.Proofs.Workshop.Basic
import Letterpress.Proofs.Workshop.Jobs
import Letterpress.Proofs.Workshop.Kept
import Letterpress.Request.Basic
import Letterpress.Request.Context
import Letterpress.Request.Form
import Letterpress.Ron.Quotation
import Letterpress.Ron.Reader
import Letterpress.Server.App
import Letterpress.Server.Compose
import Letterpress.Server.Exchange
import Letterpress.Server.MediaType
import Letterpress.Server.Origin
import Letterpress.Server.Problem
import Letterpress.Server.Route
import Letterpress.Session
import Letterpress.Setting.Basic
import Letterpress.Setting.Merge
import Letterpress.Setting.Reading
import Letterpress.Settings.Basic
import Letterpress.Settings.Environment
import Letterpress.Settings.EnvironmentFile
import Letterpress.Settings.Load
import Letterpress.Store.Basic
import Letterpress.Store.Disk
import Letterpress.Template.Basic
import Letterpress.Template.Check
import Letterpress.Template.Form
import Letterpress.Template.Supplies
import Letterpress.Text.Alphanumeric
import Letterpress.Text.Blank
import Letterpress.Text.CaseTable
import Letterpress.Text.HexDigit
import Letterpress.Text.LetterCase
import Letterpress.Text.Position
import Letterpress.Text.Quoted
import Letterpress.Text.Search
import Letterpress.Text.Unprintable
import Letterpress.Toml.Basic
import Letterpress.Toml.Date
import Letterpress.Toml.Numeral
import Letterpress.Toml.Quotation
import Letterpress.Toml.Reader
import Letterpress.Yaml.Basic
import Letterpress.Yaml.Cursor
import Letterpress.Yaml.Passage
import Letterpress.Yaml.Reader
import Letterpress.Yaml.Token
