import RuleGateway.Backend.Delivery
import RuleGateway.Backend.Exchange
import RuleGateway.Backend.Network
import RuleGateway.Backend.Request
import RuleGateway.Canonical
import RuleGateway.Clock
import RuleGateway.Duration
import RuleGateway.Failure
import RuleGateway.Gateway
import RuleGateway.Http.Cookie
import RuleGateway.Http.Headers
import RuleGateway.Http.Location
import RuleGateway.Http.Message
import RuleGateway.Http.Security
import RuleGateway.Json.Reader
import RuleGateway.Json.Token
import RuleGateway.Json.Value
import RuleGateway.Metric
import RuleGateway.Net.Ip
import RuleGateway.Net.SocketAddress
import RuleGateway.Number.Binary64
import RuleGateway.Number.Decimal
import RuleGateway.Number.Shortest
import RuleGateway.Page.Crawling
import RuleGateway.Page.Icon
import RuleGateway.Page.Links
import RuleGateway.Page.NotFound
import RuleGateway.Path
import RuleGateway.Pattern.Basic
import RuleGateway.Pattern.Filling
import RuleGateway.Pattern.Scan
import RuleGateway.Pattern.Template
import RuleGateway.Percent
import RuleGateway.Proofs.Backend.Body
import RuleGateway.Proofs.Backend.Chain
import RuleGateway.Proofs.Backend.Cookies
import RuleGateway.Proofs.Backend.Deadline
import RuleGateway.Proofs.Backend.Delivery
import RuleGateway.Proofs.Backend.Fields
import RuleGateway.Proofs.Backend.Redirection
import RuleGateway.Proofs.Backend.Replies
import RuleGateway.Proofs.Backend.Shielding
import RuleGateway.Proofs.Backend.Transcript
import RuleGateway.Proofs.Canonical
import RuleGateway.Proofs.Duration
import RuleGateway.Proofs.Duration.Rendering
import RuleGateway.Proofs.Gateway.Accounting
import RuleGateway.Proofs.Gateway.Carrying
import RuleGateway.Proofs.Gateway.Course
import RuleGateway.Proofs.Gateway.Crashes
import RuleGateway.Proofs.Gateway.Deadline
import RuleGateway.Proofs.Gateway.Directory
import RuleGateway.Proofs.Gateway.Policy
import RuleGateway.Proofs.Gateway.Reach
import RuleGateway.Proofs.Gateway.Redirection
import RuleGateway.Proofs.Http.Cookie
import RuleGateway.Proofs.Http.Linking
import RuleGateway.Proofs.Http.Localization
import RuleGateway.Proofs.Http.Location
import RuleGateway.Proofs.Http.Mounting
import RuleGateway.Proofs.Http.Remounting
import RuleGateway.Proofs.Http.Resolving
import RuleGateway.Proofs.Net.Ip
import RuleGateway.Proofs.Number.Order
import RuleGateway.Proofs.Number.Whole
import RuleGateway.Proofs.Page.Crawling
import RuleGateway.Proofs.Page.Insertion
import RuleGateway.Proofs.Page.Links
import RuleGateway.Proofs.Page.Search
import RuleGateway.Proofs.Path
import RuleGateway.Proofs.Path.Names
import RuleGateway.Proofs.Pattern.Assignment
import RuleGateway.Proofs.Pattern.Expression
import RuleGateway.Proofs.Pattern.Filling
import RuleGateway.Proofs.Pattern.Naming
import RuleGateway.Proofs.Pattern.SelfTarget
import RuleGateway.Proofs.Pattern.Splitting
import RuleGateway.Proofs.Pattern.Template
import RuleGateway.Proofs.Percent
import RuleGateway.Proofs.Percent.Encodings
import RuleGateway.Proofs.Percent.Runs
import RuleGateway.Proofs.Percent.Slash
import RuleGateway.Proofs.Router.Asset
import RuleGateway.Proofs.Router.Literal
import RuleGateway.Proofs.Router.Locality
import RuleGateway.Proofs.Router.Mount
import RuleGateway.Proofs.Router.MountBase
import RuleGateway.Proofs.Router.Nesting
import RuleGateway.Proofs.Router.Numbering
import RuleGateway.Proofs.Router.Origin
import RuleGateway.Proofs.Router.PageMount
import RuleGateway.Proofs.Router.Query
import RuleGateway.Proofs.Router.Ranking
import RuleGateway.Proofs.Router.Rearrangement
import RuleGateway.Proofs.Router.Requested
import RuleGateway.Proofs.Rule.Bounds
import RuleGateway.Proofs.Rule.Flattening
import RuleGateway.Proofs.Rule.Index
import RuleGateway.Proofs.Rule.Nulls
import RuleGateway.Proofs.Settings.Bindings
import RuleGateway.Proofs.Store.Ageing
import RuleGateway.Proofs.Store.Effects
import RuleGateway.Proofs.Store.Expiry
import RuleGateway.Proofs.Store.Interleaving
import RuleGateway.Proofs.Store.Load
import RuleGateway.Proofs.Store.Local
import RuleGateway.Proofs.Store.Overtaking
import RuleGateway.Proofs.Store.Retention
import RuleGateway.Proofs.Store.Transcript
import RuleGateway.Proofs.Table
import RuleGateway.Proofs.Text.Ascii
import RuleGateway.Proofs.Text.Digits
import RuleGateway.Proofs.Text.Lower
import RuleGateway.Proofs.Text.Property
import RuleGateway.Proofs.Text.Runs
import RuleGateway.Proofs.Text.Utf8
import RuleGateway.Proofs.Text.WellFormed
import RuleGateway.Proofs.Url.Address
import RuleGateway.Proofs.Url.Authority
import RuleGateway.Proofs.Url.AuthorityText
import RuleGateway.Proofs.Url.Blanks
import RuleGateway.Proofs.Url.Carrying
import RuleGateway.Proofs.Url.Containment
import RuleGateway.Proofs.Url.Directory
import RuleGateway.Proofs.Url.Domain
import RuleGateway.Proofs.Url.Domain.Composition
import RuleGateway.Proofs.Url.Domain.Mapping
import RuleGateway.Proofs.Url.Domain.Punycode
import RuleGateway.Proofs.Url.Domain.Restating
import RuleGateway.Proofs.Url.Escaping
import RuleGateway.Proofs.Url.Host
import RuleGateway.Proofs.Url.Printable
import RuleGateway.Proofs.Url.Reading
import RuleGateway.Proofs.Url.Rereading
import RuleGateway.Proofs.Url.Segments
import RuleGateway.Proofs.Url.Web
import RuleGateway.Router.Asset
import RuleGateway.Router.Basic
import RuleGateway.Router.Matcher
import RuleGateway.Rule.Basic
import RuleGateway.Rule.Index
import RuleGateway.Rule.Slots
import RuleGateway.Script
import RuleGateway.Settings.Basic
import RuleGateway.Settings.Bindings
import RuleGateway.Settings.Format
import RuleGateway.Settings.Json
import RuleGateway.Settings.Validation
import RuleGateway.Settings.Yaml
import RuleGateway.Store.Load
import RuleGateway.Store.Local
import RuleGateway.Store.Memory
import RuleGateway.Store.Platform
import RuleGateway.Table
import RuleGateway.Text.Basic
import RuleGateway.Text.Blank
import RuleGateway.Text.Property
import RuleGateway.Text.Quoted
import RuleGateway.Text.Utf8
import RuleGateway.Url.Basic
import RuleGateway.Url.Domain.Basic
import RuleGateway.Url.Domain.Composition
import RuleGateway.Url.Domain.Direction
import RuleGateway.Url.Domain.Label
import RuleGateway.Url.Domain.Mapping
import RuleGateway.Url.Domain.Punycode
import RuleGateway.Url.Parser
import RuleGateway.Yaml.Cursor
import RuleGateway.Yaml.Node
import RuleGateway.Yaml.Reader
import RuleGateway.Yaml.Scalar
import RuleGateway.Yaml.Token
