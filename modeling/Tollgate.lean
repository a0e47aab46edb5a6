import Tollgate.Chain.Address
import Tollgate.Chain.Keccak
import Tollgate.Chain.Network
import Tollgate.Codec.Ascii
import Tollgate.Codec.Base64
import Tollgate.Codec.Utf8
import Tollgate.Codec.Wide
import Tollgate.Facilitator.Client
import Tollgate.Failure
import Tollgate.Gate.Basic
import Tollgate.Gate.Gates
import Tollgate.Gate.Session
import Tollgate.Http.Enforcement
import Tollgate.Http.Platform
import Tollgate.Http.Request
import Tollgate.Http.Response
import Tollgate.Http.Router
import Tollgate.Json.Encoded
import Tollgate.Json.Equality
import Tollgate.Json.Reader
import Tollgate.Json.Shown
import Tollgate.Json.Value
import Tollgate.Json.Writer
import Tollgate.Number.Binary64
import Tollgate.Number.Decimal
import Tollgate.Number.FloatText
import Tollgate.Number.Integer
import Tollgate.Number.Rounding
import Tollgate.Payment.Conversion
import Tollgate.Payment.Header
import Tollgate.Payment.Payload
import Tollgate.Payment.Price
import Tollgate.Payment.Refusal
import Tollgate.Payment.Reply
import Tollgate.Payment.Requirement
import Tollgate.Payment.Settlement
import Tollgate.Payment.Token
import Tollgate.Proofs.Acquiring
import Tollgate.Proofs.Addresses
import Tollgate.Proofs.Advertised
import Tollgate.Proofs.Answer
import Tollgate.Proofs.Asking
import Tollgate.Proofs.Authority
import Tollgate.Proofs.CatchAll
import Tollgate.Proofs.Conversion
import Tollgate.Proofs.Course
import Tollgate.Proofs.Decimals
import Tollgate.Proofs.Depth
import Tollgate.Proofs.Ending
import Tollgate.Proofs.Entry
import Tollgate.Proofs.Glob
import Tollgate.Proofs.Header
import Tollgate.Proofs.Keys
import Tollgate.Proofs.Legible
import Tollgate.Proofs.LetterCase
import Tollgate.Proofs.Literal
import Tollgate.Proofs.Lookup
import Tollgate.Proofs.Lossless
import Tollgate.Proofs.Money
import Tollgate.Proofs.Numeral
import Tollgate.Proofs.Order
import Tollgate.Proofs.Path
import Tollgate.Proofs.Plain
import Tollgate.Proofs.Problems
import Tollgate.Proofs.Protection
import Tollgate.Proofs.Quotation
import Tollgate.Proofs.Reading
import Tollgate.Proofs.Refusal
import Tollgate.Proofs.Rows
import Tollgate.Proofs.Setup
import Tollgate.Proofs.Shortest
import Tollgate.Proofs.Spelled
import Tollgate.Proofs.Spellings
import Tollgate.Proofs.Split
import Tollgate.Proofs.Template
import Tollgate.Proofs.Terms
import Tollgate.Proofs.Traffic
import Tollgate.Proofs.Transport
import Tollgate.Proofs.Worth
import Tollgate.Proofs.Writable
import Tollgate.Route.Config
import Tollgate.Route.Glob
import Tollgate.Route.Table
import Tollgate.Route.Terms
import Tollgate.Schema.Fault
import Tollgate.Schema.Validated
import Tollgate.Service.Basic
import Tollgate.Service.Settings
import Tollgate.Text.Blank
import Tollgate.Text.Case
import Tollgate.Text.CaseTable
import Tollgate.Text.Digit
import Tollgate.Text.Direction
import Tollgate.Text.DirectionTable
import Tollgate.Text.Hex
import Tollgate.Text.Loose
import Tollgate.Text.LowerTable
import Tollgate.Text.Normal
import Tollgate.Text.NormalTable
import Tollgate.Text.Printable
import Tollgate.Text.Quoted
import Tollgate.Text.Ranges
import Tollgate.Text.Script
import Tollgate.Text.Split
import Tollgate.Url.Basic
import Tollgate.Url.BidiRule
import Tollgate.Url.Host
import Tollgate.Url.Label
import Tollgate.Url.LabelTable
import Tollgate.Url.Mapping
import Tollgate.Url.MappingTable
import Tollgate.Url.Percent
import Tollgate.Url.Punycode
import Tollgate.Url.Split
import Tollgate.Url.Target
