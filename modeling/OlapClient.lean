import OlapClient.Cube.CellSet
import OlapClient.Http.Endpoint
import OlapClient.Proofs.Markup.Name
import OlapClient.Proofs.Markup.Reference
import OlapClient.Proofs.Text.Coding
import OlapClient.Protocol.Envelope
import OlapClient.Protocol.Request
import OlapClient.Session.Family
import OlapClient.Settings
import OlapClient.Table.RowSet
import OlapClient.Value.Field
import OlapClient.Proofs.Markup.Tag
import OlapClient.Proofs.Markup.Reading
import OlapClient.Proofs.Markup.Plain
import OlapClient.Proofs.Markup.Branch
import OlapClient.Proofs.Protocol.Request
import OlapClient.Proofs.Protocol.Contents
import OlapClient.Proofs.Http.Action
import OlapClient.Proofs.Number.Checked
import OlapClient.Proofs.Number.Decimal
import OlapClient.Proofs.Calendar.Moment
import OlapClient.Proofs.Value.Text
import OlapClient.Proofs.Table.Collecting
import OlapClient.Proofs.Table.Grid
import OlapClient.Proofs.Table.Fidelity
import OlapClient.Proofs.Transport.Owners
import OlapClient.Proofs.Markup.Building
import OlapClient.Proofs.Markup.Pretty
import OlapClient.Proofs.Protocol.Envelope
import OlapClient.Proofs.Cube.Collecting
import OlapClient.Proofs.Cube.Coordinates
import OlapClient.Proofs.Cube.Counting
import OlapClient.Proofs.Table.Range
import OlapClient.Proofs.Table.Walk
import OlapClient.Proofs.Handling.Callbacks
import OlapClient.Proofs.Session.Asking
import OlapClient.Proofs.Session.Delivery
import OlapClient.Proofs.Session.Query
import OlapClient.Proofs.Session.Recording
import OlapClient.Proofs.Session.Requests
import OlapClient.Proofs.Session.Ownership
import OlapClient.Proofs.Handling.Plan
import OlapClient.Proofs.Table.Delivery
import OlapClient.Proofs.Cube.Delivery
import OlapClient.Proofs.Session.Modes
import OlapClient.Proofs.Table.Reaching
import OlapClient.Proofs.Table.Interleaving
import OlapClient.Proofs.Table.Visiting
import OlapClient.Proofs.Table.Readings
import OlapClient.Proofs.Number.Grammar
import OlapClient.Proofs.Value.Integer
import OlapClient.Proofs.Cube.Axes
import OlapClient.Proofs.Cube.Cells
import OlapClient.Proofs.Value.Decimal
import OlapClient.Proofs.Value.Amount
import OlapClient.Proofs.Value.Fixed
import OlapClient.Proofs.Value.Double
import OlapClient.Proofs.Value.Moment
import OlapClient.Proofs.Table.FirstRow
import OlapClient.Proofs.Table.Rereading
import OlapClient.Proofs.Table.Values
import OlapClient.Proofs.Table.Declarations
import OlapClient.Proofs.Table.Strangers
import OlapClient.Proofs.Table.Labels
import OlapClient.Proofs.Session.FirstValues
import OlapClient.Proofs.Table.Isolation
import OlapClient.Proofs.Value.Absence
import OlapClient.Proofs.Markup.Decoding
import OlapClient.Proofs.Markup.Searching
import OlapClient.Proofs.Url.Percent
import OlapClient.Proofs.Url.Path
import OlapClient.Proofs.Url.Address
import OlapClient.Proofs.Url.Reading
import OlapClient.Proofs.Url.Punycode
import OlapClient.Proofs.Url.Domain.Tables
import OlapClient.Proofs.Url.Domain.Composition
import OlapClient.Proofs.Url.Domain.Mapping
import OlapClient.Proofs.Url.Domain.Label
import OlapClient.Proofs.Url.Host
import OlapClient.Proofs.Settings
import OlapClient.Proofs.Url.Userinfo
import OlapClient.Proofs.Http.Base64
import OlapClient.Proofs.Http.Credentials
