import CiClient.Bytes.Base64
import CiClient.Bytes.Form
import CiClient.Bytes.Percent
import CiClient.Bytes.Utf8
import CiClient.Client.Basic
import CiClient.Client.Call
import CiClient.Client.Path
import CiClient.Client.Session
import CiClient.Client.Transfer
import CiClient.ClientError
import CiClient.Credential
import CiClient.Crumb.Basic
import CiClient.Crumb.Issued
import CiClient.Failure
import CiClient.Filter
import CiClient.Http.Dialogue
import CiClient.Http.Headers
import CiClient.Http.Message
import CiClient.Http.Status
import CiClient.Json.Basic
import CiClient.Json.Draft
import CiClient.Json.Fault
import CiClient.Json.Numeral
import CiClient.Json.Shape
import CiClient.Members
import CiClient.Number.Double
import CiClient.Record.Build
import CiClient.Record.Catalog
import CiClient.Record.Job
import CiClient.Record.Load
import CiClient.Record.Outcome
import CiClient.Record.Plugin
import CiClient.Record.Queue
import CiClient.Record.Server
import CiClient.Record.User
import CiClient.Response.Content
import CiClient.Response.Identity
import CiClient.Response.Location
import CiClient.Retry
import CiClient.Settings.Basic
import CiClient.Settings.Loading
import CiClient.Settings.Reference
import CiClient.Text.Blank
import CiClient.Text.Decimal
import CiClient.Text.Entity
import CiClient.Text.Hidden
import CiClient.Text.Quoted
import CiClient.Text.Split
import CiClient.Toml.Basic
import CiClient.Toml.Document
import CiClient.Toml.Moment
import CiClient.Toml.Node
import CiClient.Toml.Quote
import CiClient.Toml.Scalar
import CiClient.Unicode.Composition
import CiClient.Unicode.Direction
import CiClient.Unicode.Joining
import CiClient.Unicode.Mark
import CiClient.Unicode.Table
import CiClient.Uri.Domain.Ascii
import CiClient.Uri.Domain.Label
import CiClient.Uri.Domain.Mapping
import CiClient.Uri.Host
import CiClient.Uri.Punycode
import CiClient.Uri.Url
import CiClient.Verdict
import CiClient.Proofs.Base64Canonical
import CiClient.Proofs.LoginCanonical
import CiClient.Proofs.AddressParts
import CiClient.Proofs.ClientAttempts
import CiClient.Proofs.CrumbAdmission
import CiClient.Proofs.CrumbLifecycle
import CiClient.Proofs.DistinctMembers
import CiClient.Proofs.DotSegments
import CiClient.Proofs.JobScope
import CiClient.Proofs.ReadOutcomes
import CiClient.Proofs.RecordReading
import CiClient.Proofs.RecordRoundTrip
import CiClient.Proofs.Respelling
import CiClient.Proofs.ShapeLaws
import CiClient.Proofs.WriteOutcomes
import CiClient.Proofs.WritesSent
import CiClient.Proofs.ResolvedDecision
import CiClient.Proofs.AuthenticationFields
import CiClient.Proofs.SendableFields
import CiClient.Proofs.ReferenceText
import CiClient.Proofs.SettingsSources
import CiClient.Proofs.SetupSources
import CiClient.Proofs.ReferencePieces
import CiClient.Proofs.IssuerAnswers
import CiClient.Proofs.DocumentOrder
import CiClient.Proofs.DocumentExpansion
import CiClient.Proofs.RetrySchedule
import CiClient.Proofs.QueueAddress
import CiClient.Proofs.MessageExcerpt
import CiClient.Proofs.Utf8Lossy
import CiClient.Proofs.FormText
import CiClient.Proofs.AddressQueries
import CiClient.Proofs.CallParameters
import CiClient.Proofs.ArgumentDelivery
import CiClient.Proofs.JobPathReading
import CiClient.Proofs.AttributeText
import CiClient.Proofs.EndpointSettled
import CiClient.Proofs.SessionCookies
