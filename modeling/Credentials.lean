import Credentials.Backend.Basic
import Credentials.Backend.Call
import Credentials.Backend.Rehearsal
import Credentials.Bytes.Base64Url
import Credentials.Bytes.Hex
import Credentials.Bytes.Hmac
import Credentials.Bytes.Sha256
import Credentials.Codec.Basic
import Credentials.Codec.Claims
import Credentials.Codec.Header
import Credentials.Config.Basic
import Credentials.Config.Secret
import Credentials.Json.Basic
import Credentials.Json.Numeral
import Credentials.Json.Parser
import Credentials.Json.Printer
import Credentials.Json.Record
import Credentials.Json.Uptake
import Credentials.Key.Basic
import Credentials.Key.Json
import Credentials.Key.KeyType
import Credentials.Key.Token
import Credentials.Policy.Agent
import Credentials.Policy.Engine
import Credentials.Policy.Gateway
import Credentials.Policy.Relations
import Credentials.Policy.Relationship
import Credentials.Policy.Status
import Credentials.Proofs.Codec.RoundTrip
import Credentials.Proofs.Json.ReadBack
import Credentials.Proofs.Service.Decisions
import Credentials.Proofs.Store.Lookup
import Credentials.Proofs.Store.Tenancy
import Credentials.Service.Basic
import Credentials.Service.Error
import Credentials.Service.Operation
import Credentials.Service.Run
import Credentials.Store.Error
import Credentials.Store.History
import Credentials.Store.KeyRow
import Credentials.Store.KeyStore
import Credentials.Store.Vault
import Credentials.Text.Blank
import Credentials.Text.Compare
import Credentials.Text.Digits
import Credentials.Text.Invisible
import Credentials.Text.Quoted
import Credentials.Text.Utf8
import Credentials.Time.Clock
import Credentials.Time.Date
import Credentials.Time.Duration
import Credentials.Time.Instant
import Credentials.Time.Rfc3339
import Credentials.Time.Timestamp
import Credentials.Proofs.Service.InMemory
import Credentials.Proofs.Service.Issue
import Credentials.Proofs.Service.Reactions
import Credentials.Proofs.Service.Revocation
import Credentials.Proofs.Service.Identify
import Credentials.Proofs.Service.Lifetime
import Credentials.Proofs.Store.History
import Credentials.Proofs.Codec.Soundness
import Credentials.Service.Hand
import Credentials.Service.Tenancy
import Credentials.Proofs.Service.Provenance
import Credentials.Proofs.Service.Upkeep
import Credentials.Proofs.Service.Tenancy
import Credentials.Proofs.Service.Privilege
import Credentials.Proofs.Service.Halting
import Credentials.Backend.Scene
import Credentials.Proofs.Service.Footprint
import Credentials.Proofs.Service.Expiry
import Credentials.Proofs.Service.Stateless
import Credentials.Proofs.Service.Outage
import Credentials.Proofs.Time.Rfc3339
import Credentials.Proofs.Key.Documents
import Credentials.Proofs.Service.Agreement
import Credentials.Proofs.Service.PolicyHistory
import Credentials.Policy.Request
import Credentials.Proofs.Policy.Engine
import Credentials.Proofs.Codec.Precedence
import Credentials.Proofs.Service.Rejection
import Credentials.Proofs.Service.Login
import Credentials.Policy.Run
import Credentials.Proofs.Text.ByteOrder
import Credentials.Proofs.Policy.Listings
import Credentials.Proofs.Policy.Dispatch
import Credentials.Proofs.Service.Judgement
import Credentials.Proofs.Service.Freshness
import Credentials.Proofs.Text.Numerals
import Credentials.Proofs.Config.Variables
import Credentials.Proofs.Service.ErrorClasses
