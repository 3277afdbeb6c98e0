import Acdp.Foundation.AuditPath
import Acdp.Foundation.Transition
import Acdp.Foundation.Keyset
import Acdp.Foundation.Entries
import Acdp.Foundation.Selection
import Acdp.Foundation.Insertion
import Acdp.Foundation.AddressBlock
import Acdp.Foundation.Delimited
import Acdp.Crypto.Merkle
import Acdp.Crypto.MerkleSides
import Acdp.Crypto.MerkleInclusion
import Acdp.Crypto.MerkleConsistency
import Acdp.Crypto.Hash
import Acdp.Types.Text
import Acdp.Types.Json
import Acdp.Types.Primitives
import Acdp.Types.Identifiers
import Acdp.Types.Body
import Acdp.Types.Log
import Acdp.Types.Records
import Acdp.Did.Document
import Acdp.Crypto.Verify
import Acdp.Types.Receipt
import Acdp.Types.Lifecycle
import Acdp.Types.LogProof
import Acdp.Types.Revocation
import Acdp.Types.Keyless
import Acdp.Registry.Store
import Acdp.Registry.StoreSteps
import Acdp.Registry.Server
import Acdp.Registry.Lineage
import Acdp.Registry.LineagePublish
import Acdp.Registry.LineageHead
import Acdp.Registry.LifecycleHistory
import Acdp.Registry.Idempotency
import Acdp.Registry.Search
import Acdp.Registry.SearchCursor
import Acdp.Registry.SearchPages
import Acdp.Registry.Log
import Acdp.Registry.LogInvariant
import Acdp.Chain.Options
import Acdp.Chain.Evidence
import Acdp.Chain.Verdict
import Acdp.Chain.Keys
import Acdp.Chain.Walk
import Acdp.Chain.Engine
import Acdp.Chain.Stages
import Acdp.Chain.Run
import Acdp.Chain.KeysAsOf
import Acdp.Chain.Sealed
import Acdp.Chain.SealedRetraction
import Acdp.Chain.SealedStages
import Acdp.Chain.SealedRun
import Acdp.Chain.Accepted
import Acdp.Chain.Candidates
import Acdp.Chain.SealedSnapshots
import Acdp.Chain.WalkAdmitted
import Acdp.Chain.SealedEvidence
import Acdp.SafeHttp.Policy
import Acdp.SafeHttp.Embedded
import Acdp.SafeHttp.Resolution
import Acdp.Jcs.Number
import Acdp.Types.JsonSame
import Acdp.Jcs.Canonicalize
import Acdp.Jcs.Injective
import Acdp.Client.RevocationCache
import Acdp.Client.RevocationCacheRuns
import Acdp.Registry.Disclosure
import Acdp.Registry.CommitOracle
import Acdp.Validation.Fields
import Acdp.Validation.Content
import Acdp.Types.Serialize
import Acdp.Crypto.RawHash
import Acdp.Registry.Validator
import Acdp.Crypto.Envelope
import Acdp.Registry.Publish
import Acdp.Registry.PublishRuns
import Acdp.Registry.RevocationLineage
import Acdp.Types.TextParts
import Acdp.Registry.RevocationAdmission
import Acdp.Types.Closed
import Acdp.Types.ClosedRoundTrip
import Acdp.Types.Members
import Acdp.Types.Context
import Acdp.Registry.Served
import Acdp.Types.Decode
import Acdp.Crypto.Binding
import Acdp.Types.SigningInput
import Acdp.Types.DecodeRoundTrip
import Acdp.Producer.Builder
import Acdp.Producer.BuiltRequest
import Acdp.Client.Errors
import Acdp.Client.RevocationVerdict
import Acdp.Client.RevocationAgreement
import Acdp.Foundation.Lru
import Acdp.Did.Web
import Acdp.Did.Freshness
import Acdp.Foundation.Binary64
import Acdp.Foundation.Decimal
import Acdp.Jcs.Midpoint
import Acdp.Jcs.Shortest
import Acdp.Jcs.Token
import Acdp.Jcs.NumberRoundTrip
import Acdp.Client.Retrieve
import Acdp.Client.OneKey
import Acdp.Foundation.Firsts
import Acdp.Client.Discover
import Acdp.Client.DiscoverEvidence
import Acdp.Provenance.Hashing
import Acdp.Mcp.Record
import Acdp.Mcp.Verify
import Acdp.Mcp.Relay
import Acdp.Mcp.Agreement
import Acdp.Crypto.Utf8
import Acdp.Foundation.Utf16
import Acdp.Jcs.Rfc8785
import Acdp.Foundation.Pieces
import Acdp.Jcs.Values
import Acdp.Mcp.DerivedOrder
import Acdp.Registry.RevocationStored
import Acdp.Foundation.Distance
import Acdp.Chain.WalkDepth
import Acdp.Chain.WalkFrontier
import Acdp.Chain.WalkPaths
import Acdp.Foundation.LowLink
import Acdp.Chain.WalkCycles
import Acdp.Chain.Refusal
import Acdp.Trust.List
import Acdp.Trust.Decision
import Acdp.Trust.Run
import Acdp.Trust.Floors
import Acdp.A2a.Parts
import Acdp.A2a.Assembly
import Acdp.A2a.Record
import Acdp.A2a.Verify
import Acdp.A2a.Agreement
import Acdp.Registry.LifecycleRequest
import Acdp.A2a.Ingest
import Acdp.A2a.Session
import Acdp.A2a.EmittedLinks
import Acdp.Client.Witness
import Acdp.Foundation.Related
import Acdp.Types.JsonParts
import Acdp.Types.JsonAlike
import Acdp.Types.ReadStable
import Acdp.Types.ProducerContent
import Acdp.Crypto.HashBinding
import Acdp.Did.Read
import Acdp.Did.Alike
import Acdp.Chain.PinnedSet
import Acdp.Chain.PinnedKeys
import Acdp.Registry.VersionGates
import Acdp.Registry.Pagination
import Acdp.Foundation.Frontier
import Acdp.Client.CrossRegistry
import Acdp.Crypto.KeyLookup
import Acdp.Foundation.Percent
import Acdp.Did.WebMapping
import Acdp.Jcs.MidpointWords
import Acdp.Foundation.Collision
import Acdp.Foundation.AuditCollision
import Acdp.Crypto.MerkleCollision
import Acdp.Registry.LogService
