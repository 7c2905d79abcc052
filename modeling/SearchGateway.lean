import SearchGateway.Client.Scripted
import SearchGateway.Endpoint.Define
import SearchGateway.Endpoint.Publish
import SearchGateway.Endpoint.Search
import SearchGateway.Query.Builder
import SearchGateway.Json.Reader
import SearchGateway.Proofs.FlatNames
import SearchGateway.Proofs.Maps
import SearchGateway.Proofs.Leaves
import SearchGateway.Proofs.Placement
import SearchGateway.Proofs.RoundTrip
import SearchGateway.Proofs.DocumentJson
import SearchGateway.Proofs.ReadBack
import SearchGateway.Proofs.Numerals
import SearchGateway.Proofs.StructuredReader
import SearchGateway.Proofs.Meaning
import SearchGateway.Proofs.Batches
import SearchGateway.Proofs.Delivery
import SearchGateway.Proofs.Accounting
import SearchGateway.Proofs.Faults
import SearchGateway.Proofs.SchemaPaths
import SearchGateway.Proofs.FieldDefinitions
import SearchGateway.Proofs.CheckedQueries
import SearchGateway.Proofs.SchemaMerge
import SearchGateway.Proofs.Derivation
import SearchGateway.Proofs.Walks
import SearchGateway.Proofs.Extraction
import SearchGateway.Proofs.Phrases
import SearchGateway.Proofs.Assembly
import SearchGateway.Proofs.Execution
import SearchGateway.Proofs.Observation
import SearchGateway.Proofs.Readings
import SearchGateway.Proofs.Agreement
import SearchGateway.Proofs.Ceilings
import SearchGateway.Proofs.Attempts
import SearchGateway.Proofs.CloudSearchObstacles
import SearchGateway.Proofs.ElasticsearchObstacles
import SearchGateway.Proofs.Pauses
import SearchGateway.Proofs.Shadowing
import SearchGateway.Proofs.PublishedFields
import SearchGateway.Proofs.MergedPaths
import SearchGateway.Proofs.EvenGroups
import SearchGateway.Proofs.MergedValues
import SearchGateway.Proofs.BuiltQueries
import SearchGateway.Proofs.DayCount
import SearchGateway.Proofs.TimestampTexts
import SearchGateway.Proofs.NormalTimestamps
