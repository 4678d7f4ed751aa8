import Ingest.Main
import Ingest.Scenario
import Ingest.Proofs.Text.Percent
import Ingest.Proofs.Text.Octets
import Ingest.Proofs.Text.Form
import Ingest.Proofs.Text.Utf8
import Ingest.Proofs.Text.Composing
import Ingest.Proofs.Text.Base64
import Ingest.Proofs.Text.Trimming
import Ingest.Proofs.Text.Lowercase
import Ingest.Proofs.Url.Appending
import Ingest.Proofs.Url.Written
import Ingest.Proofs.Url.Extending
import Ingest.Proofs.Http.Resources
import Ingest.Proofs.Http.Answering
import Ingest.Proofs.Repository.Answers
import Ingest.Proofs.Repository.Roots
import Ingest.Proofs.Http.Pairs
import Ingest.Proofs.Files.Components
import Ingest.Proofs.Files.Following
import Ingest.Proofs.Files.Listing
import Ingest.Proofs.Files.LastNames
import Ingest.Proofs.Dialogue.Trace
import Ingest.Proofs.Dialogue.Conduct
import Ingest.Proofs.Config.Acceptance
import Ingest.Proofs.Task.Message
import Ingest.Proofs.Store.Log
import Ingest.Proofs.Store.Progress
import Ingest.Proofs.Store.Uploads
import Ingest.Proofs.Store.Closing
import Ingest.Proofs.Store.Course
import Ingest.Proofs.Store.Conservation
import Ingest.Proofs.Store.Indifference
import Ingest.Proofs.Store.Protocol
import Ingest.Proofs.Store.Attribution
import Ingest.Proofs.Store.Projection
import Ingest.Proofs.Store.Creation
import Ingest.Proofs.Store.Independence
import Ingest.Proofs.Import.Naming
import Ingest.Proofs.Import.Folders
import Ingest.Proofs.Import.Sequence
import Ingest.Proofs.Import.Turns
import Ingest.Proofs.Deployment.Steps
import Ingest.Proofs.Deployment.Submission
import Ingest.Proofs.Deployment.Names
import Ingest.Proofs.CommandLine.Startup
import Ingest.Proofs.CommandLine.Importing
import Ingest.Proofs.CommandLine.Refusal
import Ingest.Proofs.Store.Identifier
import Ingest.Proofs.Url.Marks
import Ingest.Proofs.Url.Hosts
import Ingest.Proofs.Store.Version
import Ingest.Proofs.Store.LastSegment
import Ingest.Proofs.Store.Representation
import Ingest.Proofs.Json.Spelling
import Ingest.Proofs.Json.Construction
import Ingest.Proofs.Json.Record
import Ingest.Proofs.Json.Schema
import Ingest.Proofs.Json.Thorough
import Ingest.Proofs.Json.Entries
import Ingest.Proofs.Json.Following
import Ingest.Proofs.Json.Viewing
import Ingest.Proofs.Json.Spacing
import Ingest.Proofs.Json.Joining
import Ingest.Proofs.Json.Positions
import Ingest.Proofs.Json.Members
import Ingest.Proofs.Json.Shapes
import Ingest.Proofs.Json.Rearranging
import Ingest.Proofs.Decimal.Rounding
import Ingest.Proofs.Decimal.Finite
import Ingest.Proofs.Decimal.Scaling
import Ingest.Proofs.Decimal.Shortest
import Ingest.Proofs.Json.Digits
import Ingest.Proofs.Json.Decimals
import Ingest.Proofs.Json.Rereading
import Ingest.Proofs.Config.Keys
import Ingest.Proofs.Config.Proxies
import Ingest.Proofs.Config.Absence
import Ingest.Proofs.Config.Variation
import Ingest.Proofs.Config.Descriptions
import Ingest.Proofs.Config.Positions
