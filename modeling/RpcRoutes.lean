import RpcRoutes.Main
import RpcRoutes.Descriptor.Encode
import RpcRoutes.Http.Probe
import RpcRoutes.Routing.Session
import RpcRoutes.Proofs.Path.Rooted
import RpcRoutes.Proofs.Routing.Admission
import RpcRoutes.Proofs.Routing.Registration
import RpcRoutes.Proofs.Routing.Planning
import RpcRoutes.Proofs.Routing.Mounting
import RpcRoutes.Proofs.Routing.Sessions
import RpcRoutes.Proofs.Routing.Accounts
import RpcRoutes.Proofs.Routing.Atomicity
import RpcRoutes.Proofs.Path.Literal
import RpcRoutes.Proofs.Routing.Answering
import RpcRoutes.Proofs.Routing.Resolution
import RpcRoutes.Proofs.Startup.Tables
import RpcRoutes.Proofs.Startup.Serving
import RpcRoutes.Proofs.Binding.Extraction
import RpcRoutes.Proofs.Startup.Listing
import RpcRoutes.Proofs.Http.Dispatching
import RpcRoutes.Proofs.Binding.Declarations
import RpcRoutes.Proofs.Routing.History
import RpcRoutes.Proofs.Routing.Provenance
import RpcRoutes.Proofs.Http.Passing
import RpcRoutes.Proofs.Routing.Races
import RpcRoutes.Proofs.Routing.Settling
import RpcRoutes.Proofs.Routing.Stepwise
import RpcRoutes.Proofs.Startup.Building
import RpcRoutes.Proofs.Routing.Counting
import RpcRoutes.Proofs.Routing.Shadows
import RpcRoutes.Proofs.Startup.Conservation
import RpcRoutes.Proofs.Startup.Scopes
import RpcRoutes.Proofs.Startup.Shadowing
import RpcRoutes.Proofs.Routing.Stability
import RpcRoutes.Proofs.Path.Parameters
import RpcRoutes.Proofs.Routing.Nesting
import RpcRoutes.Proofs.Startup.Advertising
import RpcRoutes.Proofs.Startup.Repetition
import RpcRoutes.Proofs.Startup.Policies
import RpcRoutes.Proofs.Startup.Orders
import RpcRoutes.Proofs.Path.Filling
import RpcRoutes.Proofs.Path.Matching
import RpcRoutes.Proofs.Routing.Identity
import RpcRoutes.Proofs.Path.Joining
import RpcRoutes.Proofs.Startup.Prefixes
import RpcRoutes.Proofs.Json.Spelling
import RpcRoutes.Proofs.Json.Nesting
import RpcRoutes.Proofs.Json.Reading
import RpcRoutes.Proofs.Descriptor.Records
import RpcRoutes.Proofs.Descriptor.RoundTrip
import RpcRoutes.Proofs.Path.Segments
import RpcRoutes.Proofs.Startup.Rejection
import RpcRoutes.Proofs.Path.Composing
import RpcRoutes.Proofs.Routing.Bases
import RpcRoutes.Proofs.Http.Identifying
import RpcRoutes.Proofs.Path.Occurrences
import RpcRoutes.Proofs.Routing.Lookup
import RpcRoutes.Proofs.Routing.Effects
import RpcRoutes.Proofs.Descriptor.Editing
import RpcRoutes.Proofs.Descriptor.Invariance
import RpcRoutes.Proofs.Path.Seams
import RpcRoutes.Proofs.Path.Repeats
import RpcRoutes.Proofs.Http.Echoing
