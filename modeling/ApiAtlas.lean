import ApiAtlas.Logging
import ApiAtlas.Main
import ApiAtlas.Proofs.Schema.Transcript
import ApiAtlas.Proofs.Schema.Inner
import ApiAtlas.Proofs.Schema.Resolves
import ApiAtlas.Proofs.Schema.Outcome
import ApiAtlas.Proofs.Table
import ApiAtlas.Proofs.Schema.Progress
import ApiAtlas.Proofs.Json.Pointer
import ApiAtlas.Proofs.Schema.Tree
import ApiAtlas.Proofs.Schema.Calls
import ApiAtlas.Proofs.Schema.Cycles
import ApiAtlas.Proofs.Schema.Memoization
import ApiAtlas.Proofs.Conformance
import ApiAtlas.Proofs.Json.Same
import ApiAtlas.Proofs.Model.Meaning
import ApiAtlas.Proofs.Model.Sameness
import ApiAtlas.Proofs.Model.Registry
import ApiAtlas.Proofs.Naming
import ApiAtlas.Proofs.Model.Stage
import ApiAtlas.Proofs.Model.Modelling
import ApiAtlas.Proofs.Payload.Check
import ApiAtlas.Proofs.Model.Rendering
import ApiAtlas.Proofs.Model.Closure
import ApiAtlas.Proofs.Model.Validation
import ApiAtlas.Proofs.Schema.Regular
import ApiAtlas.Proofs.Model.Compilation
import ApiAtlas.Proofs.Model.Pointers
import ApiAtlas.Proofs.Model.Closedness
import ApiAtlas.Proofs.Schema.Answerable
import ApiAtlas.Proofs.Model.Compilable
import ApiAtlas.Proofs.Validation.Acceptance
import ApiAtlas.Proofs.Document.Reordering
import ApiAtlas.Proofs.Route.Template
import ApiAtlas.Proofs.Route.Reach
import ApiAtlas.Proofs.Route.Dispatch
import ApiAtlas.Proofs.Route.Resolution
import ApiAtlas.Proofs.Model.Keeping
import ApiAtlas.Proofs.Model.Strictness
import ApiAtlas.Proofs.Route.Caching
import ApiAtlas.Proofs.Conformance.Isolation
import ApiAtlas.Proofs.Model.Enforcement
import ApiAtlas.Proofs.Route.Checking
import ApiAtlas.Proofs.Schema.Merge
import ApiAtlas.Proofs.Schema.Required
import ApiAtlas.Proofs.Schema.Siblings
import ApiAtlas.Proofs.Pattern.Matching
import ApiAtlas.Proofs.Model.Bodies
import ApiAtlas.Proofs.Route.Filling
import ApiAtlas.Proofs.Route.Layers
import ApiAtlas.Proofs.Route.Requirement
import ApiAtlas.Proofs.Validation.Chain
import ApiAtlas.Proofs.Conformance.Attribution
import ApiAtlas.Proofs.Document.Data
import ApiAtlas.Proofs.Schema.Lockstep
import ApiAtlas.Proofs.Validation.References
import ApiAtlas.Proofs.Validation.Data
import ApiAtlas.Proofs.Validation.Visits
import ApiAtlas.Proofs.Validation.Accepted
import ApiAtlas.Proofs.Validation.Titles
import ApiAtlas.Proofs.Validation.Parameters
import ApiAtlas.Proofs.Model.Following
import ApiAtlas.Proofs.Validation.DataProduct
import ApiAtlas.Proofs.Files.Tree
import ApiAtlas.Proofs.Document.Discovery
import ApiAtlas.Proofs.Document.Loading
import ApiAtlas.Proofs.Schema.WellFormed
import ApiAtlas.Proofs.Document.Components
import ApiAtlas.Proofs.Model.Registration
import ApiAtlas.Proofs.Route.Assembly
import ApiAtlas.Proofs.Route.Binding
import ApiAtlas.Proofs.Route.Lookup
import ApiAtlas.Proofs.Validation.Rule
import ApiAtlas.Proofs.Naming.RouteName
import ApiAtlas.Proofs.Model.Nullability
import ApiAtlas.Proofs.Model.Names
