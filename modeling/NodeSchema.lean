import NodeSchema.Constraint.Questions
import NodeSchema.Script.Run
import NodeSchema.Proofs.Loader.Rollback
import NodeSchema.Proofs.Schema.Pending
import NodeSchema.Proofs.Schema.Coherence
import NodeSchema.Proofs.Constraint.Acceptance
import NodeSchema.Proofs.Schema.Checking
import NodeSchema.Proofs.Schema.Reachable
import NodeSchema.Proofs.Record.Entries
import NodeSchema.Proofs.Schema.Inheritance
import NodeSchema.Proofs.Schema.Tame
import NodeSchema.Proofs.Schema.Limits
import NodeSchema.Proofs.Schema.Construction
import NodeSchema.Proofs.Schema.Later
import NodeSchema.Proofs.Schema.Built
import NodeSchema.Proofs.Loader.Running
import NodeSchema.Proofs.Bundle.Tables
import NodeSchema.Proofs.Bundle.Trees
import NodeSchema.Proofs.Schema.Linearization
import NodeSchema.Proofs.Schema.Guarantees
import NodeSchema.Proofs.Schema.Reordering
import NodeSchema.Proofs.Loader.Operations
import NodeSchema.Proofs.Loader.History
import NodeSchema.Proofs.Loader.Stretch
import NodeSchema.Proofs.Loader.Once
import NodeSchema.Proofs.Loader.Consistency
import NodeSchema.Proofs.Schema.Walks
import NodeSchema.Proofs.Schema.Subtyping
import NodeSchema.Proofs.Schema.Declarations
import NodeSchema.Proofs.Schema.Omitted
import NodeSchema.Proofs.Bundle.Steadiness
import NodeSchema.Proofs.Description.RoundTrip
import NodeSchema.Proofs.Schema.Obstructions
import NodeSchema.Proofs.Loader.Integrity
import NodeSchema.Proofs.Loader.Reports
import NodeSchema.Proofs.Schema.Nesting
import NodeSchema.Proofs.Schema.Strictness
import NodeSchema.Proofs.Schema.Rebuilding
import NodeSchema.Proofs.Schema.Locality
import NodeSchema.Proofs.Schema.Unordered
import NodeSchema.Proofs.Loader.Cycles
import NodeSchema.Proofs.Loader.Beforehand
import NodeSchema.Proofs.Constraint.Flattening
import NodeSchema.Proofs.Schema.Nulls
import NodeSchema.Proofs.Schema.Unused
import NodeSchema.Proofs.Bundle.Openings
import NodeSchema.Proofs.Record.Edits
import NodeSchema.Proofs.Schema.Refusals
