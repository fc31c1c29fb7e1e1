import Guardrail.Approval.Request
import Guardrail.Compliance.Assessment
import Guardrail.Engine.Batch
import Guardrail.Engine.Loading
import Guardrail.Engine.Management
import Guardrail.Policy.Builtin
import Guardrail.Policy.Loading
import Guardrail.Proofs.Approval.Reasons
import Guardrail.Proofs.Approval.Refusals
import Guardrail.Proofs.Approval.VoteOrder
import Guardrail.Proofs.Approval.Votes
import Guardrail.Proofs.Compliance.Accounting
import Guardrail.Proofs.Compliance.CriticalResources
import Guardrail.Proofs.Compliance.Growth
import Guardrail.Proofs.Compliance.Isolation
import Guardrail.Proofs.Compliance.Reasons
import Guardrail.Proofs.Compliance.Respelling
import Guardrail.Proofs.Compliance.Scope
import Guardrail.Proofs.Compliance.Scores
import Guardrail.Proofs.Compliance.Signals
import Guardrail.Proofs.Compliance.Surroundings
import Guardrail.Proofs.Condition.Attributes
import Guardrail.Proofs.Condition.Caching
import Guardrail.Proofs.Condition.Integers
import Guardrail.Proofs.Condition.Names
import Guardrail.Proofs.Condition.Reading
import Guardrail.Proofs.Condition.Serialization
import Guardrail.Proofs.Condition.Spelling
import Guardrail.Proofs.Decimal.Nearest
import Guardrail.Proofs.Decimal.Normal
import Guardrail.Proofs.Decimal.Whole
import Guardrail.Proofs.Document.Objects
import Guardrail.Proofs.Engine.Agreement
import Guardrail.Proofs.Engine.Batches
import Guardrail.Proofs.Engine.Decisions
import Guardrail.Proofs.Engine.FailModes
import Guardrail.Proofs.Engine.ItemIds
import Guardrail.Proofs.Engine.Items
import Guardrail.Proofs.Engine.Management
import Guardrail.Proofs.Engine.Messages
import Guardrail.Proofs.Engine.MockRuns
import Guardrail.Proofs.Engine.Paths
import Guardrail.Proofs.Engine.Reading
import Guardrail.Proofs.Engine.RuleIds
import Guardrail.Proofs.Json.Numerals
import Guardrail.Proofs.Json.Strings
import Guardrail.Proofs.Message.Cuts
import Guardrail.Proofs.Message.Placeholders
import Guardrail.Proofs.Policy.Aggregation
import Guardrail.Proofs.Policy.Builtin
import Guardrail.Proofs.Policy.Dependence
import Guardrail.Proofs.Policy.RequiredTags
import Guardrail.Proofs.Policy.RoundTrip
import Guardrail.Proofs.Policy.Routing
import Guardrail.Proofs.Policy.Spelling
import Guardrail.Proofs.Record.Segments
import Guardrail.Proofs.Rego.Blocks
import Guardrail.Proofs.Rego.Comments
import Guardrail.Proofs.Rego.Continuation
import Guardrail.Proofs.Rego.Depth
import Guardrail.Proofs.Rego.Expressions
import Guardrail.Proofs.Rego.Grammar
import Guardrail.Proofs.Rego.Lowering
import Guardrail.Proofs.Rego.Readers
import Guardrail.Proofs.Rego.Statements
