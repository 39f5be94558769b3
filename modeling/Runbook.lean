import Runbook.Build.Batch
import Runbook.Condition.Render
import Runbook.Schema.Signature
import Runbook.Staged.Request
import Runbook.Proofs.Prune
import Runbook.Proofs.Execution
import Runbook.Proofs.Findings
import Runbook.Proofs.Serializable
import Runbook.Proofs.Agreement
import Runbook.Proofs.Escaping
import Runbook.Proofs.Resolution
import Runbook.Proofs.Caching
import Runbook.Proofs.Skeleton
import Runbook.Proofs.Splicing
import Runbook.Proofs.Registration
import Runbook.Proofs.ModuleNames
import Runbook.Proofs.RegistrationOrder
import Runbook.Proofs.CacheHistory
import Runbook.Proofs.Unreachable
import Runbook.Proofs.LoweredCalls
import Runbook.Proofs.ModuleLayout
import Runbook.Proofs.Stages
import Runbook.Proofs.StagedCalls
import Runbook.Proofs.Surroundings
import Runbook.Proofs.Assertions
import Runbook.Proofs.Interleaving
import Runbook.Proofs.Invocation
import Runbook.Proofs.Gathering
import Runbook.Proofs.QueryGrammar
import Runbook.Proofs.Placeholders
import Runbook.Proofs.FixedFences
import Runbook.Proofs.CodeFences
import Runbook.Proofs.QuotedFields
import Runbook.Proofs.Assignments
import Runbook.Proofs.AllocatedNames
import Runbook.Proofs.Slots
import Runbook.Proofs.LoweredSlots
import Runbook.Proofs.ErrorPlaces
import Runbook.Proofs.Tables
import Runbook.Proofs.FrontmatterText
import Runbook.Proofs.ModuleContents
import Runbook.Proofs.ScopeNesting
import Runbook.Proofs.ListIndent
import Runbook.Proofs.WalkOrder
import Runbook.Proofs.DependencyLines
import Runbook.Proofs.Indents
import Runbook.Proofs.Origins
import Runbook.Proofs.NodeData
import Runbook.Proofs.WellFormed
