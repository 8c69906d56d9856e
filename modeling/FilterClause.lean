import FilterClause.Main
import FilterClause.Proofs.Frontier
import FilterClause.Proofs.Precedence
import FilterClause.Proofs.Reuse
import FilterClause.Proofs.Stages
import FilterClause.Proofs.Cutoff
import FilterClause.Proofs.Stopping
import FilterClause.Proofs.RunLog
import FilterClause.Proofs.Nesting
import FilterClause.Proofs.Normalization
import FilterClause.Proofs.Parentheses
import FilterClause.Proofs.Skeleton
import FilterClause.Proofs.Unwrapping
import FilterClause.Proofs.Kinds
import FilterClause.Proofs.Naming
import FilterClause.Proofs.Lowering
