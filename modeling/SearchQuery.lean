import SearchQuery.Expression.Builder
import SearchQuery.Expression.Encoding
import SearchQuery.Json.Parser
import SearchQuery.Observation.Log
import SearchQuery.Observation.Metrics
import SearchQuery.Proofs.Criteria.Bounds
import SearchQuery.Proofs.Criteria.Combination
import SearchQuery.Proofs.Criteria.Content
import SearchQuery.Proofs.Criteria.Leaves
import SearchQuery.Proofs.Criteria.Legible
import SearchQuery.Proofs.Criteria.Meaning
import SearchQuery.Proofs.Criteria.Nodes
import SearchQuery.Proofs.Criteria.Shape
import SearchQuery.Proofs.Expression.Chains
import SearchQuery.Proofs.Expression.Conversions
import SearchQuery.Proofs.Expression.Encoding
import SearchQuery.Proofs.Expression.Folding
import SearchQuery.Proofs.Expression.Reduced
import SearchQuery.Proofs.Expression.Renaming
import SearchQuery.Proofs.Json.Delimited
import SearchQuery.Proofs.Json.Members
import SearchQuery.Proofs.Observation.Accounting
import SearchQuery.Proofs.Observation.Series
import SearchQuery.Proofs.Observation.Stages
import SearchQuery.Proofs.Plan.Asks
import SearchQuery.Proofs.Plan.ChainRun
import SearchQuery.Proofs.Plan.Concerns
import SearchQuery.Proofs.Plan.Conditions
import SearchQuery.Proofs.Plan.Conjunction
import SearchQuery.Proofs.Plan.Conservation
import SearchQuery.Proofs.Plan.Conversions
import SearchQuery.Proofs.Plan.Constants
import SearchQuery.Proofs.Plan.Contribution
import SearchQuery.Proofs.Plan.FacetNames
import SearchQuery.Proofs.Plan.FacetReads
import SearchQuery.Proofs.Plan.FieldPaths
import SearchQuery.Proofs.Plan.FilterContext
import SearchQuery.Proofs.Plan.Formula
import SearchQuery.Proofs.Plan.Leaves
import SearchQuery.Proofs.Plan.Namespace
import SearchQuery.Proofs.Plan.Narrowing
import SearchQuery.Proofs.Plan.OneHit
import SearchQuery.Proofs.Plan.PredicateConversions
import SearchQuery.Proofs.Plan.RangeBounds
import SearchQuery.Proofs.Plan.Renaming
import SearchQuery.Proofs.Plan.RequestLeaves
import SearchQuery.Proofs.Plan.RequestShape
import SearchQuery.Proofs.Plan.Requirements
import SearchQuery.Proofs.Plan.Scoring
import SearchQuery.Proofs.Plan.ScoringFormula
import SearchQuery.Proofs.Plan.ScoringGuards
import SearchQuery.Proofs.Plan.SplitShape
import SearchQuery.Proofs.Projection.Folding
import SearchQuery.Proofs.Projection.RowKinds
import SearchQuery.Proofs.Success
import SearchQuery.Proofs.Text.Separated
import SearchQuery.Proofs.Wire.FacetFilter
import SearchQuery.Proofs.Wire.Writable
import SearchQuery.Session
import SearchQuery.Proofs.Wire.Faults
import SearchQuery.Proofs.Projection.Fields
import SearchQuery.Proofs.Wire.ReadBack
import SearchQuery.Proofs.Lucene.Tokens
import SearchQuery.Proofs.Lucene.Values
import SearchQuery.Proofs.Lucene.Skeleton
import SearchQuery.Proofs.Lucene.Quoting
import SearchQuery.Proofs.Mapping.Plural
import SearchQuery.Proofs.Plan.Paging
import SearchQuery.Proofs.Plan.RequestNulls
import SearchQuery.Proofs.Projection.Strategies
import SearchQuery.Proofs.Response.GroupRows
import SearchQuery.Proofs.Expression.Integers
import SearchQuery.Proofs.Plan.Connectives
import SearchQuery.Proofs.Plan.SetValues
import SearchQuery.Proofs.Plan.SubstringSearch
import SearchQuery.Proofs.Plan.Flipping
import SearchQuery.Proofs.Plan.Membership
import SearchQuery.Proofs.Wire.Parameters
import SearchQuery.Proofs.Wire.TimeLimits
