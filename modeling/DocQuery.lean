import DocQuery.Main
import DocQuery.Store.Operation
import DocQuery.Proofs.Query.Grammar
import DocQuery.Proofs.Query.Unambiguity
import DocQuery.Proofs.Query.Parsing
import DocQuery.Proofs.Query.Acceptance
import DocQuery.Proofs.Number.ReadBack
import DocQuery.Proofs.Query.Spelling
import DocQuery.Proofs.Query.Writable
import DocQuery.Proofs.Query.Rendering
import DocQuery.Proofs.Query.Refusal
import DocQuery.Proofs.Operand.Compare
import DocQuery.Proofs.Query.Execution
import DocQuery.Proofs.Store.Document
import DocQuery.Proofs.Store.Consistency
import DocQuery.Proofs.Store.Ensures
import DocQuery.Proofs.Store.Operations
import DocQuery.Proofs.Store.Run
import DocQuery.Proofs.Store.Catalog
import DocQuery.Proofs.Store.Refinement
import DocQuery.Proofs.Json.Reading
import DocQuery.Proofs.Text.Base64
import DocQuery.Proofs.Paging.Continuation
import DocQuery.Proofs.Paging.Page
import DocQuery.Proofs.Store.Paging
import DocQuery.Proofs.Query.Path
import DocQuery.Proofs.Query.Projection
import DocQuery.Proofs.Query.Evaluation
import DocQuery.Proofs.Query.Substitution
import DocQuery.Proofs.Query.Equality
import DocQuery.Proofs.Query.Failure
import DocQuery.Proofs.Query.Layout
import DocQuery.Proofs.Query.Reader
import DocQuery.Proofs.Query.Lookahead
import DocQuery.Proofs.Query.FirstImpossible
import DocQuery.Proofs.Query.Renaming
import DocQuery.Proofs.Query.Verdict
import DocQuery.Proofs.Number.Value
import DocQuery.Proofs.Operand.Preorder
import DocQuery.Proofs.Query.Order
import DocQuery.Proofs.Operand.Equality
import DocQuery.Proofs.Operand.Comparison
import DocQuery.Proofs.Paging.Walk
import DocQuery.Proofs.Store.Fate
import DocQuery.Proofs.Store.Submission
import DocQuery.Proofs.Store.Provenance
import DocQuery.Proofs.Store.Identity
import DocQuery.Proofs.Store.WriteBack
import DocQuery.Proofs.Query.Identifier
import DocQuery.Proofs.Query.Points
import DocQuery.Proofs.Query.Move
import DocQuery.Proofs.Query.Spacing
import DocQuery.Proofs.Query.Lockstep
import DocQuery.Proofs.Query.Textless
import DocQuery.Proofs.Config.Precedence
import DocQuery.Proofs.Log.Confidentiality
import DocQuery.Proofs.Log.Masked
import DocQuery.Proofs.Time.Denotation
import DocQuery.Proofs.Shell.Documents
import DocQuery.Proofs.Operand.Search
import DocQuery.Proofs.Query.Lens
