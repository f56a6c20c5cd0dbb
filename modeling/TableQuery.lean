import TableQuery.Number.Written
import TableQuery.Request.Wire
import TableQuery.Request.Event
import TableQuery.Request.Builder
import TableQuery.Request.Equality
import TableQuery.Field.Kind
import TableQuery.Field.Declared
import TableQuery.Predicate.Compiler
import TableQuery.Service
import TableQuery.Settings
import TableQuery.Sqlite.Store
import TableQuery.Qdrant.Lowering
import TableQuery.Proofs.Predicate.Failure
import TableQuery.Proofs.Records
import TableQuery.Proofs.Sqlite.Search
import TableQuery.Proofs.Sqlite.Statement
import TableQuery.Proofs.Request.Parts
import TableQuery.Proofs.Request.Source
import TableQuery.Proofs.Request.Valid
import TableQuery.Proofs.Request.RoundTrip
import TableQuery.Proofs.Request.Window
import TableQuery.Proofs.Fingerprint
import TableQuery.Proofs.Request.Identity
import TableQuery.Proofs.Predicate.Rearranged
import TableQuery.Proofs.Sqlite.Rearranged
import TableQuery.Proofs.Sqlite.Release
import TableQuery.Proofs.Sqlite.Query
import TableQuery.Proofs.Sqlite.Alike
import TableQuery.Proofs.Service
import TableQuery.Proofs.Sqlite.Excerpt
import TableQuery.Proofs.Predicate.Bounds
import TableQuery.Proofs.Qdrant.Search
import TableQuery.Proofs.Qdrant.Schema
import TableQuery.Proofs.Fault
import TableQuery.Proofs.Predicate.Dispatch
import TableQuery.Proofs.Predicate.Folded
import TableQuery.Proofs.Request.Grammar
import TableQuery.Proofs.Request.Malformed
import TableQuery.Proofs.Request.Wire
import TableQuery.Proofs.Request.Escapes
import TableQuery.Proofs.Sqlite.Failure
import TableQuery.Proofs.Sqlite.Memory
import TableQuery.Proofs.Sameness
import TableQuery.Proofs.Request.Builder
import TableQuery.Proofs.Request.Event
import TableQuery.Proofs.Paging
import TableQuery.Proofs.Sqlite.Transaction
import TableQuery.Proofs.Predicate.Searched
import TableQuery.Proofs.Sorting
import TableQuery.Proofs.Field
