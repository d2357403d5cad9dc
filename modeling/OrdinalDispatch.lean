import OrdinalDispatch.ClassTable.Model
import OrdinalDispatch.CommandLine.FileTree
import OrdinalDispatch.Json.Writer
import OrdinalDispatch.Loader.Generator
import OrdinalDispatch.Main
import OrdinalDispatch.Proofs.Loader.ModelIsolation
import OrdinalDispatch.Proofs.Loader.Sharing
import OrdinalDispatch.Proofs.Machine.Construction
import OrdinalDispatch.Proofs.Machine.FieldAccess
import OrdinalDispatch.Proofs.Machine.Invocation
import OrdinalDispatch.Proofs.Machine.StackDiscipline
import OrdinalDispatch.Proofs.Machine.VerifiedRuns
import OrdinalDispatch.Proofs.Code.Grammar
import OrdinalDispatch.Proofs.Code.Calls
import OrdinalDispatch.Proofs.Loader.Repetition
import OrdinalDispatch.Proofs.Loader.RequestOrder
import OrdinalDispatch.Proofs.Loader.Tracing
import OrdinalDispatch.Proofs.Loader.Operations
import OrdinalDispatch.Proofs.Loader.Matching
import OrdinalDispatch.Proofs.Loader.FailedRequests
import OrdinalDispatch.Proofs.Code.ListingLayout
import OrdinalDispatch.Proofs.Loader.TraceFiles
import OrdinalDispatch.Proofs.Number.Conversion
import OrdinalDispatch.Proofs.Schema.Forms
import OrdinalDispatch.Proofs.Code.Indices
import OrdinalDispatch.Proofs.CommandLine.Inspection
