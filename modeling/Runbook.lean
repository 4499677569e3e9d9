import Runbook.Builder
import Runbook.Document
import Runbook.Executor
import Runbook.Pool
import Runbook.Proofs.Acceptance
import Runbook.Proofs.Address
import Runbook.Proofs.Builder.Document
import Runbook.Proofs.Config
import Runbook.Proofs.Formats
import Runbook.Proofs.History
import Runbook.Proofs.Http.ClientCache
import Runbook.Proofs.Http.ContentType
import Runbook.Proofs.Http.Quotation
import Runbook.Proofs.Http.ResponseFields
import Runbook.Proofs.Json.Spelling
import Runbook.Proofs.JsonTemplate
import Runbook.Proofs.MemberOrder
import Runbook.Proofs.Output
import Runbook.Proofs.Pool.Provision
import Runbook.Proofs.Pool.Schedule
import Runbook.Proofs.Registry
import Runbook.Proofs.Run.Bindings
import Runbook.Proofs.Run.Commutation
import Runbook.Proofs.Run.DataFlow
import Runbook.Proofs.Run.Finished
import Runbook.Proofs.Run.InputAddress
import Runbook.Proofs.Run.Noninterference
import Runbook.Proofs.Substitution
import Runbook.Proofs.Template.Grammar
import Runbook.Proofs.Timeouts
import Runbook.Proofs.Validation.Blame
import Runbook.Registry
import Runbook.Shell.Machine
