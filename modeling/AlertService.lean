import AlertService.Account.Argon2
import AlertService.Main
import AlertService.Proofs.Account.Argon2
import AlertService.Proofs.Schema.Interruption
import AlertService.Proofs.Schema.Layout
import AlertService.Proofs.Service.Accounts
import AlertService.Proofs.Service.Commands
import AlertService.Proofs.Service.Consent
import AlertService.Proofs.Service.Delivering
import AlertService.Proofs.Service.Directory
import AlertService.Proofs.Service.Enrolment
import AlertService.Proofs.Service.Identifiers
import AlertService.Proofs.Service.Isolation
import AlertService.Proofs.Service.Precedence
import AlertService.Proofs.Service.Refusal
import AlertService.Proofs.Service.Resubmission
import AlertService.Proofs.Service.Revocation
import AlertService.Proofs.Startup.Configuration
import AlertService.Proofs.Store.Batches
import AlertService.Proofs.Store.Deletion
import AlertService.Proofs.Store.Dispatch
import AlertService.Proofs.Store.Drafts
import AlertService.Proofs.Store.Expiry
import AlertService.Proofs.Store.Ledger
import AlertService.Proofs.Store.Roster
import AlertService.Proofs.Store.Secrecy
import AlertService.Proofs.Token.RoundTrip
import AlertService.Schema.Definition
import AlertService.Service.Router
import AlertService.Store.Rows
import AlertService.Telegram.Sending
