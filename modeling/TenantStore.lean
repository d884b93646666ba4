import TenantStore.Json.Reader
import TenantStore.Namespace
import TenantStore.Naming
import TenantStore.Sql.Literal
import TenantStore.Text.CaseFolding
import TenantStore.Text.Classes
import TenantStore.Time.Reading
import TenantStore.Failure
import TenantStore.Field
import TenantStore.Coercion
import TenantStore.Field.Builder
import TenantStore.Field.Descriptor
import TenantStore.Pattern.Reader
import TenantStore.Database
import TenantStore.Sql.Ddl
import TenantStore.Proofs.Programs
import TenantStore.Proofs.Session.Tasks
import TenantStore.Proofs.Session.Invariant
import TenantStore.Proofs.Session.Preserved
import TenantStore.Proofs.Session.Moves
import TenantStore.Proofs.Session.Attempts
import TenantStore.Proofs.Session.Schedules
import TenantStore.Proofs.Session.Progress
import TenantStore.Proofs.Session.Outcomes
import TenantStore.Proofs.Exchanges
import TenantStore.Proofs.Session.Exchanges
import TenantStore.Proofs.Session.Queries
import TenantStore.Proofs.Field.Restored
import TenantStore.Proofs.Json.Writing
import TenantStore.Proofs.Json.Simplified
import TenantStore.Proofs.Sql.RestoredColumn
import TenantStore.Proofs.Row.Checks
import TenantStore.Proofs.Row.Conforms
import TenantStore.Proofs.Row.Changes
import TenantStore.Proofs.Row.Columns
import TenantStore.Proofs.Row.Nulls
import TenantStore.Proofs.Schema.Accepted
import TenantStore.Proofs.Tenants
import TenantStore.Proofs.Sql.Compiled
import TenantStore.Proofs.Sql.RelationNames
import TenantStore.Proofs.Number.Digits
import TenantStore.Proofs.Sql.Tokens
import TenantStore.Proofs.Sql.Literals
import TenantStore.Proofs.Sql.Statements
import TenantStore.Proofs.Field.RoundTrip
import TenantStore.Proofs.Json.Strict
import TenantStore.Proofs.Schema.Sendable
import TenantStore.Proofs.Conditions
import TenantStore.Proofs.Row.Usable
import TenantStore.Proofs.Retries
import TenantStore.Proofs.Session.Waiters
import TenantStore.Proofs.Session.Calm
import TenantStore.Proofs.Session.Independence
import TenantStore.Proofs.Row.Places
import TenantStore.Proofs.Row.Alone
import TenantStore.Proofs.Number.Rounding
import TenantStore.Proofs.Pauses
import TenantStore.Proofs.Row.Batch
import TenantStore.Proofs.Row.Fits
import TenantStore.Proofs.Row.Lasting
import TenantStore.Proofs.Time.WireText
import TenantStore.Proofs.Uuid.Text
import TenantStore.Proofs.Value.Wire
import TenantStore.Proofs.Options
import TenantStore.Proofs.Sql.Layout
import TenantStore.Proofs.Json.Reading
import TenantStore.Proofs.Sql.JsonDefaults
import TenantStore.Proofs.Answers
import TenantStore.Proofs.Session.Verdicts
