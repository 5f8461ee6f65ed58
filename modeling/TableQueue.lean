import TableQueue.Database.Address
import TableQueue.Log.Console
import TableQueue.Metrics.Timeline
import TableQueue.Proofs.Conservation
import TableQueue.Proofs.Content
import TableQueue.Proofs.Lifecycle
import TableQueue.Proofs.Polls
import TableQueue.Proofs.World.Rehearsals
import TableQueue.Rehearsal.Basic
import TableQueue.Statement.Sql
import TableQueue.Throttle.Timeline
import TableQueue.Proofs.Throttle.Rates
import TableQueue.Proofs.Throttle.Waits
import TableQueue.Proofs.World.Connects
import TableQueue.Proofs.Refusals
import TableQueue.Proofs.Reconnects
import TableQueue.Proofs.Transactions
import TableQueue.Proofs.Stops
import TableQueue.Proofs.Termination
import TableQueue.Proofs.Hangs
import TableQueue.Proofs.Deliveries
import TableQueue.Proofs.Rescans
import TableQueue.Proofs.Cadence
import TableQueue.Proofs.Sleeps
import TableQueue.Proofs.Accounts
import TableQueue.Proofs.Duplicates
import TableQueue.Proofs.CoolDowns
import TableQueue.Proofs.Settings.Arrivals
import TableQueue.Proofs.Statements.Bindings
import TableQueue.Proofs.Guards
import TableQueue.Proofs.Diagnoses
import TableQueue.Proofs.Plans
import TableQueue.Proofs.Retries.Exhaustion
import TableQueue.Proofs.Settings.QueueNames
