import Covey.Lib.Table
import Covey.Lib.Tx
import Covey.Ownership
import Covey.Refine.Archive
import Covey.Runs.Claims
import Covey.Runs.Fencing
import Covey.Runs.Lifecycle
import Covey.Runs.Evidence
import Covey.Runs.Queue
import Covey.Runs.Frames
import Covey.Runs.Idempotency
import Covey.Runs.Prerequisites
import Covey.Runs.Reservations
import Covey.Runs.Deadlines
import Covey.Runs.Landing
import Covey.Runs.Cleanup
import Covey.Runs.Attempts
import Covey.Runs.Expiry
import Covey.Runs.Locks
import Covey.Ops.Status
import Covey.Rounds
import Covey.Turns
import Covey.Runs.Rounds
import Covey.Runs.Reviewers
import Covey.Ops.Prose
import Covey.Commits
import Covey.Runs.Prose
import Covey.Runs.Mentions
import Covey.Scopes
import Covey.Runs.Dispatch
import Covey.Runs.Leases
import Covey.Lib.Json
import Covey.Proof.Canonical
import Covey.Runs.Followups
import Covey.Levels
import Covey.Totals
import Covey.Runs.Totals
import Covey.Runs.Cancelled
import Covey.Runs.History
import Covey.Runs.Eligibility
