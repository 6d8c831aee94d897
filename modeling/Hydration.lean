import Hydration.Config.Load
import Hydration.Config.Dump
import Hydration.Policy
import Hydration.Crawlers
import Hydration.Pending.Holders
import Hydration.Arbiter.Script
import Hydration.Service.Shelf
import Hydration.Simulation.Rehearsal
import Hydration.Proofs.Pending.Custody
import Hydration.Proofs.Pending.Separation
import Hydration.Proofs.Pending.Shutdown
import Hydration.Proofs.Pending.Wakeups
import Hydration.Proofs.Traffic.Basic
import Hydration.Proofs.Traffic.Steps
import Hydration.Proofs.Traffic.Ownership
import Hydration.Proofs.Traffic.Log
import Hydration.Proofs.Traffic.Drain
import Hydration.Proofs.Traffic.Numbers
import Hydration.Proofs.Traffic.Answers
import Hydration.Proofs.Traffic.Provenance
import Hydration.Proofs.Traffic.InFlight
import Hydration.Proofs.Metrics.Latencies
import Hydration.Proofs.Traffic.Phases
import Hydration.Proofs.Traffic.Accounts
import Hydration.Proofs.Traffic.Recorded
import Hydration.Proofs.Traffic.Balance
import Hydration.Proofs.Service.Tenure
import Hydration.Proofs.Agreement.Rules
import Hydration.Proofs.Agreement.Paths
import Hydration.Proofs.Agreement.Calls
import Hydration.Proofs.Agreement.Decisions
import Hydration.Proofs.Agreement.Runs
import Hydration.Proofs.Service.Bracket
import Hydration.Proofs.Service.Succession
import Hydration.Proofs.Content.Visit
import Hydration.Proofs.Content.Once
import Hydration.Proofs.Decision.Returns
import Hydration.Proofs.Decision.Clauses
import Hydration.Proofs.Decision.Footprint
import Hydration.Proofs.Decision.Hydrated
import Hydration.Proofs.Roots.Innermost
import Hydration.Proofs.Config.Placeholders
import Hydration.Proofs.Config.Checked
import Hydration.Proofs.Roots.Names
import Hydration.Proofs.Text.Lowercase
import Hydration.Proofs.Text.Numeral
import Hydration.Proofs.Text.Truncate
import Hydration.Proofs.Span.Grammar
import Hydration.Proofs.Span.Printed
import Hydration.Proofs.Decision.Crawlers
import Hydration.Proofs.Config.Reloaded
import Hydration.Proofs.Metrics.Endurance
import Hydration.Proofs.Roots.Rejoined
import Hydration.Proofs.Queue.Basic
import Hydration.Proofs.Queue.Steps
import Hydration.Proofs.Queue.Course
import Hydration.Proofs.Queue.Conserved
