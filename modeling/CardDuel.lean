import CardDuel.Arena.Call
import CardDuel.Bytes.Hex
import CardDuel.Rules.Reader
import CardDuel.Table.Audit
import CardDuel.Text.Pattern.Lemmas
import CardDuel.Proofs.Census
import CardDuel.Proofs.Placement
import CardDuel.Proofs.Steps
import CardDuel.Proofs.Executions
import CardDuel.Proofs.Checks
import CardDuel.Proofs.Calm
import CardDuel.Proofs.Stages
import CardDuel.Proofs.Conservation
import CardDuel.Proofs.Coupling
import CardDuel.Proofs.OncePerTurn
import CardDuel.Proofs.Activation
import CardDuel.Proofs.Priority
import CardDuel.Proofs.Reports
import CardDuel.Proofs.Unwinding
import CardDuel.Proofs.Verdict
import CardDuel.Proofs.Mirror
import CardDuel.Proofs.Shifts
import CardDuel.Proofs.Entries
import CardDuel.Proofs.Field
import CardDuel.Proofs.Chronicle
import CardDuel.Proofs.Replay
import CardDuel.Proofs.Summons
import CardDuel.Proofs.Suspension
import CardDuel.Proofs.Sentences
import CardDuel.Proofs.Snapshots
import CardDuel.Proofs.Isolation
import CardDuel.Proofs.Choices
import CardDuel.Proofs.Failures
import CardDuel.Proofs.Concealment
import CardDuel.Proofs.Secrecy
import CardDuel.Proofs.Archives
import CardDuel.Proofs.Movements
import CardDuel.Proofs.Spans
import CardDuel.Proofs.Shields
import CardDuel.Proofs.Sweeps
import CardDuel.Proofs.Handover
import CardDuel.Proofs.Ways
import CardDuel.Proofs.Shapes
import CardDuel.Proofs.Opponents
import CardDuel.Proofs.Lowering
import CardDuel.Proofs.Qualifiers
import CardDuel.Proofs.Silence
import CardDuel.Proofs.Clauses
import CardDuel.Proofs.Support
import CardDuel.Proofs.Admission
import CardDuel.Proofs.Fates
import CardDuel.Proofs.Ratings
import CardDuel.Proofs.Recipients
import CardDuel.Proofs.Positions
import CardDuel.Proofs.Counts
import CardDuel.Proofs.Phrases
import CardDuel.Proofs.Orders
import CardDuel.Proofs.Decrees
import CardDuel.Proofs.Cascades
import CardDuel.Proofs.Tallies
