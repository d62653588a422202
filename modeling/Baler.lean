import Baler.Main
import Baler.Simulation.AssemblyTrial
import Baler.Simulation.ChannelTrial
import Baler.Simulation.ConsumerTrial
import Baler.Proofs.CallsInFlight
import Baler.Proofs.LateDeliveries
import Baler.Proofs.AckSafety
import Baler.Proofs.Abandonment
import Baler.Proofs.BatchSizes
import Baler.Proofs.ExactCalls
import Baler.Proofs.Pace
import Baler.Proofs.Clock
import Baler.Proofs.BoundedWait
import Baler.Proofs.Grid
import Baler.Proofs.PendingDeliveries
import Baler.Proofs.ModesAgree
import Baler.Proofs.Tracking
import Baler.Proofs.Endings
import Baler.Proofs.Standing
import Baler.Proofs.StreamFailures
import Baler.Proofs.ToleratedFaults
import Baler.Proofs.Shutdown
import Baler.Proofs.ChannelLife
import Baler.Proofs.Stations
import Baler.Proofs.Custody
import Baler.Proofs.FailedStart
import Baler.Proofs.Causes
import Baler.Proofs.NormalReturn
import Baler.Proofs.Tenure
import Baler.Proofs.Classification
import Baler.Proofs.KeywordMatches
import Baler.Proofs.AddressParts
import Baler.Proofs.TimerAhead
