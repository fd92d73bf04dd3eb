import PeripheralBank.Ring.Queue
import PeripheralBank.Bench.Setup
import PeripheralBank.Main
import PeripheralBank.Proofs.Divider.Legality
import PeripheralBank.Proofs.Divider.Rounding
import PeripheralBank.Proofs.Bench.Agreement
import PeripheralBank.Proofs.Bench.Conservation
import PeripheralBank.Proofs.Divider.Closeness
import PeripheralBank.Proofs.Divider.Monotone
import PeripheralBank.Proofs.Registry.Refusal
import PeripheralBank.Proofs.Registry.Alike
import PeripheralBank.Proofs.Bench.Alike
import PeripheralBank.Proofs.Bench.Renewal
import PeripheralBank.Proofs.Bench.Width
import PeripheralBank.Proofs.Ring.Bounded
import PeripheralBank.Proofs.Bench.Fitting
import PeripheralBank.Proofs.Registry.Tied
import PeripheralBank.Proofs.Bench.Apart
import PeripheralBank.Proofs.Bench.Watched
import PeripheralBank.Proofs.Bench.Turns
import PeripheralBank.Proofs.Bench.Orderly
import PeripheralBank.Proofs.Bench.Faultless
import PeripheralBank.Proofs.Bench.Checked
import PeripheralBank.Proofs.Bench.Holding
import PeripheralBank.Proofs.Bench.Lent
import PeripheralBank.Proofs.Bench.Powered
import PeripheralBank.Proofs.Bench.Rated
import PeripheralBank.Proofs.Bench.Strategy
import PeripheralBank.Proofs.Registry.Handling
import PeripheralBank.Proofs.Registry.Transfers
import PeripheralBank.Proofs.Divider.Accuracy
import PeripheralBank.Proofs.Divider.Magnitude
import PeripheralBank.Proofs.Registry.Granted
import PeripheralBank.Proofs.Simulation.Echo
import PeripheralBank.Proofs.Simulation.Ticks
import PeripheralBank.Proofs.Divider.Exactness
import PeripheralBank.Proofs.Divider.Unbounded
import PeripheralBank.Proofs.Divider.Course
import PeripheralBank.Proofs.Bench.Draining
import PeripheralBank.Proofs.Bench.Counting
import PeripheralBank.Proofs.Bench.Lent
