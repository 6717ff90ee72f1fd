import Admission.Executor.Session
import Admission.Gateway.Pool
import Admission.Gateway.Remote
import Admission.Limited.Trial
import Admission.Listener.Trial
import Admission.Partition.Trial
import Admission.Proofs.Gate.Tally
import Admission.Proofs.Session.Moves
import Admission.Session
import Admission.Proofs.Gate.Refinement
import Admission.Proofs.Waiting.Line
import Admission.Proofs.Waiting.Turns
import Admission.Proofs.Waiting.Governed
import Admission.Proofs.Waiting.Stranding
import Admission.Proofs.Waiting.Idle
import Admission.Proofs.Waiting.Order
import Admission.Proofs.Waiting.Bookkeeping
import Admission.Proofs.Desk.Calls
import Admission.Proofs.Executor.Halls
import Admission.Proofs.Executor.Courses
import Admission.Proofs.Executor.Arrangement
import Admission.Proofs.Executor.Orders
import Admission.Proofs.Agenda
import Admission.Proofs.Executor.Moves
import Admission.Proofs.Executor.Staffed
import Admission.Proofs.Executor.Outcomes
import Admission.Proofs.Executor.Batches
import Admission.Proofs.Gateway.Stories
import Admission.Proofs.Gateway.Turns
import Admission.Proofs.Gateway.Moves
import Admission.Proofs.Gateway.Houses
import Admission.Proofs.Gateway.Brackets
import Admission.Proofs.Waiting.Promises
import Admission.Proofs.FirstUse
import Admission.Proofs.Partition.Destinations
import Admission.Proofs.Session.Calls
import Admission.Proofs.Partition.Resolving
import Admission.Proofs.Partition.Routing
import Admission.Proofs.Session.Separation
import Admission.Proofs.Partition.Isolation
import Admission.Proofs.Interleaving
import Admission.Proofs.Partition.Crowds
import Admission.Proofs.Nesting.Agreement
import Admission.Proofs.Executor.Cancelling
import Admission.Proofs.Nesting.Records
import Admission.Proofs.Executor.AllOrNothing
import Admission.Proofs.Waiting.Deadlines
import Admission.Proofs.Waiting.GivingUp
import Admission.Proofs.Waiting.Raises
import Admission.Proofs.Partition.LostPlaces
import Admission.Proofs.Limited
import Admission.Proofs.Algorithm.Increase
import Admission.Proofs.Algorithm.Bounds
import Admission.Proofs.Http.Hosts
import Admission.Proofs.Double.Order
import Admission.Proofs.Partition.Weights
import Admission.Proofs.Partition.Sizes
import Admission.Proofs.Double.Nearness
import Admission.Proofs.Double.Sums
import Admission.Proofs.Partition.Splitting
import Admission.Proofs.Partition.Proportions
import Admission.Proofs.Executor.Working
import Admission.Proofs.Listener.Chains
import Admission.Proofs.Listener.Lives
