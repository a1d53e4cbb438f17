import PrivateExecution.Relay.HalfOpen
import PrivateExecution.Relay.Finality
import PrivateExecution.LimitEngine.Executor
import PrivateExecution.Market.Port
import PrivateExecution.LimitEngine.Ledger
import PrivateExecution.Chain.Broadcast
import PrivateExecution.AttemptStore.Refinement
import PrivateExecution.Audit.Writer
import PrivateExecution.Privy.Commitment
import PrivateExecution.Simulation.ClmmCoherence
import PrivateExecution.Policy.WalletHistory
import PrivateExecution.Realtime.Synchrony
import PrivateExecution.Recovery.Store
import PrivateExecution.Routing.Ceiling
import PrivateExecution.Session.Stream
import PrivateExecution.Web.Command
import PrivateExecution.LimitEngine.Settlement
import PrivateExecution.Market.Batcher
import PrivateExecution.Routing.SplitSearch
import PrivateExecution.Routing.Selection
import PrivateExecution.Broker.Bucket
import PrivateExecution.Market.Redelivery
import PrivateExecution.Realtime.Batching
import PrivateExecution.Realtime.Worker
import PrivateExecution.Simulation.BinDrain
import PrivateExecution.Simulation.TickOrder
import PrivateExecution.Twap.Rfq
import PrivateExecution.Market.Reconcile
import PrivateExecution.Realtime.Chart
import PrivateExecution.Realtime.Target
import PrivateExecution.Session.Replay
