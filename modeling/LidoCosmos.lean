import LidoCosmos.CosmWasm.Math
import LidoCosmos.CosmWasm.Messages
import LidoCosmos.Hub.State
import LidoCosmos.Hub.Slashing
import LidoCosmos.Hub.Bond
import LidoCosmos.Hub.Delegation
import LidoCosmos.Hub.Contract
import LidoCosmos.Hub.Ledger
import LidoCosmos.Hub.World
import LidoCosmos.Hub.Invariants
import LidoCosmos.Hub.Access
import LidoCosmos.Hub.Distribution
import LidoCosmos.Dispatcher.Contract
import LidoCosmos.Rewards
