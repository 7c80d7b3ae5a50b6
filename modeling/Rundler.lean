import Rundler.Types.Primitives
import Rundler.Types.Abi
import Rundler.Types.UserOperation
import Rundler.Types.EntryPointLike
import Rundler.Sim.AssociatedSlots
import Rundler.Sim.StorageAccess
import Rundler.Sim.Simulation
import Rundler.Builder.Setup
import Rundler.Builder.Supervisor
