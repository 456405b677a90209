import MctpEmu.Control.RoundTrips
import MctpEmu.Phys.BlockWrite
import MctpEmu.Phys.SourceAddress
import MctpEmu.Endpoint.AssignedEid
import MctpEmu.Endpoint.PacketErrorCode
import MctpEmu.Endpoint.TwoParty
import MctpEmu.Network.Framing
import MctpEmu.Network.Malformed
import MctpEmu.Network.Sendto
import MctpEmu.Network.Progress
import MctpEmu.Network.Sockets
import MctpEmu.Network.Exchanges
import MctpEmu.Network.Cancellation
import MctpEmu.Network.ControlReplies
import MctpEmu.BusOwner.Pool
import MctpEmu.BusOwner.Correlation
import MctpEmu.BusOwner.Datagrams
import MctpEmu.BusOwner.Counters
import MctpEmu.BusOwner.Offers
import MctpEmu.BusOwner.FleetProgress
import MctpEmu.BusOwner.Work
import MctpEmu.Deployment.Completion
