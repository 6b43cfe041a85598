import Cortado.Lib.Outcome
import Cortado.Tunnel
import Cortado.Linux.Boot
import Cortado.Linux.ProxyPin
import Cortado.Linux.RoutePolicy
import Cortado.Linux.ReloadEquivalence
import Cortado.HotReload
import Cortado.Dns.Reader
import Cortado.Dns.Pool
import Cortado.Dns.PoolStep
import Cortado.Dns.PoolFrame
import Cortado.Dns.Capacity
import Cortado.Dns.ProxySwitch
import Cortado.Dns.Multiplex
import Cortado.Dns.Stranding
import Cortado.Dns.Delivery
import Cortado.Dns.Ownership
import Cortado.Dns.Link
import Cortado.Linux.ResolvHistory
import Cortado.Socks.UdpCodec
import Cortado.Lib.CrashScript
import Cortado.Linux.ResolvCrash
import Cortado.Lib.FaultStream
import Cortado.Linux.Teardown
import Cortado.Linux.TeardownCoverage
import Cortado.Linux.UserRoutes
import Cortado.FieldCoverage
import Cortado.Lib.Channel
import Cortado.Lib.Handover
import Cortado.Udp.Relay
import Cortado.Udp.RelayStep
import Cortado.Udp.SessionTable
import Cortado.Udp.Delivery
import Cortado.Dns.IdSearch
import Cortado.Dns.InflightBound
import Cortado.Lib.BitPrefix
import Cortado.Lib.CheckedArith
import Cortado.Net.RouteExact
import Cortado.Tuning
import Cortado.Lib.Pieces
import Cortado.Windows.TunUplink
import Cortado.Lib.Dialogue
import Cortado.Socks.Handshake
import Cortado.Lib.Ledger
import Cortado.Stats
import Cortado.Dns.Progress
import Cortado.Dns.Retry
import Cortado.Udp.Shutdown
import Cortado.Lib.Text
import Cortado.Macos.Dns
import Cortado.Lib.Overlay
import Cortado.Lib.Shell
import Cortado.Macos.Routes
import Cortado.Macos.Teardown
import Cortado.Macos.Unrecorded
import Cortado.Macos.ZoneGateway
import Cortado.DnsGateway
import Cortado.Lib.Gauge
import Cortado.Tcp.Acceptor
import Cortado.DataPath
import Cortado.Lib.Custody
import Cortado.Windows.Netsh
import Cortado.Windows.Teardown
