import DynamicGre.Packet.Safety
import DynamicGre.Packet.Stdout
import DynamicGre.Packet.Build
import DynamicGre.Packet.Layout
import DynamicGre.Folds
import DynamicGre.Hex
import DynamicGre.KeyedList
import DynamicGre.PcapFilter
import DynamicGre.Runs
import DynamicGre.Tunnel.CreateTunnel
import DynamicGre.Tunnel.TunnelParser
import DynamicGre.Tunnel.RoundTrip
import DynamicGre.Daemon.Kernel
import DynamicGre.Daemon.BuildFilter
import DynamicGre.Daemon.Loop
import DynamicGre.Daemon.Law
import DynamicGre.Packet.Captured
import DynamicGre.Registry
import DynamicGre.Daemon.Refinement
import DynamicGre.Daemon.Invariant
import DynamicGre.Daemon.History
import DynamicGre.Daemon.Admission
import DynamicGre.Daemon.Clients
import DynamicGre.Packet.Hexdump
import DynamicGre.Packet.Extension
import DynamicGre.Daemon.Names
import DynamicGre.Daemon.Socket
import DynamicGre.Tunnel.Order
import DynamicGre.Tunnel.LastWins
import DynamicGre.Daemon.Agreement
import DynamicGre.Prompt.Strtoul
import DynamicGre.FirstMatch
import DynamicGre.Prompt.Token
import DynamicGre.Prompt.SearchBridge
import DynamicGre.Prompt.SearchInterface
import DynamicGre.Dygre.Loop
import DynamicGre.Dygre.History
import DynamicGre.Daemon.Origin
import DynamicGre.Daemon.LastFrame
import DynamicGre.Daemon.Transparency
import DynamicGre.Daemon.TwoWay
import DynamicGre.Decimal
import DynamicGre.FilterSyntax
import DynamicGre.Daemon.FilterText
import DynamicGre.Ownership
import DynamicGre.Daemon.Objects
import DynamicGre.Daemon.Main
import DynamicGre.Dygre.Objects
import DynamicGre.Daemon.Selection
import DynamicGre.Dygre.FirstFrame
import DynamicGre.Packet.Transcript
import DynamicGre.Daemon.Output
import DynamicGre.Dygre.Output
import DynamicGre.Daemon.Netlink
import DynamicGre.Daemon.Recovery
import DynamicGre.Daemon.Snaplen
