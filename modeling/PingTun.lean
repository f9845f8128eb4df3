import PingTun.Address
import PingTun.Bytes
import PingTun.Checksum
import PingTun.CommandLine.Arguments
import PingTun.CommandLine.Directory
import PingTun.CommandLine.Outcome
import PingTun.CommandLine.Pinging
import PingTun.CommandLine.Run
import PingTun.CommandLine.Tunneling
import PingTun.Config.Basic
import PingTun.Config.File
import PingTun.Config.Printer
import PingTun.Config.Reader
import PingTun.Decimal.Binary64
import PingTun.Decimal.Shortest
import PingTun.Echo.Reply
import PingTun.Echo.Request
import PingTun.Echo.SendError
import PingTun.Errno
import PingTun.Event
import PingTun.Host.Basic
import PingTun.Host.Call
import PingTun.IoError
import PingTun.Json.Fault
import PingTun.Json.Reader
import PingTun.Json.Scan
import PingTun.Json.ScanNumber
import PingTun.Json.Skip
import PingTun.Main
import PingTun.Network
import PingTun.Probe.Basic
import PingTun.Probe.Clock
import PingTun.Probe.Inbox
import PingTun.Probe.Sending
import PingTun.Probe.Simulation
import PingTun.Probe.State
import PingTun.Probe.Waiting
import PingTun.Proofs.Echo.Answer
import PingTun.Proofs.Probe.Exchange
import PingTun.Proofs.Probe.Fragmenting
import PingTun.Proofs.Probe.Listening
import PingTun.Proofs.Probe.Promises
import PingTun.Proofs.Probe.Reading
import PingTun.Proofs.Probe.Sends
import PingTun.Proofs.Probe.Simulated
import PingTun.Proofs.Probe.StandIn
import PingTun.Proofs.Probe.Timers
import PingTun.Proofs.Probe.Trace
import PingTun.Proofs.Probe.Waits
import PingTun.Text.Hidden
import PingTun.Text.Numeral
import PingTun.Text.Quoted
import PingTun.Text.Terminal
import PingTun.Text.Utf8
import PingTun.Tunnel.Control
import PingTun.Tunnel.InterfaceName
import PingTun.Tunnel.Linux
import PingTun.Tunnel.MacOS
import PingTun.Tunnel.Provisioner
import PingTun.Tunnel.Rehearsal
import PingTun.Proofs.Probe.Lifetime
import PingTun.Proofs.Probe.Sequence
import PingTun.Proofs.Probe.SocketMode
import PingTun.Proofs.Host.Calls
import PingTun.Proofs.Text.Numerals
import PingTun.Proofs.Tunnel.Naming
import PingTun.Proofs.Host.Books
import PingTun.Proofs.Tunnel.Exclusive
import PingTun.Proofs.Tunnel.Race
import PingTun.Proofs.Tunnel.Candidates
import PingTun.Proofs.Text.Addresses
import PingTun.Proofs.Json.Written
import PingTun.Proofs.Json.Objects
import PingTun.Proofs.Config.RoundTrip
import PingTun.Proofs.Probe.Unread
import PingTun.Proofs.Probe.States
import PingTun.Proofs.Host.Ledger
import PingTun.Proofs.Tunnel.Balance
import PingTun.Proofs.Json.Grammar
import PingTun.Proofs.Json.Strings
import PingTun.Proofs.Json.Numbers
import PingTun.Proofs.Json.Extent
import PingTun.Proofs.Json.Scalars
import PingTun.Proofs.Json.Clauses
import PingTun.Proofs.Json.Records
import PingTun.Proofs.Config.Documents
import PingTun.Proofs.Checksum.Sums
import PingTun.Proofs.Checksum.Reference
import PingTun.Proofs.Checksum.Storing
import PingTun.Proofs.Probe.Curtailed
import PingTun.Proofs.Probe.Orphans
import PingTun.Proofs.Tunnel.Mtus
import PingTun.Proofs.Tunnel.Protocol
import PingTun.Proofs.Echo.Verdicts
import PingTun.Proofs.Echo.Recognition
import PingTun.Proofs.Echo.Corruption
import PingTun.Proofs.Echo.Loopback
import PingTun.Proofs.Probe.Collecting
import PingTun.Proofs.CommandLine.Windows
import PingTun.Proofs.Echo.Layout
import PingTun.Proofs.Tunnel.Attempts
import PingTun.Proofs.Probe.Acceptance
import PingTun.Proofs.Tunnel.Settings
import PingTun.Proofs.Json.Fronts
import PingTun.Proofs.Json.Foresight
import PingTun.Proofs.Config.Failures
import PingTun.Proofs.CommandLine.Attribution
import PingTun.Proofs.CommandLine.Paths
import PingTun.Proofs.Tunnel.Buffers
