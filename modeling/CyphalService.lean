import CyphalService.Pnp.Range
import CyphalService.Pnp.Stability
import CyphalService.Pnp.Queue
import CyphalService.Lib.Utf8
import CyphalService.Lib.Logged
import CyphalService.Transport.State
import CyphalService.Transport.Worker
import CyphalService.Transport.Spec
import CyphalService.Transport.Served
import CyphalService.Transport.Managed
import CyphalService.Transport.Identity
import CyphalService.Transport.Dispatch
import CyphalService.Transport.Refinement
import CyphalService.Transport.Replies
import CyphalService.Transport.Handle
import CyphalService.Pnp.FirstFit
import CyphalService.Pnp.RateLimit
import CyphalService.Pnp.Resolution
import CyphalService.Lib.Unwinding
import CyphalService.Pnp.Reopen
import CyphalService.Lib.Agreement
import CyphalService.Transport.Operators
import CyphalService.Transport.Reception
import CyphalService.Transport.NodeIds
import CyphalService.Transport.Ledger
import CyphalService.Lib.Interleaving
import CyphalService.Pnp.Shared
import CyphalService.Pnp.Shared.Knowledge
import CyphalService.Pnp.Shared.Distinct
import CyphalService.Pnp.Shared.Agreement
import CyphalService.Pnp.Shared.Faults
import CyphalService.Transport.Outstanding
import CyphalService.Lib.History
import CyphalService.Transport.NodeList
import CyphalService.GsUsb.Codec
import CyphalService.GsUsb.Receive
import CyphalService.GsUsb.Bittiming
import CyphalService.GsUsb.Faultless
import CyphalService.GsUsb.Open
import CyphalService.GsUsb.Configured
import CyphalService.Cli.Commands
import CyphalService.Lib.Watch
import CyphalService.Cli.Repl
import CyphalService.Cli.Foreground
import CyphalService.Cli.Shutdown
import CyphalService.Lib.Environment
import CyphalService.Lib.Fallible
import CyphalService.GsUsb.Interface
import CyphalService.GsUsb.Requests
import CyphalService.GsUsb.Device
import CyphalService.GsUsb.Adapter
import CyphalService.GsUsb.Opening
import CyphalService.GsUsb.Session
import CyphalService.GsUsb.Compatible
import CyphalService.Transport.Calls
import CyphalService.Transport.Overview
import CyphalService.Cli.Daemon
import CyphalService.Lib.Waiting
import CyphalService.Transport.Allocations
import CyphalService.Transport.Settlement
import CyphalService.Lib.Periodic
import CyphalService.Transport.Deadlines
import CyphalService.Transport.Uptime
import CyphalService.Lib.Utf8Encode
import CyphalService.Transport.NodeInfo
import CyphalService.Cli.Builtin
import CyphalService.Cli.Session
import CyphalService.Lib.Queueing
import CyphalService.Transport.Turns
import CyphalService.Transport.Identification
import CyphalService.Lib.Atomicity
import CyphalService.Lib.Sites
import CyphalService.Pnp.Shared.Files
import CyphalService.Pnp.Identity
