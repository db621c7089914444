import Rteipc.Data.Run
import Rteipc.Data.IdHistory
import Rteipc.Data.Framing
import Rteipc.Data.Decimal
import Rteipc.Data.Base64
import Rteipc.Clib
import Rteipc.Table
import Rteipc.Table.Refinement
import Rteipc.Message
import Rteipc.Message.Stream
import Rteipc.Message.Blocking
import Rteipc.Ep.Spi
import Rteipc.Packet
import Rteipc.Packet.Emit
import Rteipc.Packet.Parse
import Rteipc.Packet.RoundTrip
import Rteipc.Packet.Document
import Rteipc.Endpoint
import Rteipc.Packet.Bounds
import Rteipc.Endpoint.Binding
import Rteipc.Rtemgrd
import Rteipc.Data.Partners
import Rteipc.Rtemgrd.Routes
import Rteipc.Endpoint.Registry
import Rteipc.Rtemgrd.Rollback
import Rteipc.Rtemgrd.Managed
import Rteipc.Table.Allocation
import Rteipc.Data.Ledger
import Rteipc.Rtemgrd.Ctlport
import Rteipc.Rtemgrd.Pending
import Rteipc.Ep.Ipc
import Rteipc.Rtemgrd.Absent
import Rteipc.Rtemgrd.Encode
import Rteipc.Rtemgrd.Payload
import Rteipc.Endpoint.Pair
import Rteipc.Endpoint.Returns
import Rteipc.Rtemgrd.Connections
import Rteipc.Rtemgrd.Control
import Rteipc.Rtemgrd.Loops
import Rteipc.Rtemgrd.Answers
import Rteipc.Rtemgrd.Requests
import Rteipc.Ep.Loop
import Rteipc.Table.Live
import Rteipc.Packet.WorkBuffer
import Rteipc.Rtemgrd.Sender
import Rteipc.Packet.Texts
import Rteipc.Ep.Files
import Rteipc.Data.Relay
import Rteipc.Ep.Flow
import Rteipc.Data.Owned
import Rteipc.Ep.Bus
import Rteipc.Ep.Batch
import Rteipc.Data.LockUse
import Rteipc.Connect
import Rteipc.Connect.Lock
import Rteipc.Data.Handles
import Rteipc.Connect.Callbacks
import Rteipc.Rtemgrd.Tokens
import Rteipc.Rtemgrd.Transfers
import Rteipc.Rtemgrd.Cat
import Rteipc.Connect.Send
import Rteipc.Ep.Requests
import Rteipc.Ep.Sysfs
import Rteipc.Data.Scan
import Rteipc.Endpoint.Uri
import Rteipc.Connect.Inet
import Rteipc.Clib.Scanf
import Rteipc.Ep.Devices
import Rteipc.Rtemgr.Parser
import Rteipc.Rtemgr.Parameters
import Rteipc.Rtemgr.Speeds
import Rteipc.Rtemgr.Lines
import Rteipc.Message.Write
import Rteipc.Data.Links
import Rteipc.List
import Rteipc.List.Sequence
import Rteipc.Ep.Tty
import Rteipc.Ep.Terminal
import Rteipc.Registration
import Rteipc.Ep.LoopNames
import Rteipc.Rtemgrd.Listing
import Rteipc.Rtemgr.Options
import Rteipc.Data.Server
import Rteipc.Message.Loop
import Rteipc.Ep.Gpio
import Rteipc.Ep.Bridge
import Rteipc.Ep.Served
import Rteipc.Ep.ServedBus
import Rteipc.Rtemgr.Decode
import Rteipc.Rtemgrd.GpioLines
import Rteipc.Rtemgrd.Relay
import Rteipc.Rtemgrd.Routed
import Rteipc.Rtemgrd.Owners
import Rteipc.Rtemgrd.Survives
import Rteipc.Rtemgrd.Pairs
import Rteipc.Rtemgr.Client
import Rteipc.Rtemgr.Told
import Rteipc.Data.Switchboard
import Rteipc.Rtemgrd.Board
import Rteipc.Rtemgr.Listed
