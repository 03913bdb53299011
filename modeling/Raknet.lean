import Raknet.Error
import Raknet.Facade.Client
import Raknet.Facade.ClientEvents
import Raknet.Facade.ClientHandshake
import Raknet.Facade.ConnectionIo
import Raknet.Facade.GhostPeers
import Raknet.Facade.HandshakeSends
import Raknet.Facade.MtuAgreement
import Raknet.Facade.PeerEvents
import Raknet.Facade.Server
import Raknet.Facade.SessionIds
import Raknet.Handshake.Kinds
import Raknet.Handshake.OfflinePacket
import Raknet.Handshake.Request2
import Raknet.Handshake.RoundTrip
import Raknet.Lib.Circular
import Raknet.Lib.Codec
import Raknet.Lib.Containers
import Raknet.Lib.F64
import Raknet.Lib.Heap
import Raknet.Lib.Inverse
import Raknet.Lib.Machine
import Raknet.Lib.Meter
import Raknet.Lib.Saturating
import Raknet.Lib.Service
import Raknet.Lib.Tally
import Raknet.Protocol.Ack
import Raknet.Protocol.Datagram
import Raknet.Protocol.Frame
import Raknet.Protocol.Reliability
import Raknet.Protocol.Sequence24
import Raknet.Receive.Accounting
import Raknet.Receive.Acknowledgement
import Raknet.Receive.Channels
import Raknet.Receive.Compounds
import Raknet.Receive.Duplicates
import Raknet.Receive.Gaps
import Raknet.Receive.Ingest
import Raknet.Receive.Reassembly
import Raknet.Receive.SeenSet
import Raknet.Receive.Streams
import Raknet.Receive.Union
import Raknet.Relay.Budget
import Raknet.Send.Allocation
import Raknet.Send.Budgets
import Raknet.Send.Footprint
import Raknet.Send.Framing
import Raknet.Send.History
import Raknet.Send.Keys
import Raknet.Send.Limits
import Raknet.Send.Metrics
import Raknet.Send.Parts
import Raknet.Send.Queue
import Raknet.Send.Receipts
import Raknet.Send.Refinement
import Raknet.Send.ServiceOrder
import Raknet.Send.Tracking
import Raknet.Send.View
import Raknet.Send.Window
import Raknet.Session.AckQueue
import Raknet.Session.Congestion
import Raknet.Session.Inbound
import Raknet.Session.OrderingChannels
import Raknet.Session.Outbound
import Raknet.Session.ReliableTracker
import Raknet.Session.Resend
import Raknet.Session.Run
import Raknet.Session.SplitAssembler
import Raknet.Session.State
import Raknet.Session.Tick
import Raknet.Session.Tunables
import Raknet.Transfer.ExactlyOnce
import Raknet.Transfer.OrderedPrefix
import Raknet.Transfer.OrderingAgreement
import Raknet.Transfer.SplitInverse
import Raknet.Transfer.WindowBase
import Raknet.Transport.Agreement
import Raknet.Transport.Answers
import Raknet.Transport.Bans
import Raknet.Transport.BudgetBound
import Raknet.Transport.Config
import Raknet.Transport.CookieGate
import Raknet.Transport.CookieReuse
import Raknet.Transport.Counters
import Raknet.Transport.DatagramChange
import Raknet.Transport.EarnedBlocks
import Raknet.Transport.Failures
import Raknet.Transport.FrameLoop
import Raknet.Transport.Guards
import Raknet.Transport.HandshakeSteps
import Raknet.Transport.Ledger
import Raknet.Transport.LimiterBooks
import Raknet.Transport.MtuFit
import Raknet.Transport.Offline
import Raknet.Transport.OfflineChange
import Raknet.Transport.PeerSteps
import Raknet.Transport.Peers
import Raknet.Transport.Pipeline
import Raknet.Transport.PipelineAccounts
import Raknet.Transport.RateLimiter
import Raknet.Transport.RateWindows
import Raknet.Transport.Receive
import Raknet.Transport.ReleaseOrder
import Raknet.Transport.Run
import Raknet.Transport.Server
import Raknet.Transport.SessionSteps
import Raknet.Transport.Snapshot
import Raknet.Transport.Steps
import Raknet.Transport.TableLimits
import Raknet.Transport.Tallies
import Raknet.Transport.Upkeep
import Raknet.Wire.Connected
import Raknet.Wire.Datagram
import Raknet.Wire.Emitted
import Raknet.Wire.Frame
import Raknet.Wire.Primitives
import Raknet.Wire.Reencode
