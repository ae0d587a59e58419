import MultiPhyTsch.Coap.Block2
import MultiPhyTsch.Coap.Observe
import MultiPhyTsch.Coap.OwnershipKept
import MultiPhyTsch.Coap.ParseContract
import MultiPhyTsch.Coffee.LogSearch
import MultiPhyTsch.Csma.CsmaContract
import MultiPhyTsch.Frame.IeAcceptance
import MultiPhyTsch.Frame.IeRoundTrip
import MultiPhyTsch.Frame.IeWrites
import MultiPhyTsch.Ipv6.Forwarding
import MultiPhyTsch.Ipv6.RemoveExtHdr
import MultiPhyTsch.Ipv6.RouteInsertion
import MultiPhyTsch.Lib.HeapOversized
import MultiPhyTsch.Lib.RingBufCalls
import MultiPhyTsch.Lowpan.InputBounds
import MultiPhyTsch.Lowpan.NhcRoundTrip
import MultiPhyTsch.Mac.DuplicateFilter
import MultiPhyTsch.Net.LinkStats
import MultiPhyTsch.Net.NbrTableContract
import MultiPhyTsch.Orchestra.EbPerTimeSource
import MultiPhyTsch.Orchestra.UnicastStoring
import MultiPhyTsch.Rpl.ControlBounds
import MultiPhyTsch.Rpl.DaoReachability
import MultiPhyTsch.Rpl.DioRoundTrip
import MultiPhyTsch.Rpl.DioTrickle
import MultiPhyTsch.Rpl.HeaderTransparency
import MultiPhyTsch.Rpl.RankLimit
import MultiPhyTsch.Rpl.SourceReach
import MultiPhyTsch.Rpl.SrhArithmetic
import MultiPhyTsch.Sixtop.EventOrder
import MultiPhyTsch.Sixtop.OutputFailure
import MultiPhyTsch.Sixtop.SentCallback
import MultiPhyTsch.Sixtop.SixpFieldContract
import MultiPhyTsch.Sixtop.SixpPktFormat
import MultiPhyTsch.Sys.CtimerOnce
import MultiPhyTsch.Sys.EventQueue
import MultiPhyTsch.Sys.ProcessLife
import MultiPhyTsch.Tcp.ReceiveAccounting
import MultiPhyTsch.Tsch.Association
import MultiPhyTsch.Tsch.Backoff
import MultiPhyTsch.Tsch.Burst
import MultiPhyTsch.Tsch.ChannelRendezvous
import MultiPhyTsch.Tsch.Compensation
import MultiPhyTsch.Tsch.DeadlineCheck
import MultiPhyTsch.Tsch.EackRoundTrip
import MultiPhyTsch.Tsch.EbMonitor
import MultiPhyTsch.Tsch.ElapsedSlots
import MultiPhyTsch.Tsch.InFlight
import MultiPhyTsch.Tsch.LinkCounters
import MultiPhyTsch.Tsch.LockHandshake
import MultiPhyTsch.Tsch.RxAcceptance
import MultiPhyTsch.Tsch.SlotClock
import MultiPhyTsch.Tsch.SlotframePhy
