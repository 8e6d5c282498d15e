import CloudFpga.Foundation.Machine
import CloudFpga.Foundation.Circular
import CloudFpga.Foundation.Clocked
import CloudFpga.Foundation.Transducer
import CloudFpga.Foundation.Packet
import CloudFpga.Foundation.Pool
import CloudFpga.Foundation.SlotArray
import CloudFpga.Foundation.Persistent
import CloudFpga.Foundation.Network
import CloudFpga.Nts.DataMover
import CloudFpga.Toe.Tables.RxSarTable
import CloudFpga.Toe.RxEngine.FiniteStateMachine
import CloudFpga.Toe.RxEngine.BufferSafety
import CloudFpga.Toe.RxEngine.Translation
import CloudFpga.Toe.RxEngine.PayloadAlignment
import CloudFpga.Toe.RxEngine.MemoryWriter
import CloudFpga.Toe.RxEngine.CloseNotification
import CloudFpga.Toe.RxEngine.StateMove
import CloudFpga.Toe.TxAppInterface.MemoryWriter
import CloudFpga.Toe.TxEngine.MemoryAddress
import CloudFpga.Toe.TxSystem
import CloudFpga.Toe.TxEngine.InitialSeqNum
import CloudFpga.Toe.TxEngine.LoaderCall
import CloudFpga.Toe.TxAppInterface.StreamMetaLoader
import CloudFpga.Toe.TxAppSystem
import CloudFpga.Toe.TxAppInterface.WriteStatus
import CloudFpga.Toe.CloseOrder
import CloudFpga.Toe.CloseSafety
import CloudFpga.ToeCam.Cam
import CloudFpga.Toe.PortTable
import CloudFpga.Toe.SessionLookupController
import CloudFpga.Toe.PortRelease
import CloudFpga.Toe.AckDelay
import CloudFpga.Toe.EventEngine
import CloudFpga.Toe.Timers
import CloudFpga.Toe.DataMoverCommands
import CloudFpga.Toe.ConnectionState
import CloudFpga.Toe.AtomicState
import CloudFpga.Toe.StateTable
import CloudFpga.Toe.TxAppInterface.AppConnect
import CloudFpga.Toe.RxAppInterface.AppSegmentStitcher
import CloudFpga.Toe.TxEngine.SegStitcher
import CloudFpga.Nal.Credits
import CloudFpga.Foundation.OnesComplement
import CloudFpga.Toe.AxisFields
import CloudFpga.Toe.SubChecksums
import CloudFpga.Toe.RxEngine.HalfShift
import CloudFpga.Toe.RxEngine.TcpPacket
import CloudFpga.Toe.RxEngine.TcpLengthExtractor
import CloudFpga.Toe.RxEngine.InsertPseudoHeader
import CloudFpga.Toe.RxEngine.CheckSumAccumulator
import CloudFpga.Nal.Tss.Connect
import CloudFpga.Foundation.FirstMatch
import CloudFpga.Foundation.Publisher
import CloudFpga.Nal.Hss.TcpAgency
import CloudFpga.Nal.Hss.AxiLite
import CloudFpga.Nal.StatusMemory
import CloudFpga.Nal.Hss.MrtAgency
import CloudFpga.Fmc.Publication
import CloudFpga.Foundation.Frame
import CloudFpga.Nal.Uss.UdpTx
import CloudFpga.Uoe.TxApplicationInterface
import CloudFpga.Nal.Uss.TxBoundaries
import CloudFpga.Nal.Tss.Grants
import CloudFpga.Nal.Tss.WriteBoundaries
import CloudFpga.Nal.PortRequests
import CloudFpga.Nal.Hss.PortBook
import CloudFpga.Uoe.AtomicDrop
import CloudFpga.Uoe.HeaderSchedule
import CloudFpga.Nal.Dequeue
import CloudFpga.Iprx.Acceptance
import CloudFpga.Iprx.FrontEnd
import CloudFpga.Iprx.PacketRouter
import CloudFpga.Iprx.Payload
import CloudFpga.Arp.PacketReceiver
import CloudFpga.Arp.PacketSender
import CloudFpga.Arp.Server
import CloudFpga.Arp.ServerAnswers
import CloudFpga.Fmc.Call
import CloudFpga.Fmc.Classification
import CloudFpga.Fmc.CompleteResponse
import CloudFpga.Fmc.Decoupling
import CloudFpga.Fmc.Detection
import CloudFpga.Fmc.OneResponse
import CloudFpga.Fmc.PageStream
import CloudFpga.Fmc.Rejection
import CloudFpga.Fmc.Upload
import CloudFpga.Foundation.Lane
import CloudFpga.Icmp.ChecksumChecker
import CloudFpga.Icmp.EchoReply
import CloudFpga.Icmp.EchoServer
import CloudFpga.Iprx.Isolation
import CloudFpga.Toe.PortReplies
import CloudFpga.Toe.RetransmitTimer
import CloudFpga.Toe.TxEngine.EventRun
import CloudFpga.Toe.TxEngine.Retransmission
import CloudFpga.Toe.TxEngine.Transmission
import CloudFpga.Uoe.TxDatagrams
import CloudFpga.Icmp.EchoFlow
import CloudFpga.Uoe.TxMessages
import CloudFpga.Icmp.EchoBlocked
import CloudFpga.Icmp.EchoService
import CloudFpga.Icmp.TwoSources
import CloudFpga.Iptx.Delivery
