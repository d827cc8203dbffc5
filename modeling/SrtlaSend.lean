import SrtlaSend.Lib.MachineInt
import SrtlaSend.Lib.FiniteMap
import SrtlaSend.Lib.Run
import SrtlaSend.Lib.FirstMax
import SrtlaSend.Lib.Pointwise
import SrtlaSend.Protocol.Wire
import SrtlaSend.Core.Seq
import SrtlaSend.Core.Rtt
import SrtlaSend.Core.Congestion
import SrtlaSend.Core.BatchSend
import SrtlaSend.Core.Reconnection
import SrtlaSend.Core.Config
import SrtlaSend.Lib.FloatRounding
import SrtlaSend.Core.Connection
import SrtlaSend.Core.AckNak
import SrtlaSend.Core.Quality
import SrtlaSend.Core.Selection
import SrtlaSend.Core.Priority
import SrtlaSend.Core.Registration
import SrtlaSend.Sender.Sequence
import SrtlaSend.Sender.ClientDedup
import SrtlaSend.Sender.UplinkRecv
import SrtlaSend.Sender.Connections
import SrtlaSend.Sender.PacketHandler
import SrtlaSend.Sender.Rehome
import SrtlaSend.Sender.Housekeeping
import SrtlaSend.Sender.EventLoop
import SrtlaSend.Properties.SelectionFrame
import SrtlaSend.Properties.Selection
import SrtlaSend.Properties.RegistrationGate
import SrtlaSend.Properties.LinkAccounting
import SrtlaSend.Properties.CumulativeAck
import SrtlaSend.Properties.ProbeCredit
import SrtlaSend.Properties.Routing
import SrtlaSend.Properties.GroupId
import SrtlaSend.Properties.SlotRelease
import SrtlaSend.Properties.UplinkGate
import SrtlaSend.Lib.DwellLatch
import SrtlaSend.Properties.AllFailed
import SrtlaSend.Properties.GuardOff
import SrtlaSend.Properties.LossList
import SrtlaSend.Properties.OneReceiver
import SrtlaSend.Properties.PayloadAck
import SrtlaSend.Properties.SoleCarrier
import SrtlaSend.Properties.StallLatch
import SrtlaSend.Properties.PassRuns
import SrtlaSend.Core.LinkCc
import SrtlaSend.Lib.RingLog
import SrtlaSend.Lib.TrialPause
import SrtlaSend.Properties.BackoffEfficacy
import SrtlaSend.Properties.ClientDedup
import SrtlaSend.Properties.HandshakeLatency
import SrtlaSend.Properties.WindowedMin
import SrtlaSend.Core.Classifier
import SrtlaSend.Lib.Retest
import SrtlaSend.Lib.Text
import SrtlaSend.Properties.BatchFlush
import SrtlaSend.Properties.IpFile
import SrtlaSend.Properties.NakAttribution
import SrtlaSend.Properties.Probation
import SrtlaSend.Lib.SerialNumber
import SrtlaSend.Properties.SerialOrder
import SrtlaSend.Properties.WireCodecs
import SrtlaSend.Control.Config
import SrtlaSend.Control.Dispatch
import SrtlaSend.Control.Sessions
import SrtlaSend.Lib.LineReader
import SrtlaSend.Control.ClientStreams
import SrtlaSend.Properties.ControlProtocol
import SrtlaSend.Properties.ClientStreams
import SrtlaSend.Properties.PriorityWindow
import SrtlaSend.Lib.SideLane
import SrtlaSend.Properties.Relay
import SrtlaSend.Properties.RunLoop
import SrtlaSend.Properties.Subscriptions
import SrtlaSend.Properties.UplinkTasks
import SrtlaSend.Lib.ResetQueue
import SrtlaSend.Properties.Delivery
import SrtlaSend.Properties.RetryPacing
