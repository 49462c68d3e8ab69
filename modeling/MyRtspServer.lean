import MyRtspServer.Library.Scan
import MyRtspServer.Net.Buffer
import MyRtspServer.Net.SingleOwner
import MyRtspServer.Base.WorkConservation
import MyRtspServer.Base.Shutdown
import MyRtspServer.Net.AacContract
import MyRtspServer.Net.FuA
import MyRtspServer.Net.OneReply
import MyRtspServer.Net.Segmentation
import MyRtspServer.Net.Interleaved
import MyRtspServer.Net.Subscribers
import MyRtspServer.Net.PipelineRuns
import MyRtspServer.Net.TimerRuns
import MyRtspServer.Net.SetupSession
import MyRtspServer.Net.UrlRoundTrip
import MyRtspServer.Net.SetupTransport
import MyRtspServer.Net.SetupDelivers
import MyRtspServer.Net.DescribeLength
import MyRtspServer.Net.SdpCache
import MyRtspServer.Net.UdpSetup
import MyRtspServer.Net.Multicast
import MyRtspServer.Net.Demultiplex
import MyRtspServer.Net.Fragments
import MyRtspServer.Net.RtpStream
import MyRtspServer.Net.FanOut
import MyRtspServer.Net.H264Rewind
import MyRtspServer.Net.H264Backed
import MyRtspServer.Net.AacFrames
import MyRtspServer.Net.AdtsFields
import MyRtspServer.Net.AacPackets
import MyRtspServer.Net.TimerFirings
import MyRtspServer.Net.TimerLoop
import MyRtspServer.Net.TimerCallbacks
import MyRtspServer.Net.TimerArming
import MyRtspServer.Net.CallbackQueue
import MyRtspServer.Library.GrowingVector
import MyRtspServer.Net.TriggerEvents
import MyRtspServer.Net.StartCodeSearch
import MyRtspServer.Net.LocalIp
import MyRtspServer.Net.FailedAccept
import MyRtspServer.Net.Faults
import MyRtspServer.Net.LoopRefinement
import MyRtspServer.Net.Broadcast
import MyRtspServer.Net.InputBlocks
import MyRtspServer.Net.ClientStream
import MyRtspServer.Net.Threads
import MyRtspServer.Net.Progress
import MyRtspServer.Base.Log
import MyRtspServer.Net.FixedBuffers
import MyRtspServer.Net.SessionIdentifier
import MyRtspServer.Net.TransportParameters
import MyRtspServer.Net.ClientRequests
import MyRtspServer.Net.ClientState
import MyRtspServer.Net.ClientTransport
import MyRtspServer.Net.Subscription
import MyRtspServer.Net.Conversation
import MyRtspServer.Net.Delivery
import MyRtspServer.Net.H264Delivery
import MyRtspServer.Net.AacDelivery
