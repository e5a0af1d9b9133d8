import GdpRouter.Semantics.Run
import GdpRouter.Semantics.Simulation
import GdpRouter.Semantics.Fairness
import GdpRouter.Semantics.Framing
import GdpRouter.Semantics.Multimap
import GdpRouter.Semantics.Forest
import GdpRouter.Semantics.Descent
import GdpRouter.Structs
import GdpRouter.Pipeline
import GdpRouter.TopicNames
import GdpRouter.TopicManager
import GdpRouter.SerdeJson
import GdpRouter.Network.Parse
import GdpRouter.Network.ParseSpec
import GdpRouter.Network.Receive
import GdpRouter.Network.Send
import GdpRouter.Network.RoundTrip
import GdpRouter.Network.Cutting
import GdpRouter.Network.PanicFreedom
import GdpRouter.Network.LengthIntegrity
import GdpRouter.Network.Recoverable
import GdpRouter.Network.Recovery
import GdpRouter.Network.DtlsReset
import GdpRouter.Network.DtlsBounds
import GdpRouter.Network.Datagrams
import GdpRouter.Network.SendFraming
import GdpRouter.Network.Deadlock
import GdpRouter.Network.UdpListener
import GdpRouter.Network.UdpDelivery
import GdpRouter.Network.UdpStreams
import GdpRouter.Network.UdpConnect
import GdpRouter.Network.UdpSession
import GdpRouter.ConnectionRib.Basic
import GdpRouter.ConnectionRib.History
import GdpRouter.ConnectionRib.Copies
import GdpRouter.ConnectionRib.Flush
import GdpRouter.ConnectionRib.Ahead
import GdpRouter.Deployment.Network
import GdpRouter.Deployment.Move
import GdpRouter.Deployment.Everywhere
import GdpRouter.Deployment.SplitHorizon
import GdpRouter.Deployment.Sources
import GdpRouter.Deployment.Paths
import GdpRouter.Deployment.LoopFreedom
import GdpRouter.Deployment.Conservation
import GdpRouter.Deployment.Advertising
import GdpRouter.Deployment.Delivery
import GdpRouter.Deployment.Echo
import GdpRouter.Deployment.Streams
import GdpRouter.Deployment.Shapes
import GdpRouter.Deployment.Integrity
import GdpRouter.Deployment.Bare
import GdpRouter.Deployment.Refinement
import GdpRouter.Deployment.StreamDelivery
import GdpRouter.Deployment.Rest
import GdpRouter.Deployment.Launch
import GdpRouter.Deployment.Publishers
import GdpRouter.Deployment.LateTopics
import GdpRouter.Deployment.CutOff
import GdpRouter.Deployment.Messages
import GdpRouter.Deployment.Relay
import GdpRouter.Deployment.Liveness
import GdpRouter.Deployment.Readiness
