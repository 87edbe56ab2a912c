import RdmaKvCache.Connector.SlotBases
import RdmaKvCache.Connector.SendQueues
import RdmaKvCache.Cluster.SlotAddresses
import RdmaKvCache.Cluster.AdmittedBuffers
import RdmaKvCache.Orchestrator.AnsweredRequests
import RdmaKvCache.Orchestrator.ClusterReadiness
import RdmaKvCache.Orchestrator.MemberBroadcast
import RdmaKvCache.Orchestrator.ResponseRouting
import RdmaKvCache.Cluster.RoutableNodes
import RdmaKvCache.Cluster.RequestContents
import RdmaKvCache.Cluster.LeftoverMemory
import RdmaKvCache.Cluster.KvContents
import RdmaKvCache.Node.PortChoices
import RdmaKvCache.Node.WorkerPool
import RdmaKvCache.Node.RdmaReadiness
import RdmaKvCache.Node.QueuePairEnds
import RdmaKvCache.Node.NodeExits
import RdmaKvCache.Node.LayerReports
import RdmaKvCache.Node.LayerExtents
import RdmaKvCache.Node.RequestStates
import RdmaKvCache.Rdma.RecvDrain
import RdmaKvCache.Node.RecvCompletions
import RdmaKvCache.Node.DecodeTriggers
import RdmaKvCache.Node.InferenceRequests
import RdmaKvCache.Orchestrator.SlotLeaks
import RdmaKvCache.Orchestrator.SlotOrder
import RdmaKvCache.Orchestrator.RoundRobins
import RdmaKvCache.Orchestrator.BestNodes
import RdmaKvCache.Orchestrator.CapacityRejections
import RdmaKvCache.Orchestrator.RefusedRequests
import RdmaKvCache.Orchestrator.NodeLoads
import RdmaKvCache.Orchestrator.ExchangeLocks
import RdmaKvCache.Orchestrator.RequestExpiry
import RdmaKvCache.Orchestrator.FinishedRequests
import RdmaKvCache.Cluster.TransferCompleteness
import RdmaKvCache.Cluster.LayerCredits
import RdmaKvCache.Cluster.LayerDelivery
import RdmaKvCache.Cluster.ForwardedFrames
import RdmaKvCache.Cluster.SlotOwnership
import RdmaKvCache.Common.WireMessages
import RdmaKvCache.Common.NodeIds
import RdmaKvCache.Epoll.MessageChannels
import RdmaKvCache.Epoll.ClosedConnections
import RdmaKvCache.Epoll.ListCounts
import RdmaKvCache.Epoll.WriteInterest
import RdmaKvCache.Epoll.Descriptors
import RdmaKvCache.Orchestrator.LockWaits
import RdmaKvCache.Node.NodeLocks
import RdmaKvCache.Connector.RegisteredMemory
import RdmaKvCache.Connector.SaveBarriers
import RdmaKvCache.Rdma.EngineShutdown
import RdmaKvCache.Rdma.RefusedWrites
import RdmaKvCache.Client.BenchmarkClient
