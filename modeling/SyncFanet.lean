import SyncFanet.Library.VersionLog
import SyncFanet.Olsr.ConvergedRouting
import SyncFanet.Olsr.AdvertisedSet
import SyncFanet.Olsr.MirroredNeighbors
import SyncFanet.Olsr.TopologyFreshness
import SyncFanet.Olsr.RouteConditions
import SyncFanet.Olsr.DuplicateSet
import SyncFanet.Olsr.OwnAddresses
import SyncFanet.Olsr.HelloExchange
import SyncFanet.Olsr.ExpiredTuples
import SyncFanet.Olsr.TimerOwnership
import SyncFanet.Olsr.PeriodicTimers
import SyncFanet.Olsr.DistributionRuns
import SyncFanet.OlsrEtx.MprCoverage
import SyncFanet.OlsrEtx.LossFreeLink
import SyncFanet.OlsrEtx.FullRoutes
import SyncFanet.OlsrOpt.TopologyUpdate
import SyncFanet.OlsrEtx.Messages
import SyncFanet.Base.RouteTracing
import SyncFanet.Base.StoreAgreement
import SyncFanet.Dsr.LearnedPaths
import SyncFanet.Base.GlobalRoutes
import SyncFanet.Base.RouteStores
import SyncFanet.Olsr.MessageArrays
import SyncFanet.Olsr.DistributionPath
import SyncFanet.Dsr.SourceRouteRuns
import SyncFanet.Dsr.Forwarding
import SyncFanet.Dsr.MaintBuffer
import SyncFanet.Dsr.MaintRuns
import SyncFanet.Dsr.FalseLinkBreaks
import SyncFanet.Dsr.MaintAccounting
import SyncFanet.Dsr.PathStoreMap
import SyncFanet.Dsr.LinkRemoval
import SyncFanet.Dsr.LinkRouteRuns
import SyncFanet.Dsr.CostVector
import SyncFanet.Dsr.RouteDiscovery
import SyncFanet.Dsr.RestartRuns
import SyncFanet.Dsr.RouteErrors
import SyncFanet.Dsr.SalvageRuns
import SyncFanet.Dsr.ErrorTargets
import SyncFanet.Dsr.SendBuffer
import SyncFanet.Dsr.HostReceive
import SyncFanet.Dsr.KnownRoutes
import SyncFanet.Dsr.BufferedPackets
import SyncFanet.Dsr.BufferRuns
import SyncFanet.Library.Ring
import SyncFanet.OlsrEtx.LossWindow
import SyncFanet.OlsrEtx.MissedPackets
import SyncFanet.OlsrEtx.SendPkt
import SyncFanet.Library.LeastOf
import SyncFanet.OlsrEtx.Nb2hopQuality
import SyncFanet.Ping.PingRuns
import SyncFanet.Ping.Statistics
import SyncFanet.OlsrEtx.DijkstraMaps
import SyncFanet.OlsrEtx.InsertedRoutes
import SyncFanet.OlsrEtx.OptimalRun
import SyncFanet.Library.Guarded
import SyncFanet.Library.TimerTable
import SyncFanet.Xmac.Armings
import SyncFanet.Xmac.HandledEvents
import SyncFanet.Xmac.PacketService
import SyncFanet.Xmac.StuckStates
import SyncFanet.Base.RouteWriters
import SyncFanet.Dsr.AckRequests
import SyncFanet.Dsr.HeaderLengths
import SyncFanet.Dsr.Retransmissions
import SyncFanet.Dsr.RreqMemory
import SyncFanet.Dsr.SalvagedRoutes
import SyncFanet.Dsr.SendBufferAgeing
import SyncFanet.Library.ScaledFormat
import SyncFanet.Olsr.Flooding
import SyncFanet.Olsr.HelloGroups
import SyncFanet.Olsr.LostNeighbors
import SyncFanet.Olsr.TupleKeys
import SyncFanet.Olsr.ValidityTimes
import SyncFanet.OlsrEtx.Agent
import SyncFanet.OlsrEtx.HelloLinks
import SyncFanet.OlsrEtx.LinkDelay
import SyncFanet.OlsrEtx.TupleKeys
import SyncFanet.Dsr.RreqFlood
import SyncFanet.Olsr.SameInputs
import SyncFanet.OlsrOpt.LinkTuples
import SyncFanet.OlsrOpt.ReportedChanges
import SyncFanet.OlsrOpt.SkippedRecomputation
import SyncFanet.Dsr.CheapestPaths
import SyncFanet.Dsr.MalformedRoutes
import SyncFanet.Dsr.OptionCounts
import SyncFanet.Dsr.RouteShortening
import SyncFanet.Dsr.UsableSplits
import SyncFanet.Dsr.EtxProbes
import SyncFanet.Dsr.RreqVisits
import SyncFanet.Dsr.WeightedRoutes
import SyncFanet.Dsr.GratHoldOff
import SyncFanet.Dsr.RtoEstimation
import SyncFanet.Library.Smoothing
import SyncFanet.Dsr.RouteNetworkRuns
import SyncFanet.Olsr.HeardNetwork
import SyncFanet.Olsr.NeighborDiscovery
