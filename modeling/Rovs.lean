import Rovs.Addresses
import Rovs.ArpProxy
import Rovs.CanonicalMasks
import Rovs.Conntrack
import Rovs.CtNatLayout
import Rovs.DecoderAgreement
import Rovs.DumpReplies
import Rovs.FailedCommit
import Rovs.FlowBackups
import Rovs.FlowExpressiveness
import Rovs.FlowServices
import Rovs.FlowStatsSafety
import Rovs.HeaderFraming
import Rovs.InstructionRoundTrip
import Rovs.LearnImmediates
import Rovs.LengthFields
import Rovs.MacLearning
import Rovs.MacNat
import Rovs.MatchExactness
import Rovs.MatchFieldLists
import Rovs.MatchPreservation
import Rovs.MatchRoundTrip
import Rovs.MessageFraming
import Rovs.MonitorCond
import Rovs.MonitoredActions
import Rovs.NamedUuid
import Rovs.NatIsolation
import Rovs.NatTables
import Rovs.NatTranslation
import Rovs.NdpService
import Rovs.NeighborAdvertisement
import Rovs.NeighborProxies
import Rovs.OvsdbHandle
import Rovs.PatchNames
import Rovs.PortForwarding
import Rovs.PortMapper
import Rovs.Prerequisites
import Rovs.Reconnect
import Rovs.ReferentialIntegrity
import Rovs.Replica
import Rovs.ReplyAssociation
import Rovs.ResponseMatching
import Rovs.SyncCalls
import Rovs.TopologyCalls
import Rovs.TopologyRefinement
import Rovs.UuidDeletes
import Rovs.VlanDelivery
