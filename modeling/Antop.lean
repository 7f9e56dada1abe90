import Antop.Library.Transition
import Antop.Library.PrefixBlock
import Antop.Library.CString
import Antop.Library.Memory
import Antop.Address
import Antop.Hypercube
import Antop.Shift
import Antop.TimerQueue
import Antop.State
import Antop.Tables
import Antop.Secondary
import Antop.Fragmentacion
import Antop.Mezcla
import Antop.HeartBeat
import Antop.HcbAddress
import Antop.Dispatch
import Antop.Registration
import Antop.FarOnce
import Antop.MezclaOnce
import Antop.MaskInvariant
import Antop.Recuperadas
import Antop.Interfaz
import Antop.GetPrimAddr
import Antop.JoinSequence
import Antop.AddressPartition
import Antop.JoinSafety
import Antop.NeighborTable
import Antop.ForeignHeartBeat
import Antop.SecondaryAgreement
import Antop.AddressWindow
import Antop.BlocksHandedOut
import Antop.NameTransport
import Antop.FromAddress
import Antop.Rendezvous
import Antop.Malla
import Antop.FragmentSafety
import Antop.MezclaEnvios
import Antop.MergeBlocks
import Antop.MergeInvariant
import Antop.MergeSafety
import Antop.CheckSuccesor
import Antop.FragmentWait
import Antop.RecoveredOffer
import Antop.Library.ListSegment
import Antop.TimerLinks
import Antop.TimerExpiry
import Antop.TimerAge
import Antop.RoutingAux
import Antop.RtTimers
import Antop.RouteLifetime
import Antop.VisitedMarks
import Antop.Library.DnsMessage
import Antop.PendingQueries
import Antop.DnsAnswer
import Antop.Library.BitCount
import Antop.MaskedDistance
import Antop.MovedSubtree
import Antop.SuccesorAgreement
import Antop.Library.TieMin
import Antop.NextHop
import Antop.RvRoute
import Antop.ReverseEntry
import Antop.Mar2Address
import Antop.RouteVerdict
import Antop.RouteDump
import Antop.Library.KeyedList
import Antop.AuxTable
import Antop.SourceNat
import Antop.Library.OnesComplement
import Antop.Checksum
import Antop.ServerTable
import Antop.ServerAddress
import Antop.Library.Loop
import Antop.RouteFlush
import Antop.SecondaryLinks
import Antop.RootNeighbor
import Antop.SecondaryProposal
import Antop.Inactivity
import Antop.PapCollection
import Antop.FixedFields
import Antop.JoinOutcome
import Antop.BranchArithmetic
import Antop.ClosestServer
import Antop.Library.Checked
import Antop.AddressIndexes
import Antop.NameBuffers
import Antop.NameResolution
import Antop.InterfaceAddress
import Antop.RouteMessages
import Antop.Nfnetlink
import Antop.PacketQueue
import Antop.WireFormat
import Antop.Library.Descent
import Antop.NewDestination
import Antop.HypercubeRouting
