import Nanortc.Spec.IceConsent
import Nanortc.Spec.SrtpRollover
import Nanortc.Spec.TurnCredentials
import Nanortc.Spec.TurnRequests
import Nanortc.Spec.SctpExchange
import Nanortc.Spec.SctpTimers
import Nanortc.ForStd.Pool
import Nanortc.Spec.ClosedMedia
import Nanortc.Spec.SessionState
import Nanortc.Spec.TurnWrap
import Nanortc.Spec.SrtpIsolation
import Nanortc.Spec.DcepAgreement
import Nanortc.Spec.StreamIds
import Nanortc.Spec.TurnFreshness
import Nanortc.Spec.SdpSections
import Nanortc.Spec.SdpWriting
import Nanortc.Spec.Negotiation
import Nanortc.Spec.ConsentRefresh
import Nanortc.Spec.LocalCandidates
import Nanortc.Spec.SctpSack
import Nanortc.ForStd.Runs
import Nanortc.Spec.VideoContiguity
import Nanortc.Spec.SctpShape
import Nanortc.Spec.SctpExpiry
import Nanortc.Spec.SctpDeadline
import Nanortc.Spec.DcEvents
import Nanortc.Spec.StunAuth
import Nanortc.Spec.StunRoundTrip
import Nanortc.Spec.SctpTableSizes
import Nanortc.Spec.SctpPool
import Nanortc.Spec.SctpHolding
import Nanortc.Spec.SctpMessages
import Nanortc.Spec.SctpLinks
import Nanortc.Spec.SctpPolling
import Nanortc.Spec.SctpService
import Nanortc.Native.VideoPackets
import Nanortc.Spec.H264RoundTrip
import Nanortc.Spec.H265Packets
import Nanortc.Spec.SrtpRoundTrip
import Nanortc.ForStd.Overlay
import Nanortc.ForStd.SlotQueue
import Nanortc.Spec.ClientHello
import Nanortc.Spec.TurnSizes
import Nanortc.Spec.TurnFraming
import Nanortc.Spec.TurnNumbers
import Nanortc.Spec.TurnSlots
import Nanortc.Spec.TurnSends
import Nanortc.Spec.TurnBudget
import Nanortc.Spec.IceTable
import Nanortc.Spec.IceExhaustion
import Nanortc.ForStd.Average
import Nanortc.ForStd.Parity
import Nanortc.Native.Bwe
import Nanortc.Native.Fec
import Nanortc.Spec.BweBounds
import Nanortc.Spec.FecRecovery
import Nanortc.Spec.AnnexB
import Nanortc.Native.Twcc
import Nanortc.Spec.TwccFeedback
import Nanortc.Native.Rtcp
import Nanortc.Spec.CompoundRtcp
import Nanortc.Spec.FecHistory
import Nanortc.Spec.ReorderWindow
import Nanortc.Spec.JitterPlayout
import Nanortc.Spec.PacerConformance
import Nanortc.ForStd.Recent
import Nanortc.Native.FecReceive
import Nanortc.Spec.Base64
import Nanortc.Spec.SctpChunks
import Nanortc.Spec.RateHold
import Nanortc.Spec.IpLiterals
import Nanortc.Spec.IpFormatting
import Nanortc.Spec.SdpFields
import Nanortc.Spec.CandidateTexts
import Nanortc.Spec.TrickledCandidates
import Nanortc.ForStd.Reorder
import Nanortc.Spec.SdpOrder
import Nanortc.Spec.SdpRearranged
import Nanortc.Spec.SdpLines
import Nanortc.Spec.SdpRoundTrip
import Nanortc.Spec.RoleAgreement
import Nanortc.Native.FecSend
import Nanortc.Spec.FecSending
import Nanortc.Native.Nack
import Nanortc.Spec.NackReport
import Nanortc.Spec.OutputFifo
import Nanortc.Spec.OutputRun
