import TiSIP.Lib.Transition
import TiSIP.Lib.SlotTable
import TiSIP.Lib.Mirror
import TiSIP.Foundation.Number
import TiSIP.Pjsua.Core
import TiSIP.Pjsua.Acc
import TiSIP.Proxy.PjSIPProxy
import TiSIP.Proxy.Accounts
import TiSIP.Proxy.Transports
import TiSIP.Lib.Text
import TiSIP.Foundation.Objects
import TiSIP.Dispatch.PJUtil
import TiSIP.Pjsua.Im
import TiSIP.Dispatch.PjSIPDispatch
import TiSIP.Pjsua.CallInfo
import TiSIP.Pjsip.Regc
import TiSIP.Pjsua.Registration
import TiSIP.Module.Observers
import TiSIP.Module.Registration
import TiSIP.Dispatch.RemoteMessages
import TiSIP.Module.Pipeline
import TiSIP.Module.RoundTrip
import TiSIP.Module.Faithful
import TiSIP.Lib.LockQueue
import TiSIP.Threads.EntryPoints
import TiSIP.Threads.Deadlock
import TiSIP.Lib.Switchboard
import TiSIP.Pjmedia.Conference
import TiSIP.Pjsua.Media
import TiSIP.Pjsua.Call
import TiSIP.Lib.Seating
import TiSIP.Audio.Channel
import TiSIP.Audio.Update
import TiSIP.Proxy.CallAudio
import TiSIP.Audio.Calls
import TiSIP.Audio.Library
import TiSIP.Audio.Operations
import TiSIP.Audio.Topology
import TiSIP.Audio.Mute
import TiSIP.Audio.OwnCall
import TiSIP.Audio.FailedHangUp
import TiSIP.Lib.Patchbay
import TiSIP.Pjmedia.Bridge
import TiSIP.Pjmedia.Mixing
import TiSIP.Pjmedia.BridgeRuns
import TiSIP.Audio.Drawing
import TiSIP.Audio.Hearing
import TiSIP.Pjsip.Forward
import TiSIP.Calls.System
import TiSIP.Calls.Views
import TiSIP.Calls.Steps
import TiSIP.Calls.Announce
import TiSIP.Lib.LifeLine
import TiSIP.Pjsip.Reports
import TiSIP.Calls.LifeCycle
import TiSIP.Lib.Scanner
import TiSIP.Pjlib.Scanner
import TiSIP.Pjsip.Parser
import TiSIP.Pjsip.UriText
import TiSIP.Pjsip.AppendedParam
import TiSIP.Pjsip.AppendedUri
import TiSIP.Proxy.Destination
import TiSIP.Pjsip.UriParts
import TiSIP.Pjsua.AccUri
import TiSIP.Proxy.Identity
import TiSIP.Lib.BinaryHeap
import TiSIP.Lib.FreeList
import TiSIP.Lib.Agenda
import TiSIP.Lib.Holders
import TiSIP.Pjlib.Timer
import TiSIP.Pjlib.TimerLoops
import TiSIP.Pjlib.TimerSound
import TiSIP.Pjlib.TimerSteps
import TiSIP.Pjlib.TimerRuns
import TiSIP.Pjlib.TimerPoll
import TiSIP.Lib.Rearrange
import TiSIP.Lib.Keyed
import TiSIP.Lib.Proposals
import TiSIP.Pjmedia.Sdp
import TiSIP.Pjmedia.SdpNeg
import TiSIP.Pjmedia.Negotiator
import TiSIP.Pjmedia.SdpLines
import TiSIP.Pjmedia.SdpFormats
import TiSIP.Pjmedia.SdpMatch
import TiSIP.Pjmedia.SdpAnswer
import TiSIP.Pjmedia.SdpAgreement
import TiSIP.Pjmedia.SdpExchange
import TiSIP.Pjmedia.NegotiatorRuns
import TiSIP.Pjmedia.SdpReplies
import TiSIP.Pjmedia.NegotiatorLife
import TiSIP.Pjmedia.NegotiatorPlaces
import TiSIP.Pjsip.OfferAnswer
import TiSIP.Pjsip.OfferAnswerRuns
import TiSIP.Lib.Printing
import TiSIP.Pjlib.Strings
import TiSIP.Pjsip.UriPrint
import TiSIP.Pjsip.UriPieces
import TiSIP.Pjsip.UriReading
import TiSIP.Pjsip.UriRoundTrip
import TiSIP.Pjsip.UriTrips
import TiSIP.Pjsip.UriCompare
