import RStreamer.Lib.Machine
import RStreamer.Lib.Lock
import RStreamer.Lib.Table
import RStreamer.Lib.Accum
import RStreamer.Lib.Bytes
import RStreamer.Basic
import RStreamer.Rtp.Srtp
import RStreamer.Rtp.Core
import RStreamer.Lib.BiMap
import RStreamer.Lib.LastWith
import RStreamer.Sdp.Types
import RStreamer.Sdp.Media
import RStreamer.Rtp.Jitter
import RStreamer.Client.Clients
import RStreamer.Client.Actor
import RStreamer.Client.Routes
import RStreamer.Proofs.Deadlock
import RStreamer.Proofs.Links
import RStreamer.Lib.ParIter
import RStreamer.Client.RtcActor
import RStreamer.Client.RtcEffects
import RStreamer.Lib.Trace
import RStreamer.System
import RStreamer.Client.Sending
import RStreamer.Proofs.Delivery
import RStreamer.Client.Counters
import RStreamer.Proofs.Rewriting
import RStreamer.Client.Metered
import RStreamer.Proofs.Isolation
import RStreamer.Proofs.JitterDelay
import RStreamer.Stun.Parse
import RStreamer.Server.Udp
import RStreamer.Proofs.ReceivePath
import RStreamer.Stun.Encode
import RStreamer.Proofs.BindingRequests
import RStreamer.Proofs.Departures
import RStreamer.Proofs.PayloadTypes
import RStreamer.Client.Tasks
import RStreamer.Proofs.Handshakes
import RStreamer.Proofs.StatusRace
import RStreamer.Proofs.StaleDeletes
import RStreamer.Server.Sessions
import RStreamer.Proofs.SessionExpiry
import RStreamer.Server.JitterStage
import RStreamer.Proofs.ArrivalOrder
import RStreamer.Sdp.Offer
import RStreamer.Proofs.AcceptedCodecs
import RStreamer.Proofs.BufferConservation
import RStreamer.Proofs.Echo
import RStreamer.Proofs.StaleEntries
import RStreamer.Proofs.StunFirst
import RStreamer.Stun.Message
import RStreamer.Stun.Response
import RStreamer.Proofs.Responses
import RStreamer.Lib.Edits
import RStreamer.Sdp.Attributes
import RStreamer.Proofs.TransportIdentity
import RStreamer.Proofs.Directions
import RStreamer.Server.Meta
import RStreamer.Proofs.ClientNames
import RStreamer.Proofs.Pairing
import RStreamer.Proofs.HeaderLens
import RStreamer.Proofs.CodecTables
import RStreamer.Proofs.RequestSoundness
import RStreamer.Proofs.Demultiplexing
import RStreamer.Proofs.Rejections
import RStreamer.Proofs.CounterRanges
import RStreamer.Lib.Threads
import RStreamer.Client.RtcLocks
import RStreamer.Client.Threads
import RStreamer.Proofs.ThreadProtocols
import RStreamer.Proofs.Progress
import RStreamer.Server.Actors
import RStreamer.Proofs.MediaFlow
import RStreamer.Proofs.Confinement
import RStreamer.Proofs.Answers
import RStreamer.Proofs.Outage
import RStreamer.Proofs.Components
import RStreamer.Proofs.Transparency
import RStreamer.Proofs.JitterTiming
import RStreamer.Proofs.Keys
import RStreamer.Proofs.TlsStreams
import RStreamer.Proofs.Drain
import RStreamer.Proofs.Joining
