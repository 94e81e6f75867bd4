import RStreamer.Client.Clients
import RStreamer.Lib.ParIter

/-!
# `RtcActor` (`client/rtc_actor.rs`)

One media packet from one client: look the client up, parse the header,
decrypt, rewrite the two counters, adjust the jitter delay, and hand the packet
to the client's receivers or, for the feedback of a client without receivers,
to its sender. The handler is one atomic step here; it is split the way the
source's blocks are, and each block is a definition of its own.

Counter arithmetic is that of a release build, which wraps. The clock is read
once, at the `now` of the event.
-/

namespace RStreamer

/-! ## Rewriting -/

/-- The difference taken from the last value seen, if one is remembered. -/
def diffFrom {U : Type} [OfNat U 0] [LE U] [DecidableLE U] [Sub U]
    (last : Option (NonZero U)) (next : U) : U :=
  match last with
  | some prev => saturatingSub next prev.val
  | none => 0

structure Rewriting where
  runtime : ClientRtpRuntime
  clientDiff : UInt32
  realTimeDiff : Duration

/-- The counters after a packet (`rtc_actor.rs`, "Replace client with server
meta"). -/
def ClientRtpRuntime.rewrite (rt : ClientRtpRuntime) (header : RtpHeader)
    (now : Instant) : Rewriting :=
  let clientDiff := diffFrom rt.clientTs header.timestamp
  let incrSequence := diffFrom rt.clientSequence header.sequence
  let currentTime := elapsed now rt.startedTime
  { runtime := { rt with
      clientSequence := NonZero.new header.sequence
      clientTs := NonZero.new header.timestamp
      serverSequence := rt.serverSequence + incrSequence
      serverTs := rt.serverTs + clientDiff
      prevTimeDiff := currentTime }
    clientDiff := clientDiff
    realTimeDiff := currentTime - rt.prevTimeDiff }

/-! ## Jitter delay -/

inductive DelayChange where
  | increase
  | decrease
  deriving DecidableEq, Repr

/-- `JITTER_BUFFER_DELAY_INCREASE_STEP.as_millis() as u32` -/
def jitterDelayStep : UInt32 :=
  UInt32.ofNat (Duration.asMillis JITTER_BUFFER_DELAY_INCREASE_STEP)

/-- How far the arrival of a packet is off its timestamp, in clock ticks. -/
def transit (frequency clientDiff : UInt32) (realTimeDiff : Duration) :
    UInt32 :=
  let rate := frequency / 1000
  let arrival := UInt32.ofNat (Duration.asMillis realTimeDiff) * rate
  UInt32.ofNat ((arrival.toNat : Int) - (clientDiff.toNat : Int)).natAbs

/-- Which way the delay goes, if it changes ("Calculating jitter delay"). -/
def ClientRtpJitterStats.verdict (stats : ClientRtpJitterStats)
    (frequency : UInt32) (rw : Rewriting) (now : Instant) :
    Option DelayChange :=
  let rate := frequency / 1000
  if transit frequency rw.clientDiff rw.realTimeDiff >
      stats.jitterDelay * rate + JITTER_BUFFER_VOLATILE then
    some .increase
  else if elapsed now stats.jitterCheckTimestamp ≥ JITTER_RECHECK_TIME then
    some .decrease
  else
    none

/-- The statistics after a verdict. -/
def ClientRtpJitterStats.apply (stats : ClientRtpJitterStats)
    (now : Instant) : Option DelayChange → ClientRtpJitterStats
  | some .increase =>
      { jitterCheckTimestamp := now
        jitterDelay := stats.jitterDelay + jitterDelayStep }
  | some .decrease =>
      { jitterCheckTimestamp := now
        jitterDelay := stats.jitterDelay - jitterDelayStep }
  | none => stats

/-- The message a verdict sends to `JitterControlActor`. -/
def DelayChange.message (addr : SocketAddr) : DelayChange → JitterMessage
  | .increase => .increase addr
  | .decrease => .decrease addr

/-! ## The handler -/

/-- A datagram handed to `UdpSend`: where it goes, its bytes, and the client
whose SRTP session protected it. -/
structure Emission where
  addr : SocketAddr
  packet : DataPacket
  via : ClientRef
  deriving DecidableEq, Repr

/-- The counters a packet was given: of which client and frequency, for which
header, when, and the two numbers written into the packet
(`RtcActor.numbers_of_mem_sent`). -/
structure Written where
  client : ClientRef
  frequency : UInt32
  header : RtpHeader
  now : Instant
  sequence : UInt16
  timestamp : UInt32
  deriving DecidableEq, Repr

structure Outcome (S : Type) where
  registry : Registry S
  result : Except ErrorParse Unit
  sent : List Emission
  control : List JitterMessage
  written : Option Written

/-- A receiver, as an entry of a receivers map. -/
abbrev Receiver : Type := Table.Entry SocketAddr ClientRef

namespace RtcActor

variable {S : Type}

/-- The packet as it is when it is forwarded, and what was found out about it
on the way. -/
structure Prepared where
  rtcp : Bool
  header : RtpHeader
  codecNFrequency : Option (String × UInt32)
  message : DataPacket

def fail (r : Registry S) (e : ErrorParse) : Outcome S :=
  ⟨r, .error e, [], [], none⟩

/-- `codec_n_frequency`: the codec of a payload type and its clock. -/
def codecNFrequency (media : Option MediaList) (rtcp : Bool)
    (payload : UInt8) : Option (String × UInt32) :=
  if rtcp then none
  else
    media.bind fun m =>
      (m.getName payload).bind fun name =>
        (m.getFrequency payload).map fun frequency => (name, frequency)

/-- "Prepare payload type", as the source tests it. -/
def preparePayload (p : Prepared) (media : Option MediaList)
    (message : DataPacket) : DataPacket :=
  if p.rtcp then
    match p.codecNFrequency with
    | some (codec, _) =>
        match media.bind fun m => m.getId codec with
        | some payload => message.set 1 (calculatePayload p.header.marker payload)
        | none => message
    | none => message
  else message

/-- The body of the fan-out, for one receiver. -/
def sendTo (lib : SrtpLib S) (addr : SocketAddr) (p : Prepared)
    (r : Registry S) (recv : Receiver) :
    Registry S × Except ErrorParse Emission :=
  match (r.heap recv.2).srtp with
  | none => (r, .error (.clientNotReady addr))
  | some t =>
      let out := t.protect lib p.rtcp p.message
      let r' := r.modifyClient recv.2 fun cl => { cl with srtp := some out.1 }
      match out.2 with
      | none => (r', .error .srtp)
      | some message =>
          (r', .ok ⟨recv.1, preparePayload p (r.heap recv.2).media message,
            recv.2⟩)

def liveReceivers (r : Registry S) (c : ClientRef) : List Receiver :=
  (r.heap c).receivers.entries.filter fun e => !(r.heap e.2).isDeleted

def emissions (results : List (Receiver × Except ErrorParse Emission)) :
    List Emission :=
  results.filterMap fun res =>
    match res.2 with
    | .ok e => some e
    | .error _ => none

def firstError (results : List (Receiver × Except ErrorParse Emission)) :
    Except ErrorParse Unit :=
  match results.findSome? fun res =>
    match res.2 with
    | .ok _ => none
    | .error e => some e with
  | some e => .error e
  | none => .ok ()

/-- What forwarding adds to an outcome: the registry after it, its result and
the datagrams. -/
structure Forwarded (S : Type) where
  registry : Registry S
  result : Except ErrorParse Unit
  sent : List Emission

def fanOut (lib : SrtpLib S) (addr : SocketAddr) (p : Prepared)
    (r : Registry S) (c : ClientRef) (sched : List Receiver) : Forwarded S :=
  let out := ParIter.tryForEach (sendTo lib addr p) r (liveReceivers r c) sched
  ⟨out.1, firstError out.2, emissions out.2⟩

/-- Feedback of a client without receivers, to the client it receives from. -/
def sendUpstream (lib : SrtpLib S) (p : Prepared) (r : Registry S)
    (c : ClientRef) : Forwarded S :=
  match (r.heap c).senderAddr with
  | none => ⟨r, .ok (), []⟩
  | some senderAddr =>
      match r.clientAt senderAddr with
      | none => ⟨r, .ok (), []⟩
      | some sender =>
          match (r.heap sender).srtp with
          | none => ⟨r, .ok (), []⟩
          | some t =>
              let out := t.protect lib true p.message
              let r' := r.modifyClient sender fun cl =>
                { cl with srtp := some out.1 }
              match out.2 with
              | none => ⟨r', .error .srtp, []⟩
              | some message => ⟨r', .ok (), [⟨senderAddr, message, sender⟩]⟩

def forward (lib : SrtpLib S) (addr : SocketAddr) (p : Prepared)
    (r : Registry S) (c : ClientRef) (sched : List Receiver) : Forwarded S :=
  if p.rtcp && Table.isEmpty (r.heap c).receivers then sendUpstream lib p r c
  else fanOut lib addr p r c sched

/-- The counters a decrypted RTP packet goes through: its frequency and the
runtime stored for it. -/
def runtimeOf (cl : Client S) (codec : Option (String × UInt32)) :
    Option (UInt32 × ClientRtpRuntime) :=
  codec.bind fun cf =>
    (cl.rtpRuntimeStorage.lookup cf.2).map fun rt => (cf.2, rt)

/-- "Replace client with server meta" and "Calculating jitter delay" on the
client's state. -/
def updateCounters (r : Registry S) (c : ClientRef) (frequency : UInt32)
    (rw : Rewriting) (verdict : Option DelayChange) (now : Instant) :
    Registry S :=
  r.modifyClient c fun cl => { cl with
    rtpRuntimeStorage := cl.rtpRuntimeStorage.insert frequency rw.runtime
    jitterStats := cl.jitterStats.apply now verdict }

def handleRtp (lib : SrtpLib S) (r : Registry S) (now : Instant)
    (sched : List Receiver) (addr : SocketAddr) (c : ClientRef)
    (p : Prepared) : Outcome S :=
  match runtimeOf (r.heap c) p.codecNFrequency with
  | none => fail r (.codecNotSet addr)
  | some (frequency, rt) =>
      let rw := rt.rewrite p.header now
      let sequence := rw.runtime.serverSequence
      let timestamp := rw.runtime.serverTs
      let verdict := (r.heap c).jitterStats.verdict frequency rw now
      let r' := updateCounters r c frequency rw verdict now
      let p' := { p with
        message := replaceSequenceNTimestamp p.message sequence timestamp }
      let out := forward lib addr p' r' c sched
      { registry := out.registry
        result := out.result
        sent := out.sent
        control := (verdict.map fun v => v.message addr).toList
        written := some ⟨c, frequency, p.header, now, sequence, timestamp⟩ }

def handleRtcp (lib : SrtpLib S) (r : Registry S) (sched : List Receiver)
    (addr : SocketAddr) (c : ClientRef) (p : Prepared) : Outcome S :=
  let out := forward lib addr p r c sched
  ⟨out.registry, out.result, out.sent, [], none⟩

/-- The packet of a known client with a well-formed header: decryption, then
one of the two ways on. -/
def process (lib : SrtpLib S) (r : Registry S) (now : Instant)
    (sched : List Receiver) (message : DataPacket) (addr : SocketAddr)
    (c : ClientRef) (rtcp : Bool) (header : RtpHeader) : Outcome S :=
  match (r.heap c).srtp with
  | none => fail r (.clientNotReady addr)
  | some t =>
      let out := t.unprotect lib rtcp message
      let r' := r.modifyClient c fun cl => { cl with srtp := some out.1 }
      match out.2 with
      | none => fail r' .srtp
      | some plain =>
          let p : Prepared :=
            { rtcp := rtcp
              header := header
              codecNFrequency :=
                codecNFrequency (r.heap c).media rtcp header.payload
              message := plain }
          if rtcp then handleRtcp lib r' sched addr c p
          else if header.payload = 111 then fail r' .unsupportedFormat
          else handleRtp lib r' now sched addr c p

/-- `Handler<WebRtcRequest>` for a media packet. -/
def handle (lib : SrtpLib S) (r : Registry S) (now : Instant)
    (sched : List Receiver) (message : DataPacket) (addr : SocketAddr) :
    Outcome S :=
  match r.clientAt addr with
  | none => ⟨r, .ok (), [], [], none⟩
  | some c =>
      match RtpHeader.fromBuf message with
      | .ok (.ok header) =>
          process lib r now sched message addr c
            (isRtcp message matches .ok true) header
      | .ok (.error e) => fail r e
      -- the header is longer than every range read from it
      | .error _ => fail r .unsupportedFormat

end RtcActor

end RStreamer
