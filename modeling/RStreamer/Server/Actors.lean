import RStreamer.Client.RtcEffects
import RStreamer.Client.Tasks
import RStreamer.Lib.Trace
import RStreamer.Sdp.Offer
import RStreamer.Server.JitterStage
import RStreamer.Stun.Response

/-!
# The server (`server/udp.rs`, `client/stream.rs`, `main.rs`)

All actors with the messages under way between them. The outside world posts
offers and sends datagrams, and the TLS library reads and writes the channels of
its streams; everything else is a handler or a task of the server going on. A
message may be handled in any order, not only in the order of the mailbox: a
sender that finds a mailbox full waits with its message, and a later one can get
in before it. So a run is any list of events.

`UdpRecv`, `UdpSend`, `ClientActor` and `JitterControlActor` share the main thread,
`RtcActor` has threads of its own. A handler that panics takes its actor with it,
the tasks of the actor included, and the others go on with the messages they have;
without `UdpRecv` nothing comes in any more. A handler that waits for itself keeps
its thread for good, and on the main thread that leaves `RtcActor` alone, as far as
the locks kept let it. `Health` is which of this has happened, and `Health.allows`
what can still happen at most.
-/

namespace RStreamer

/-- What a server is started with: the libraries it calls, its names and its
public address. -/
structure Host (S M : Type) where
  srtp : SrtpLib S
  sdp : SdpLib M
  stun : StunLib
  data : ServerData
  sdpAddr : SocketAddr

/-- The messages an offer sends to `UdpRecv`. -/
inductive RecvMessage where
  | session (session : Session) (item : SessionStorageItem)
  | mediaUser (userName : String) (media : MediaList)

/-- The messages for `ClientActor` from `UdpRecv` and from the outgoing streams
of its clients. -/
inductive ClientMessage where
  | dtls (message : DataPacket) (addr : SocketAddr)
  | groupId (groupId : Nat) (addr : SocketAddr) (isSender : Bool)
  | mediaAddr (addr : SocketAddr) (media : MediaList)
  /-- `DtlsMessage::create_outgoing` -/
  | outgoing (message : DataPacket) (addr : SocketAddr)

/-- `ClientSslPackets`: the datagrams between a client and its TLS stream. -/
structure Channels where
  incoming : List DataPacket
  outgoing : List DataPacket

inductive Health where
  | running
  /-- A handler of the main thread waits for itself. -/
  | hung
  /-- `UdpRecv` has panicked. -/
  | crashed
  deriving DecidableEq, Repr

structure Server (S : Type) where
  health : Health
  recv : UdpRecv
  clients : Tasks S
  /-- The datagrams the tasks of `ClientActor` were spawned with. -/
  messages : List DataPacket
  channels : ClientRef → Channels
  /-- The address of a client's outgoing stream; `dtls_connected` is whether it
  has one. -/
  streams : ClientRef → Option SocketAddr
  stage : JitterStage
  toRecv : List RecvMessage
  toClients : List ClientMessage
  toJitter : List JitterMessage
  toRtc : List (SocketAddr × DataPacket)
  toSend : List WebRtcRequest

inductive ServerEvent (S : Type) where
  /-- `POST /parse_sdp/{group_id}/` -/
  | offer (sdp : String) (groupId : Nat) (world : OfferWorld)
  /-- `UdpRecv` handles a message of an offer. -/
  | recv (i : Nat)
  | datagram (buf : DataPacket) (addr : SocketAddr)
  | clearData (now : SystemTime)
  /-- `ClientActor` handles a message. -/
  | client (i : Nat) (now : Instant) (draw : UInt32 → RuntimeDraw)
  /-- A task of `ClientActor` goes on. -/
  | poll (i : Nat) (x : Ready S)
  | delete
  /-- The TLS library reads from the stream of a client, or writes to it. -/
  | sslRead (c : ClientRef)
  | sslWrite (c : ClientRef) (message : DataPacket)
  /-- `outgoing_stream` yields its next message. -/
  | outgoing (c : ClientRef)
  | jitter (now : Instant)
  /-- `JitterControlActor` handles a change of a delay. -/
  | delay (i : Nat) (now : Instant)
  | forward (i : Nat)
  | giveUp (i : Nat)
  /-- `RtcActor` handles a packet. -/
  | rtc (i : Nat) (now : Instant) (sched : List Receiver)
  /-- `UdpSend` handles a message; `buf` is the memory it writes a STUN response
  into. -/
  | send (i : Nat) (buf : Vector UInt8 1200)

/-- The events that take `UdpRecv`: its handlers, the tasks it has spawned, and the
offers, which ask it for the names of the server first. -/
def ServerEvent.needsRecv {S : Type} : ServerEvent S → Bool
  | .offer _ _ _ => true
  | .recv _ => true
  | .datagram _ _ => true
  | .clearData _ => true
  | .forward _ => true
  | .giveUp _ => true
  | _ => false

/-- The events on threads of their own: those of `RtcActor`. -/
def ServerEvent.offMain {S : Type} : ServerEvent S → Bool
  | .rtc _ _ _ => true
  | _ => false

/-- The events that can still happen. -/
def Health.allows {S : Type} : Health → ServerEvent S → Bool
  | .running, _ => true
  | .crashed, e => !e.needsRecv
  | .hung, e => e.offMain

def StunEffect.toClients : StunEffect → Option ClientMessage
  | .mediaAddr addr media => some (.mediaAddr addr media)
  | .groupId g addr isSender => some (.groupId g addr isSender)
  | .respond _ _ => none

def StunEffect.toSend : StunEffect → Option WebRtcRequest
  | .respond req addr => some (.stun req addr)
  | _ => none

/-- The two messages of a registration. -/
def Registration.messages (r : Registration) : List RecvMessage :=
  [.session r.session r.item, .mediaUser r.session.getClient r.media]

namespace Server

variable {S M : Type}

def init : Server S where
  health := .running
  recv := UdpRecv.init
  clients := Tasks.init
  messages := []
  channels _ := ⟨[], []⟩
  streams _ := none
  stage := JitterStage.init
  toRecv := []
  toClients := []
  toJitter := []
  toRtc := []
  toSend := []

/-! ## `UdpRecv` -/

def handleRecv (s : Server S) : RecvMessage → Server S
  | .session session item => { s with recv := s.recv.handleSession session item }
  | .mediaUser userName media =>
      { s with recv := s.recv.handleMediaUser userName media }

/-- `Handler<WebRtcRequest> for UdpRecv` -/
def handleRequest (s : Server S) : WebRtcRequest → Server S
  | .stun req addr =>
      let out := s.recv.handleStun req addr
      { s with
        recv := out.1
        toClients := s.toClients ++ out.2.filterMap StunEffect.toClients
        toSend := s.toSend ++ out.2.filterMap StunEffect.toSend }
  | .dtls message addr =>
      { s with toClients := s.toClients ++ [.dtls message addr] }
  | .rtc message addr => { s with stage := s.stage.step (.receive addr message) }
  | .unknown => s

/-! ## `ClientActor` -/

/-- The outgoing streams after a datagram of `c`: a client gets one with its
first. -/
def connectStream (s : Server S) (c : ClientRef) (addr : SocketAddr) :
    ClientRef → Option SocketAddr :=
  match s.streams c with
  | some _ => s.streams
  | none => Function.update s.streams c (some addr)

def handleClient (s : Server S) (now : Instant) (draw : UInt32 → RuntimeDraw) :
    ClientMessage → Server S
  | .dtls message addr =>
      { s with
        clients := s.clients.step (.datagram addr now)
        messages := s.messages ++ [message]
        streams := s.connectStream (s.clients.registry.clientFor addr) addr }
  | .groupId groupId addr isSender =>
      match ClientActor.handle? s.clients.registry
          (.groupId groupId addr isSender) with
      | none =>
          -- `groups` has changed already, but only this actor reads it
          { s with health := .hung }
      | some _ =>
          { s with clients := s.clients.step (.groupId groupId addr isSender) }
  | .mediaAddr addr media =>
      { s with clients := s.clients.step (.mediaAddr addr media now draw) }
  | .outgoing message addr =>
      { s with toSend := s.toSend ++ [.dtls message addr] }

/-- `push_dtls`, if the task that goes on is at it and its stream is there. -/
def pushed (s : Server S) (i : Nat) (x : Ready S) : ClientRef → Channels :=
  match s.clients.polled i x, x with
  | some (t, res), .writer =>
      if res.phase = .readStatus then
        let ch := s.channels t.client
        Function.update s.channels t.client
          { ch with incoming := ch.incoming ++ s.messages[i]?.toList }
      else s.channels
  | _, _ => s.channels

/-! ## `ClientSslPackets` -/

/-- `poll_read`: the next datagram goes to the library. -/
def sslRead (s : Server S) (c : ClientRef) : Server S :=
  let ch := s.channels c
  if s.clients.streamAlive c then
    { s with
      channels := Function.update s.channels c
        { ch with incoming := ch.incoming.tail } }
  else s

/-- `poll_write` -/
def sslWrite (s : Server S) (c : ClientRef) (message : DataPacket) :
    Server S :=
  let ch := s.channels c
  if s.clients.streamAlive c then
    { s with
      channels := Function.update s.channels c
        { ch with outgoing := ch.outgoing ++ [message] } }
  else s

/-- `outgoing_stream` -/
def outgoing (s : Server S) (c : ClientRef) : Server S :=
  match s.streams c, (s.channels c).outgoing with
  | some addr, message :: rest =>
      { s with
        channels := Function.update s.channels c
          { s.channels c with outgoing := rest }
        toClients := s.toClients ++ [.outgoing message addr] }
  | _, _ => s

/-! ## `JitterControlActor` and `RtcActor` -/

def handleDelay (s : Server S) (now : Instant) : JitterMessage → Server S
  | .increase addr => { s with stage := s.stage.step (.increase addr now) }
  | .decrease addr => { s with stage := s.stage.step (.decrease addr) }
  | .getOrStore _ _ => s

def handleRtc (host : Host S M) (s : Server S) (now : Instant)
    (sched : List Receiver) (addr : SocketAddr) (message : DataPacket) :
    Server S :=
  let out := RtcActor.handle host.srtp s.clients.registry now sched message addr
  { s with
    clients := { s.clients with registry := out.registry }
    toJitter := s.toJitter ++ out.control
    toSend := s.toSend ++ out.sent.map fun e => .rtc e.packet e.addr }

/-! ## `UdpSend` -/

/-- The datagram `UdpSend` makes of a message. -/
def datagramOf (host : Host S M) (buf : Vector UInt8 1200) :
    WebRtcRequest → Except Panic (Option (SocketAddr × DataPacket))
  | .stun req addr => do
      let message ← Stun.sendStunResponse host.stun req.transactionId addr
        (Stun.utf8 host.data.password) buf
      return message.map fun m => (addr, m)
  | .dtls message addr => return some (addr, message)
  | .rtc message addr => return some (addr, message)
  | .unknown => return none

/-! ## The whole -/

/-- Takes the message at a place out of a mailbox and handles it. -/
def deliver {α : Type} (s : Server S) (box : List α) (i : Nat)
    (handle : List α → α → Server S) : Server S :=
  match box[i]? with
  | none => s
  | some m => handle (box.eraseIdx i) m

/-- An event that happens. -/
def act (host : Host S M) (s : Server S) : ServerEvent S → Server S
  | .offer sdp groupId world =>
      let response := generateStreamerResponse host.sdp sdp (some host.data)
        groupId host.sdpAddr world
      { s with
        toRecv := s.toRecv ++
          response.registrations.flatMap Registration.messages }
  | .recv i =>
      s.deliver s.toRecv i fun rest m => { s with toRecv := rest }.handleRecv m
  | .datagram buf addr =>
      match WebRtcRequest.fromDatagram buf addr with
      | .error _ => { s with health := .crashed }
      | .ok req => s.handleRequest req
  | .clearData now => { s with recv := s.recv.clearData now }
  | .client i now draw =>
      s.deliver s.toClients i fun rest m =>
        { s with toClients := rest }.handleClient now draw m
  | .poll i x =>
      { s with clients := s.clients.step (.poll i x), channels := s.pushed i x }
  | .delete => { s with clients := s.clients.step .delete }
  | .sslRead c => s.sslRead c
  | .sslWrite c message => s.sslWrite c message
  | .outgoing c => s.outgoing c
  | .jitter now => { s with stage := s.stage.step (.jitter now) }
  | .delay i now =>
      s.deliver s.toJitter i fun rest m =>
        { s with toJitter := rest }.handleDelay now m
  | .forward i =>
      { s with
        stage := s.stage.step (.forward i)
        toRtc := s.toRtc ++ s.stage.reaches (.forward i) }
  | .giveUp i => { s with stage := s.stage.step (.giveUp i) }
  | .rtc i now sched =>
      s.deliver s.toRtc i fun rest m =>
        { s with toRtc := rest }.handleRtc host now sched m.1 m.2
  | .send i buf =>
      s.deliver s.toSend i fun rest m =>
        match datagramOf host buf m with
        -- never the case (`datagramOf_ok`)
        | .error _ => { s with health := .crashed }
        | .ok _ => { s with toSend := rest }

def step (host : Host S M) (s : Server S) (e : ServerEvent S) : Server S :=
  if s.health.allows e then s.act host e else s

/-- What events have to do with, when they happen. -/
def whenAllowed {β : Type} (f : Server S → ServerEvent S → List β)
    (s : Server S) (e : ServerEvent S) : List β :=
  if s.health.allows e then f s e else []

theorem step_of_running {host : Host S M} {s : Server S}
    (h : s.health = .running) (e : ServerEvent S) :
    s.step host e = s.act host e := by
  rw [step, h]
  rfl

def after (host : Host S M) (es : List (ServerEvent S)) : Server S :=
  Machine.run (step host) init es

/-- The message `UdpSend` handles at an event, and the datagram it sends. -/
def datagrams (host : Host S M) (s : Server S) :
    ServerEvent S → List (WebRtcRequest × SocketAddr × DataPacket)
  | .send i buf =>
      match s.toSend[i]? with
      | some m =>
          match datagramOf host buf m with
          | .ok (some d) => [(m, d)]
          | _ => []
      | none => []
  | _ => []

def sends (host : Host S M) : Server S → ServerEvent S →
    List (WebRtcRequest × SocketAddr × DataPacket) :=
  whenAllowed (datagrams host)

/-- What an event gives `UdpSend` to send. -/
def queues (host : Host S M) (s : Server S) :
    ServerEvent S → List WebRtcRequest
  | .datagram buf addr =>
      match WebRtcRequest.fromDatagram buf addr with
      | .ok (.stun req addr) =>
          (s.recv.handleStun req addr).2.filterMap StunEffect.toSend
      | _ => []
  | .client i _ _ =>
      match s.toClients[i]? with
      | some (.outgoing message addr) => [.dtls message addr]
      | _ => []
  | .rtc i now sched =>
      match s.toRtc[i]? with
      | some m =>
          (RtcActor.handle host.srtp s.clients.registry now sched m.2
            m.1).sent.map fun e => .rtc e.packet e.addr
      | none => []
  | _ => []

def queued (host : Host S M) : Server S → ServerEvent S → List WebRtcRequest :=
  whenAllowed (queues host)

/-! ## What an event leaves alone -/

section Frame

variable (host : Host S M) (s : Server S)

theorem act_recv (i : Nat) : ∃ recv toRecv,
    s.act host (.recv i) = { s with recv := recv, toRecv := toRecv } := by
  rw [act, deliver]
  split
  · exact ⟨_, _, rfl⟩
  · next m _ => cases m <;> exact ⟨_, _, rfl⟩

theorem act_delay (i : Nat) (now : Instant) : ∃ stage toJitter,
    s.act host (.delay i now) =
      { s with stage := stage, toJitter := toJitter } := by
  rw [act, deliver]
  split
  · exact ⟨_, _, rfl⟩
  · next m _ => cases m <;> exact ⟨_, _, rfl⟩

theorem act_sslRead (c : ClientRef) : ∃ channels,
    s.act host (.sslRead c) = { s with channels := channels } := by
  rw [act, sslRead]
  split <;> exact ⟨_, rfl⟩

theorem act_sslWrite (c : ClientRef) (message : DataPacket) : ∃ channels,
    s.act host (.sslWrite c message) = { s with channels := channels } := by
  rw [act, sslWrite]
  split <;> exact ⟨_, rfl⟩

theorem act_outgoing (c : ClientRef) : ∃ channels toClients,
    s.act host (.outgoing c) =
      { s with channels := channels, toClients := toClients } := by
  rw [act, outgoing]
  split <;> exact ⟨_, _, rfl⟩

theorem act_client (i : Nat) (now : Instant) (draw : UInt32 → RuntimeDraw) :
    ∃ health clients messages streams toClients toSend,
      s.act host (.client i now draw) = { s with
        health := health, clients := clients, messages := messages
        streams := streams, toClients := toClients, toSend := toSend } := by
  rw [act, deliver]
  split
  · exact ⟨_, _, _, _, _, _, rfl⟩
  · next m _ =>
      cases m with
      | groupId g addr isSender =>
          rw [handleClient]
          split <;> exact ⟨_, _, _, _, _, _, rfl⟩
      | _ => exact ⟨_, _, _, _, _, _, rfl⟩

theorem act_send (i : Nat) (buf : Vector UInt8 1200) : ∃ health toSend,
    s.act host (.send i buf) =
      { s with health := health, toSend := toSend } := by
  rw [act, deliver]
  split
  · exact ⟨_, _, rfl⟩
  · split <;> exact ⟨_, _, rfl⟩

variable {host s}

theorem streams_connectStream {c d : ClientRef} {a addr : SocketAddr}
    (h : s.streams c = some a) : s.connectStream d addr c = some a := by
  rw [connectStream]
  cases hd : s.streams d with
  | some _ => exact h
  | none =>
      show Function.update s.streams d (some addr) c = some a
      rw [Function.update_apply]
      split
      · next hcd => rw [← hcd, h] at hd; cases hd
      · exact h

/-- A stream keeps its address. -/
theorem streams_act {c : ClientRef} {a : SocketAddr}
    (h : s.streams c = some a) (e : ServerEvent S) :
    (s.act host e).streams c = some a := by
  cases e with
  | client i now draw =>
      rw [act, deliver]
      split
      · exact h
      · next m _ =>
          cases m with
          | dtls message addr => exact streams_connectStream h
          | groupId g addr isSender =>
              rw [handleClient]
              split <;> exact h
          | mediaAddr addr media => exact h
          | outgoing message addr => exact h
  | datagram buf addr =>
      rw [act]
      split
      · exact h
      · next req _ => cases req <;> exact h
  | recv i => obtain ⟨_, _, heq⟩ := act_recv host s i; rw [heq]; exact h
  | delay i now =>
      obtain ⟨_, _, heq⟩ := act_delay host s i now; rw [heq]; exact h
  | sslRead d => obtain ⟨_, heq⟩ := act_sslRead host s d; rw [heq]; exact h
  | sslWrite d message =>
      obtain ⟨_, heq⟩ := act_sslWrite host s d message; rw [heq]; exact h
  | outgoing d =>
      obtain ⟨_, _, heq⟩ := act_outgoing host s d; rw [heq]; exact h
  | send i buf =>
      obtain ⟨_, _, heq⟩ := act_send host s i buf; rw [heq]; exact h
  | rtc i now sched =>
      rw [act, deliver]
      split <;> exact h
  | offer sdp groupId world => exact h
  | clearData now => exact h
  | poll i x => exact h
  | delete => exact h
  | jitter now => exact h
  | forward i => exact h
  | giveUp i => exact h

end Frame

theorem streams_after (host : Host S M) (pre : List (ServerEvent S))
    {c : ClientRef} {a : SocketAddr}
    (h : (after host pre).streams c = some a) (post : List (ServerEvent S)) :
    (after host (pre ++ post)).streams c = some a := by
  rw [after, Machine.run_append]
  refine Machine.run_invariant (I := fun s : Server S => s.streams c = some a)
    ?_ post h
  intro s e hs
  rw [step]
  split
  · exact streams_act hs e
  · exact hs

/-! ## The mailbox of `UdpSend` -/

theorem toSend_handleClient (s : Server S) (now : Instant)
    (draw : UInt32 → RuntimeDraw) (m : ClientMessage) :
    (s.handleClient now draw m).toSend = s.toSend ++
      match m with
      | .outgoing message addr => [.dtls message addr]
      | _ => [] := by
  cases m with
  | dtls message addr => exact (List.append_nil _).symm
  | mediaAddr addr media => exact (List.append_nil _).symm
  | outgoing message addr => rfl
  | groupId g addr isSender =>
      rw [handleClient]
      simp only [List.append_nil]
      split <;> rfl

theorem toSend_handleRequest (s : Server S) (req : WebRtcRequest) :
    (s.handleRequest req).toSend = s.toSend ++
      match req with
      | .stun req addr =>
          (s.recv.handleStun req addr).2.filterMap StunEffect.toSend
      | _ => [] := by
  cases req with
  | stun req addr => rfl
  | dtls message addr => exact (List.append_nil _).symm
  | rtc message addr => exact (List.append_nil _).symm
  | unknown => exact (List.append_nil _).symm

/-- The events that send nothing: what they add to the mailbox. -/
theorem toSend_act (host : Host S M) (s : Server S) (e : ServerEvent S)
    (h : ∀ i buf, e ≠ .send i buf) :
    (s.act host e).toSend = s.toSend ++ s.queues host e := by
  cases e with
  | send i buf => exact absurd rfl (h i buf)
  | datagram buf addr =>
      rw [act, queues]
      cases WebRtcRequest.fromDatagram buf addr with
      | error e => exact (List.append_nil _).symm
      | ok req =>
          refine (toSend_handleRequest s req).trans ?_
          cases req <;> rfl
  | client i now draw =>
      rw [act, queues, deliver]
      cases s.toClients[i]? with
      | none => exact (List.append_nil _).symm
      | some m =>
          refine (toSend_handleClient _ now draw m).trans ?_
          cases m <;> rfl
  | rtc i now sched =>
      rw [act, queues, deliver]
      cases s.toRtc[i]? with
      | none => exact (List.append_nil _).symm
      | some m => rfl
  | recv i =>
      obtain ⟨_, _, heq⟩ := act_recv host s i
      rw [heq]
      exact (List.append_nil _).symm
  | delay i now =>
      obtain ⟨_, _, heq⟩ := act_delay host s i now
      rw [heq]
      exact (List.append_nil _).symm
  | sslRead c =>
      obtain ⟨_, heq⟩ := act_sslRead host s c
      rw [heq]
      exact (List.append_nil _).symm
  | sslWrite c message =>
      obtain ⟨_, heq⟩ := act_sslWrite host s c message
      rw [heq]
      exact (List.append_nil _).symm
  | outgoing c =>
      obtain ⟨_, _, heq⟩ := act_outgoing host s c
      rw [heq]
      exact (List.append_nil _).symm
  | offer sdp groupId world => exact (List.append_nil _).symm
  | clearData now => exact (List.append_nil _).symm
  | poll i x => exact (List.append_nil _).symm
  | delete => exact (List.append_nil _).symm
  | jitter now => exact (List.append_nil _).symm
  | forward i => exact (List.append_nil _).symm
  | giveUp i => exact (List.append_nil _).symm

theorem mem_toSend_act {host : Host S M} {s : Server S} {e : ServerEvent S}
    {m : WebRtcRequest} (h : m ∈ (s.act host e).toSend) :
    m ∈ s.toSend ∨ m ∈ s.queues host e := by
  cases e with
  | send i buf =>
      rw [act, deliver] at h
      split at h
      · exact .inl h
      · split at h
        · exact .inl h
        · exact .inl (List.mem_of_mem_eraseIdx h)
  | _ =>
      rw [toSend_act host s _ (by simp)] at h
      exact List.mem_append.mp h

/-- What waits for `UdpSend` was given to it by an event of the run. -/
theorem queues_of_mem_toSend {host : Host S M} {es : List (ServerEvent S)}
    {m : WebRtcRequest} (h : m ∈ (after host es).toSend) :
    ∃ pre e post, es = pre ++ e :: post ∧
      m ∈ (after host pre).queues host e := by
  have hstep : ∀ s e m, m ∈ (step host s e).toSend →
      m ∈ s.toSend ∨ m ∈ s.queues host e := by
    intro s e m hm
    rw [step] at hm
    split at hm
    · exact mem_toSend_act hm
    · exact .inl hm
  rcases Machine.exists_of_mem_run hstep es h with hnone | hsome
  · cases hnone
  · exact hsome

theorem subperm_toSend_send (host : Host S M) (s : Server S) (i : Nat)
    (buf : Vector UInt8 1200) :
    ((s.datagrams host (.send i buf)).map Prod.fst ++
      (s.act host (.send i buf)).toSend).Subperm s.toSend := by
  rw [datagrams, act, deliver]
  cases hbox : s.toSend[i]? with
  | none => exact .refl _
  | some m =>
      obtain ⟨hi, rfl⟩ := List.getElem?_eq_some_iff.mp hbox
      have htaken := List.getElem_cons_eraseIdx_perm hi
      simp only []
      cases datagramOf host buf s.toSend[i] with
      | error e => exact .refl _
      | ok d =>
          cases d with
          | none => exact (List.eraseIdx_sublist _ _).subperm
          | some d => exact htaken.subperm

/-- Whatever `UdpSend` sends or has still to send was given to it, and nothing
of it twice. -/
theorem subperm_toSend_step (host : Host S M) (s : Server S)
    (e : ServerEvent S) :
    ((s.sends host e).map Prod.fst ++ (s.step host e).toSend).Subperm
      (s.toSend ++ s.queued host e) := by
  rw [step, queued, sends, whenAllowed, whenAllowed]
  split
  · cases e with
    | send i buf =>
        show List.Subperm _ (s.toSend ++ [])
        rw [List.append_nil]
        exact subperm_toSend_send host s i buf
    | _ => exact List.Perm.subperm (.of_eq (toSend_act host s _ (by simp)))
  · exact (List.sublist_append_left _ _).subperm

/-- No more of a kind is sent in a run than `UdpSend` was given. -/
theorem countP_sends_le_queued (host : Host S M) (p : WebRtcRequest → Bool)
    (es : List (ServerEvent S)) :
    (Machine.trace (step host) (sends host) init es).countP (fun d => p d.1) ≤
      (Machine.trace (step host) (queued host) init es).countP p := by
  have hsent := Machine.trace_subperm (subperm_toSend_step host) es init
  calc (Machine.trace (step host) (sends host) init es).countP (fun d => p d.1)
      = ((Machine.trace (step host) (sends host) init es).map
          Prod.fst).countP p := by
        rw [List.countP_map]
        rfl
    _ ≤ (Machine.trace (step host) (queued host) init es).countP p := by
        rw [Machine.map_trace]
        exact ((List.sublist_append_left _ _).subperm.trans hsent).countP_le _

end Server

end RStreamer
