import RStreamer.Client.RtcEffects

/-!
# What one packet sends

The other half of the handler: the datagrams it hands to `UdpSend`. `prepare`
is everything in front of the forwarding, as one partial function: the packet
as it will be forwarded, the client it came from, and the registry at that
moment. A packet that is not prepared sends nothing, and what a prepared one
sends is what `forward` sends (`sent_handle`).

The fan-out itself runs its receivers in an order nobody knows. In a
well-formed registry this does not matter to the result of a single receiver:
two living receivers of one client are two different clients, so no receiver's
session is touched while another one is served (`independent_live`).
-/

namespace RStreamer.RtcActor

open Registry

variable {S : Type}

/-! ## In front of the forwarding -/

/-- An RTP packet of client `c` that its session decrypts. -/
structure DecryptedRtp (lib : SrtpLib S) (r : Registry S)
    (message : DataPacket) (addr : SocketAddr) (c : ClientRef)
    (header : RtpHeader) : Prop where
  client : r.clientAt addr = some c
  parses : RtpHeader.fromBuf message = .ok (.ok header)
  rtp : isRtcp message = .ok false
  decrypts : ∃ t plain, (r.heap c).srtp = some t ∧
    (t.unprotect lib false message).2 = some plain

theorem runtimeOf_setSrtp (r : Registry S) (c : ClientRef)
    (t : SrtpTransport S) (codec : Option (String × UInt32)) :
    runtimeOf ((r.modifyClient c fun cl => { cl with srtp := some t }).heap c)
      codec = runtimeOf (r.heap c) codec := by
  rw [modifyClient_heap_self]
  rfl

def rewritten (r : Registry S) (now : Instant) (c : ClientRef)
    (p : Prepared) : Option (Registry S × ClientRef × Prepared) :=
  (runtimeOf (r.heap c) p.codecNFrequency).map fun frt =>
    let rw := frt.2.rewrite p.header now
    (updateCounters r c frt.1 rw
        ((r.heap c).jitterStats.verdict frt.1 rw now) now,
      c,
      { p with
        message := replaceSequenceNTimestamp p.message
          rw.runtime.serverSequence rw.runtime.serverTs })

/-- The packet of client `c` after decryption, rewritten if it is media. -/
def decrypted (lib : SrtpLib S) (r : Registry S) (now : Instant)
    (message : DataPacket) (c : ClientRef) (rtcp : Bool)
    (header : RtpHeader) : Option (Registry S × ClientRef × Prepared) :=
  (r.heap c).srtp.bind fun t =>
    (t.unprotect lib rtcp message).2.bind fun plain =>
      let r' := r.modifyClient c fun cl =>
        { cl with srtp := some (t.unprotect lib rtcp message).1 }
      let p : Prepared :=
        { rtcp := rtcp
          header := header
          codecNFrequency :=
            codecNFrequency (r.heap c).media rtcp header.payload
          message := plain }
      if rtcp then some (r', c, p)
      else if header.payload = 111 then none
      else rewritten r' now c p

/-- The registry, the client and the packet as the forwarding gets them. -/
def prepare (lib : SrtpLib S) (r : Registry S) (now : Instant)
    (message : DataPacket) (addr : SocketAddr) :
    Option (Registry S × ClientRef × Prepared) :=
  match r.clientAt addr, RtpHeader.fromBuf message with
  | some c, .ok (.ok header) =>
      decrypted lib r now message c (isRtcp message matches .ok true) header
  | _, _ => none

theorem handle_eq_process {r : Registry S} {message : DataPacket}
    {addr : SocketAddr} {c : ClientRef} {header : RtpHeader} {rtcp : Bool}
    (hat : r.clientAt addr = some c)
    (hbuf : RtpHeader.fromBuf message = .ok (.ok header))
    (hrtcp : isRtcp message = .ok rtcp) (lib : SrtpLib S) (now : Instant)
    (sched : List Receiver) : handle lib r now sched message addr =
      process lib r now sched message addr c rtcp header := by
  simp only [handle, hat, hbuf, hrtcp]
  cases rtcp <;> rfl

theorem prepare_eq_decrypted {r : Registry S} {message : DataPacket}
    {addr : SocketAddr} {c : ClientRef} {header : RtpHeader} {rtcp : Bool}
    (hat : r.clientAt addr = some c)
    (hbuf : RtpHeader.fromBuf message = .ok (.ok header))
    (hrtcp : isRtcp message = .ok rtcp) (lib : SrtpLib S) (now : Instant) :
    prepare lib r now message addr =
      decrypted lib r now message c rtcp header := by
  simp only [prepare, hat, hbuf, hrtcp]
  cases rtcp <;> rfl

def sentOf (lib : SrtpLib S) (addr : SocketAddr) (sched : List Receiver) :
    Option (Registry S × ClientRef × Prepared) → List Emission
  | none => []
  | some (r, c, p) => (forward lib addr p r c sched).sent

theorem sent_process (lib : SrtpLib S) (r : Registry S) (now : Instant)
    (sched : List Receiver) (message : DataPacket) (addr : SocketAddr)
    (c : ClientRef) (rtcp : Bool) (header : RtpHeader) :
    (process lib r now sched message addr c rtcp header).sent =
      sentOf lib addr sched (decrypted lib r now message c rtcp header) := by
  rw [process, decrypted]
  cases (r.heap c).srtp with
  | none => rfl
  | some t =>
      simp only [Option.bind_some]
      cases (t.unprotect lib rtcp message).2 with
      | none => rfl
      | some plain =>
          simp only [Option.bind_some]
          split
          · rfl
          · split
            · rfl
            · rw [handleRtp, rewritten]
              split
              · next hrt => rw [hrt]; rfl
              · next hrt => rw [hrt]; rfl

theorem sent_handle (lib : SrtpLib S) (r : Registry S) (now : Instant)
    (sched : List Receiver) (message : DataPacket) (addr : SocketAddr) :
    (handle lib r now sched message addr).sent =
      sentOf lib addr sched (prepare lib r now message addr) := by
  rw [handle, prepare]
  cases r.clientAt addr with
  | none => rfl
  | some c =>
      cases RtpHeader.fromBuf message with
      | error e => rfl
      | ok res =>
          cases res with
          | error e => rfl
          | ok header => exact sent_process lib r now sched message addr c _ header

/-! Preparing a packet moves counters and the sender's inbound session. -/

def SameOutbound (r r' : Registry S) : Prop :=
  ∀ d, (r'.heap d).srtp.map (fun t => t.server) =
    (r.heap d).srtp.map (fun t => t.server)

/-- What preparing a packet leaves alone. -/
structure Prepares (r r' : Registry S) (p : Prepared) : Prop where
  routes : SameRoutes r r'
  outbound : SameOutbound r r'
  codec : p.rtcp = true → p.codecNFrequency = none

theorem sameOutbound_unprotect {r : Registry S} {c : ClientRef}
    {t : SrtpTransport S} (ht : (r.heap c).srtp = some t) (lib : SrtpLib S)
    (rtcp : Bool) (buf : DataPacket) :
    SameOutbound r (r.modifyClient c fun cl =>
      { cl with srtp := some (t.unprotect lib rtcp buf).1 }) := by
  intro d
  rw [modifyClient_heap]
  split
  · next h => rw [h, ht]; rfl
  · rfl

theorem prepares_rewritten {r r₁ r' : Registry S} {now : Instant}
    {c c' : ClientRef} {p p' : Prepared} (h : Prepares r r₁ p)
    (hx : rewritten r₁ now c p = some (r', c', p')) :
    c' = c ∧ Prepares r r' p' := by
  rw [rewritten] at hx
  obtain ⟨frt, -, heq⟩ := Option.map_eq_some_iff.mp hx
  simp only [Prod.mk.injEq] at heq
  obtain ⟨rfl, rfl, rfl⟩ := heq
  refine ⟨rfl, ⟨?_, ?_, h.codec⟩⟩
  · refine h.routes.trans ?_
    apply sameRoutes_modifyClient <;> intro cl <;> rfl
  · intro d
    rw [← h.outbound d]
    apply modifyClient_heap_field (fun cl => cl.srtp.map fun t => t.server)
    intro cl
    rfl

theorem prepares_decrypted {lib : SrtpLib S} {r r' : Registry S}
    {now : Instant} {message : DataPacket} {c c' : ClientRef} {rtcp : Bool}
    {header : RtpHeader} {p : Prepared}
    (hx : decrypted lib r now message c rtcp header = some (r', c', p)) :
    c' = c ∧ Prepares r r' p := by
  rw [decrypted] at hx
  obtain ⟨t, ht, hx⟩ := Option.bind_eq_some_iff.mp hx
  obtain ⟨plain, -, hx⟩ := Option.bind_eq_some_iff.mp hx
  have hr := (sameButSessions_setSrtp r c
    (t.unprotect lib rtcp message).1).sameRoutes
  have ho := sameOutbound_unprotect ht lib rtcp message
  simp only [] at hx
  split at hx
  · next hrtcp =>
      simp only [Option.some.injEq, Prod.mk.injEq] at hx
      obtain ⟨rfl, rfl, rfl⟩ := hx
      exact ⟨rfl, hr, ho, fun _ => if_pos hrtcp⟩
  · split at hx
    · cases hx
    · next hrtcp _ => exact prepares_rewritten ⟨hr, ho, fun h => absurd h hrtcp⟩ hx

theorem prepare_spec {lib : SrtpLib S} {r r' : Registry S} {now : Instant}
    {message : DataPacket} {addr : SocketAddr} {c : ClientRef} {p : Prepared}
    (hx : prepare lib r now message addr = some (r', c, p)) :
    r.clientAt addr = some c ∧ Prepares r r' p := by
  rw [prepare] at hx
  split at hx
  · next c₀ header hc _ =>
      obtain ⟨rfl, h⟩ := prepares_decrypted hx
      exact ⟨hc, h⟩
  · cases hx

/-! ## The fan-out -/

theorem mem_liveReceivers {r : Registry S} {c : ClientRef}
    {recv : Receiver} : recv ∈ liveReceivers r c ↔
      (r.heap c).receivers.lookup recv.1 = some recv.2 ∧
        (r.heap recv.2).isDeleted = false := by
  rw [liveReceivers, List.mem_filter, Bool.not_eq_true']
  exact and_congr Table.mem_entries_iff Iff.rfl

theorem nodup_liveReceivers (r : Registry S) (c : ClientRef) :
    (liveReceivers r c).Nodup :=
  (Table.entries_nodup _).filter _

theorem clientAt_of_mem_live {r : Registry S} (h : r.WF) {c : ClientRef}
    {recv : Receiver} (hm : recv ∈ liveReceivers r c) :
    r.clientAt recv.1 = some recv.2 := by
  obtain ⟨he, hd⟩ := mem_liveReceivers.mp hm
  exact h.entry_home he hd

theorem eq_of_mem_live {r : Registry S} {c : ClientRef} {x y : Receiver}
    (hx : x ∈ liveReceivers r c) (hy : y ∈ liveReceivers r c)
    (h : x.1 = y.1) : x = y :=
  Table.eq_of_mem_entries (List.mem_of_mem_filter hx)
    (List.mem_of_mem_filter hy) h

theorem sendTo_heap_ne (lib : SrtpLib S) (addr : SocketAddr) (p : Prepared)
    (r : Registry S) (recv : Receiver) {d : ClientRef} (h : d ≠ recv.2) :
    (sendTo lib addr p r recv).1.heap d = r.heap d := by
  rw [sendTo]
  split
  · rfl
  · simp only []
    split <;> simp only [modifyClient_heap_ne _ h]

theorem sendTo_congr (lib : SrtpLib S) (addr : SocketAddr) (p : Prepared)
    {r r' : Registry S} {recv : Receiver}
    (h : r'.heap recv.2 = r.heap recv.2) :
    (sendTo lib addr p r' recv).2 = (sendTo lib addr p r recv).2 := by
  simp only [sendTo]
  rw [h]
  cases (r.heap recv.2).srtp with
  | none => rfl
  | some t =>
      simp only []
      cases (t.protect lib p.rtcp p.message).2 <;> rfl

/-- The living receivers of a client do not disturb each other. -/
theorem independent_live {r : Registry S} (h : r.WF) (lib : SrtpLib S)
    (addr : SocketAddr) (p : Prepared) (c : ClientRef) :
    ParIter.Independent (sendTo lib addr p) (liveReceivers r c) := by
  intro x hx y hy hne s
  refine sendTo_congr lib addr p (sendTo_heap_ne lib addr p s x fun e => ?_)
  have hxa := clientAt_of_mem_live h hx
  have hya := clientAt_of_mem_live h hy
  rw [e] at hya
  exact hne (eq_of_mem_live hx hy (h.stored_inj hxa hya))

/-- A receiver that can be served: it has an SRTP session, and the session
protects the packet. -/
def Ready (lib : SrtpLib S) (p : Prepared) (r : Registry S)
    (recv : Receiver) : Prop :=
  ∃ t, (r.heap recv.2).srtp = some t ∧
    (t.protect lib p.rtcp p.message).2.isSome = true

theorem ready_iff {lib : SrtpLib S} {p : Prepared} {r : Registry S}
    {recv : Receiver} (addr : SocketAddr) : Ready lib p r recv ↔
      ∃ e, (sendTo lib addr p r recv).2 = .ok e := by
  rw [Ready, sendTo]
  cases (r.heap recv.2).srtp with
  | none => simp
  | some t =>
      simp only [Option.some.injEq, exists_eq_left']
      cases (t.protect lib p.rtcp p.message).2 <;> simp

theorem failed_iff_not_ready {lib : SrtpLib S} {p : Prepared}
    {r : Registry S} {recv : Receiver} (addr : SocketAddr) :
    ParIter.failed (recv, (sendTo lib addr p r recv).2) = true ↔
      ¬ Ready lib p r recv := by
  rw [ready_iff addr, ParIter.failed]
  cases (sendTo lib addr p r recv).2 <;> simp

end RStreamer.RtcActor
