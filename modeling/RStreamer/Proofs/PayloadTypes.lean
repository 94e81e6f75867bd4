import RStreamer.Proofs.Delivery

/-!
# Payload types on the way to a receiver

Two clients of one group may number the same codec differently, and a packet is
read with the numbers of the client that reads it. `preparePayload` is where a
receiver's number would be written into its copy. It runs for feedback only,
which has no codec, so a media packet keeps the number of its sender all the
way: what a receiver decrypts carries the payload type it wants exactly when
the two tables agree on the codec (`payload_translated_iff`).
-/

namespace RStreamer.RtcActor

open Registry

variable {S : Type}

/-- The packet has marker bit `marker` and payload type `payload`. -/
def Carries (packet : DataPacket) (marker : Bool) (payload : UInt8) : Prop :=
  packet[1]?.map (fun b : UInt8 => (b >>> 7 == 1, b &&& 0b01111111)) =
    some (marker, payload)

instance (packet : DataPacket) (marker : Bool) (payload : UInt8) :
    Decidable (Carries packet marker payload) :=
  inferInstanceAs (Decidable (_ = _))

theorem Carries.payload_inj {packet : DataPacket} {m n : Bool} {p q : UInt8}
    (hp : Carries packet m p) (hq : Carries packet n q) : p = q := by
  rw [Carries] at hp hq
  rw [hp] at hq
  cases hq
  rfl

theorem carries_of_fromBuf {buf : DataPacket} {header : RtpHeader}
    (h : RtpHeader.fromBuf buf = .ok (.ok header)) :
    Carries buf header.marker header.payload := by
  rw [RtpHeader.fromBuf_eq] at h
  split at h
  · next hh =>
      have hlen : 12 < buf.length := hh.1
      cases h
      rw [Carries, List.getElem?_eq_getElem (show 1 < buf.length by omega),
        List.getD_eq_getElem?_getD,
        List.getElem?_eq_getElem (show 1 < buf.length by omega)]
      rfl
  · cases h

/-- Rewriting the counters leaves the second byte of the header alone. -/
theorem Carries.replaceSequenceNTimestamp {buf : DataPacket} {marker : Bool}
    {payload : UInt8} (h : Carries buf marker payload) (sequence : UInt16)
    (timestamp : UInt32) :
    Carries (replaceSequenceNTimestamp buf sequence timestamp) marker
      payload := by
  have hlen : 2 ≤ buf.length := by
    by_contra hshort
    rw [Carries, List.getElem?_eq_none (by omega)] at h
    cases h
  rw [Carries, replaceSequenceNTimestamp_getElem?_one hlen]
  exact h

section Lawful

variable {lib : SrtpLib S} {peer : S → S → Prop}

theorem Carries.unprotect (hlib : lib.Lawful peer) {t : SrtpTransport S}
    {buf plain : DataPacket} {marker : Bool} {payload : UInt8}
    (h : Carries buf marker payload)
    (hplain : (t.unprotect lib false buf).2 = some plain) :
    Carries plain marker payload := by
  have hclear : plain.take 12 = buf.take 12 := hlib.header_clear hplain
  have hbyte : plain[1]? = buf[1]? := by
    rw [← List.getElem?_take_of_lt (show 1 < 12 by decide), hclear,
      List.getElem?_take_of_lt (by decide)]
  rw [Carries, hbyte]
  exact h

/-- A media packet is forwarded with the marker and the payload type it came
with. -/
theorem carries_prepare (hlib : lib.Lawful peer) {r r' : Registry S}
    {now : Instant} {message : DataPacket} {addr : SocketAddr} {c : ClientRef}
    {p : Prepared} {header : RtpHeader} (hrtp : isRtcp message = .ok false)
    (hheader : RtpHeader.fromBuf message = .ok (.ok header))
    (h : prepare lib r now message addr = some (r', c, p)) :
    p.rtcp = false ∧ Carries p.message header.marker header.payload := by
  rw [prepare, hheader, hrtp] at h
  split at h
  · next c₀ header₀ _ heq =>
      cases heq
      rw [decrypted] at h
      obtain ⟨t, -, h⟩ := Option.bind_eq_some_iff.mp h
      obtain ⟨plain, hplain, h⟩ := Option.bind_eq_some_iff.mp h
      have hcarries := (carries_of_fromBuf hheader).unprotect hlib hplain
      simp only [Bool.false_eq_true, if_false] at h
      split at h
      · cases h
      · rw [rewritten] at h
        obtain ⟨frt, -, heq⟩ := Option.map_eq_some_iff.mp h
        simp only [Prod.mk.injEq] at heq
        obtain ⟨-, -, rfl⟩ := heq
        exact ⟨rfl, hcarries.replaceSequenceNTimestamp _ _⟩
  · cases h

/-- The payload type the table of `recv` gives the codec that the table of the
client at `addr` has for `payload`. -/
def translated (r : Registry S) (addr : SocketAddr) (recv : ClientRef)
    (payload : UInt8) : Option UInt8 :=
  (r.clientAt addr).bind fun s =>
    (r.heap s).media.bind fun senderMedia =>
      (senderMedia.getName payload).bind fun codec =>
        (r.heap recv).media.bind fun media => media.getId codec

/-- In every reachable state, for every copy of every media packet: what the
receiver decrypts has the payload type its own table gives the codec, and the
marker of the packet, if and only if that payload type is the packet's own. -/
theorem payload_translated_iff (lib : SrtpLib S) (peer : S → S → Prop)
    (hlib : lib.Lawful peer) (es : List (Event S)) (message : DataPacket)
    (addr : SocketAddr) (now : Instant) (sched : List Receiver)
    (header : RtpHeader) (e : Emission) (t : SrtpTransport S) (inn : S)
    (hrtp : isRtcp message = .ok false)
    (hheader : RtpHeader.fromBuf message = .ok (.ok header))
    (he : e ∈ (handle lib (System.after lib es).registry now sched message
      addr).sent)
    (ht : ((System.after lib es).registry.heap e.via).srtp = some t)
    (hpeer : peer t.server inn) :
    ∀ q, translated (System.after lib es).registry addr e.via
        header.payload = some q →
      ((∃ plain, (lib.unprotect inn e.packet).2 = some plain ∧
        Carries plain header.marker q) ↔ q = header.payload) := by
  intro q _
  obtain ⟨-, t', r', c, p, ht', hprep, hout⟩ :=
    mem_sent_handle (System.wf_after lib es) he
  obtain ⟨hmedia, hcarries⟩ := carries_prepare hlib hrtp hheader hprep
  rw [ht] at ht'
  cases ht'
  rw [hmedia, if_neg Bool.false_ne_true] at hout
  have hplain : (lib.unprotect inn e.packet).2 = some p.message :=
    hlib.undo hpeer hout
  refine ⟨?_, ?_⟩
  · rintro ⟨plain, heq, hq⟩
    rw [hplain] at heq
    cases heq
    exact hq.payload_inj hcarries
  · rintro rfl
    exact ⟨p.message, hplain, hcarries⟩

end Lawful

/-! ## Two numbers for one codec -/

def vp8At97 : MediaList := MediaList.empty.insert 97 "VP8" 90000

/-- A sender that numbers its codec 96, and a viewer with table `media`. -/
def senderAndViewer (media : MediaList) : List (Event Unit) :=
  [.client (.dtls (.host 1) 0), .client (.dtls (.host 2) 0),
    .client (.connected 0 ⟨(), ()⟩), .client (.connected 1 ⟨(), ()⟩),
    .client (.mediaAddr (.host 1) MediaList.vp8 0 fun _ => RuntimeDraw.least),
    .client (.mediaAddr (.host 2) media 0 fun _ => RuntimeDraw.least),
    .client (.groupId 1 (.host 1) true), .client (.groupId 1 (.host 2) false)]

/-- A packet of payload type 96, marked, as the sender's cipher sends it. -/
def markedPacket : DataPacket :=
  [128, 224, 0, 7, 0, 0, 0, 9, 0, 0, 0, 1, 42] ++
    [128, 224, 0, 7, 0, 0, 0, 9, 0, 0, 0, 1]

def markedCopy : DataPacket :=
  [128, 224, 0, 1, 0, 0, 0, 1, 0, 0, 0, 1, 42] ++
    [128, 224, 0, 1, 0, 0, 0, 1, 0, 0, 0, 1]

theorem payload_kept_for_agreeing_viewer :
    ∃ plain, (SrtpLib.tagged.unprotect () markedCopy).2 = some plain ∧
      Carries plain true 96 :=
  (payload_translated_iff SrtpLib.tagged (fun _ _ => True)
    SrtpLib.lawful_tagged (senderAndViewer MediaList.vp8) markedPacket
    (.host 1) 0 [] ⟨true, 96, 7, 9⟩ ⟨.host 2, markedCopy, 1⟩ ⟨(), ()⟩ ()
    (by decide +kernel) (by decide +kernel) (by decide +kernel) rfl trivial
    96 (by decide +kernel)).mpr rfl

/-- The viewer numbers the codec 97, and what it decrypts says 96. -/
theorem payload_not_translated :
    ¬ ∀ (lib : SrtpLib Unit) (peer : Unit → Unit → Prop),
      lib.Lawful peer → ∀ (es : List (Event Unit)) (message : DataPacket)
      (addr : SocketAddr) (now : Instant) (sched : List Receiver)
      (header : RtpHeader) (e : Emission) (t : SrtpTransport Unit)
      (inn : Unit), isRtcp message = .ok false →
      RtpHeader.fromBuf message = .ok (.ok header) →
      e ∈ (handle lib (System.after lib es).registry now sched message
        addr).sent →
      ((System.after lib es).registry.heap e.via).srtp = some t →
      peer t.server inn →
      ∀ q, translated (System.after lib es).registry addr e.via
          header.payload = some q →
        ∃ plain, (lib.unprotect inn e.packet).2 = some plain ∧
          Carries plain header.marker q := by
  intro h
  obtain ⟨plain, hplain, hcarries⟩ := h SrtpLib.tagged (fun _ _ => True)
    SrtpLib.lawful_tagged (senderAndViewer vp8At97) markedPacket (.host 1) 0 []
    ⟨true, 96, 7, 9⟩ ⟨.host 2, markedCopy, 1⟩ ⟨(), ()⟩ () (by decide +kernel)
    (by decide +kernel) (by decide +kernel) rfl trivial 97 (by decide +kernel)
  have hcopy : (SrtpLib.tagged.unprotect () markedCopy).2 =
      some [128, 224, 0, 1, 0, 0, 0, 1, 0, 0, 0, 1, 42] := by decide +kernel
  rw [hcopy] at hplain
  cases hplain
  revert hcarries
  decide +kernel

end RStreamer.RtcActor
