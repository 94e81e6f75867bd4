import RStreamer.Proofs.Delivery

/-!
# Whether deleted receivers change the routes

A deleted client stays in the receivers maps it was in. The fan-out skips such
entries, but the test in front of it, whether feedback goes to the receivers or
to the sender, asks if the map is empty and counts them. So the registry is
compared with itself without the entries of deleted clients (`withoutStale`).

Everything up to the forwarding is the same for both, since nothing in front of
it reads a receivers map, and so is the fan-out. What is left is the choice
between the two, which differs for the feedback of a client that has receivers
and all of them deleted: it is dropped, and without the stale entries it would
have gone to the sender (`HeldBack`).
-/

namespace RStreamer

/-- A client with only those receivers that pass `p`. -/
def Client.keepReceivers {S : Type} (p : ClientRef → Bool) (cl : Client S) :
    Client S :=
  { cl with receivers := Table.filter (fun _ t => p t) cl.receivers }

namespace Registry

variable {S : Type}

/-- The registry with the entries of deleted clients taken out of every
receivers map. -/
def withoutStale (r : Registry S) : Registry S :=
  { r with
    heap := fun c => (r.heap c).keepReceivers fun t => !(r.heap t).isDeleted }

theorem withoutStale_modifyClient {f : Client S → Client S}
    (hdel : ∀ cl, (f cl).isDeleted = cl.isDeleted)
    (hkeep : ∀ p cl, (f cl).keepReceivers p = f (cl.keepReceivers p))
    (r : Registry S) (c : ClientRef) :
    (r.modifyClient c f).withoutStale = r.withoutStale.modifyClient c f := by
  have hheap : (r.modifyClient c f).withoutStale.heap =
      (r.withoutStale.modifyClient c f).heap := by
    funext d
    simp only [withoutStale,
      modifyClient_heap_field (fun cl => cl.isDeleted) hdel]
    rw [modifyClient_heap, modifyClient_heap]
    split
    · exact hkeep _ _
    · rfl
  exact congrArg (Registry.mk r.clientStorage r.groups · r.next) hheap

theorem withoutStale_setSrtp (r : Registry S) (c : ClientRef)
    (t : SrtpTransport S) :
    (r.modifyClient c fun cl => { cl with srtp := some t }).withoutStale =
      r.withoutStale.modifyClient c fun cl => { cl with srtp := some t } := by
  apply withoutStale_modifyClient
  · intro cl; rfl
  · intro p cl; rfl

end Registry

namespace RtcActor

open Registry

variable {S : Type}

/-! ## In front of the forwarding -/

theorem rewritten_withoutStale (r : Registry S) (now : Instant)
    (c : ClientRef) (p : Prepared) :
    rewritten r.withoutStale now c p =
      (rewritten r now c p).map fun x => (x.1.withoutStale, x.2) := by
  have hupdate : ∀ f rw v, (updateCounters r c f rw v now).withoutStale =
      updateCounters r.withoutStale c f rw v now := by
    intro f rw v
    apply withoutStale_modifyClient
    · intro cl; rfl
    · intro p cl; rfl
  show (runtimeOf (r.heap c) p.codecNFrequency).map _ =
    ((runtimeOf (r.heap c) p.codecNFrequency).map _).map _
  rw [Option.map_map]
  refine congrFun (congrArg Option.map (funext fun frt => ?_)) _
  simp only [Function.comp_apply, hupdate]
  rfl

theorem decrypted_withoutStale (lib : SrtpLib S) (r : Registry S)
    (now : Instant) (message : DataPacket) (c : ClientRef) (rtcp : Bool)
    (header : RtpHeader) :
    decrypted lib r.withoutStale now message c rtcp header =
      (decrypted lib r now message c rtcp header).map
        fun x => (x.1.withoutStale, x.2) := by
  rw [decrypted, decrypted]
  show (r.heap c).srtp.bind _ = _
  cases (r.heap c).srtp with
  | none => rfl
  | some t =>
      simp only [Option.bind_some]
      cases (t.unprotect lib rtcp message).2 with
      | none => rfl
      | some plain =>
          simp only [Option.bind_some]
          rw [← withoutStale_setSrtp]
          split
          · rfl
          · split
            · rfl
            · exact rewritten_withoutStale _ now c _

theorem prepare_withoutStale (lib : SrtpLib S) (r : Registry S)
    (now : Instant) (message : DataPacket) (addr : SocketAddr) :
    prepare lib r.withoutStale now message addr =
      (prepare lib r now message addr).map
        fun x => (x.1.withoutStale, x.2) := by
  have hclient : r.withoutStale.clientAt addr = r.clientAt addr := rfl
  rw [prepare, prepare, hclient]
  cases r.clientAt addr with
  | none => rfl
  | some c =>
      cases RtpHeader.fromBuf message with
      | error e => rfl
      | ok res =>
          cases res with
          | error e => rfl
          | ok header => exact decrypted_withoutStale lib r now message c _ header

/-! ## Forwarding -/

theorem sendTo_withoutStale (lib : SrtpLib S) (addr : SocketAddr)
    (p : Prepared) (r : Registry S) (recv : Receiver) :
    sendTo lib addr p r.withoutStale recv =
      ((sendTo lib addr p r recv).1.withoutStale,
        (sendTo lib addr p r recv).2) := by
  have hsrtp : (r.withoutStale.heap recv.2).srtp = (r.heap recv.2).srtp := rfl
  rw [sendTo, sendTo, hsrtp]
  cases (r.heap recv.2).srtp with
  | none => rfl
  | some t =>
      simp only []
      rw [← withoutStale_setSrtp]
      cases (t.protect lib p.rtcp p.message).2 with
      | none => rfl
      | some out => rfl

theorem liveReceivers_withoutStale (r : Registry S) (c : ClientRef) :
    liveReceivers r.withoutStale c = liveReceivers r c := by
  show List.filter _ (List.filter _ _) = List.filter _ _
  rw [List.filter_filter]
  exact List.filter_congr fun e _ => Bool.and_self _

theorem sent_fanOut_withoutStale (lib : SrtpLib S) (addr : SocketAddr)
    (p : Prepared) (r : Registry S) (c : ClientRef) (sched : List Receiver) :
    (fanOut lib addr p r.withoutStale c sched).sent =
      (fanOut lib addr p r c sched).sent := by
  simp only [fanOut, liveReceivers_withoutStale,
    ParIter.tryForEach_map (sendTo_withoutStale lib addr p)]

theorem sent_upstream_withoutStale (lib : SrtpLib S) (p : Prepared)
    (r : Registry S) (c : ClientRef) :
    (sendUpstream lib p r.withoutStale c).sent =
      (sendUpstream lib p r c).sent := by
  have hsend : (r.withoutStale.heap c).senderAddr = (r.heap c).senderAddr := rfl
  have hclient : ∀ a, r.withoutStale.clientAt a = r.clientAt a := fun _ => rfl
  have hsrtp : ∀ d, (r.withoutStale.heap d).srtp = (r.heap d).srtp :=
    fun _ => rfl
  rw [sendUpstream, sendUpstream, hsend]
  cases (r.heap c).senderAddr with
  | none => rfl
  | some a =>
      simp only [hclient]
      cases r.clientAt a with
      | none => rfl
      | some d =>
          simp only [hsrtp]
          cases (r.heap d).srtp with
          | none => rfl
          | some t =>
              simp only []
              cases (t.protect lib true p.message).2 <;> rfl

/-- The client has receivers, and every one of them is deleted. -/
def OnlyStale (r : Registry S) (c : ClientRef) : Prop :=
  Table.isEmpty (r.heap c).receivers = false ∧ liveReceivers r c = []

instance (r : Registry S) (c : ClientRef) : Decidable (OnlyStale r c) :=
  inferInstanceAs (Decidable (_ ∧ _))

theorem onlyStale_iff {r r' : Registry S} (h : SameRoutes r r')
    (c : ClientRef) : OnlyStale r' c ↔ OnlyStale r c := by
  simp only [OnlyStale, liveReceivers, h.receivers, h.isDeleted]

theorem isEmpty_receivers_withoutStale (r : Registry S) (c : ClientRef) :
    Table.isEmpty (r.withoutStale.heap c).receivers =
      (liveReceivers r c).isEmpty := rfl

/-- Nobody is served when only deleted clients are left in the map. -/
theorem sent_forward_of_onlyStale (lib : SrtpLib S) (addr : SocketAddr)
    (p : Prepared) {r : Registry S} {c : ClientRef} (h : OnlyStale r c)
    (sched : List Receiver) : (forward lib addr p r c sched).sent = [] := by
  rw [forward, h.1, Bool.and_false, if_neg Bool.false_ne_true, fanOut, h.2]
  have hpick : ParIter.picked [] sched = [] :=
    List.eq_nil_iff_forall_not_mem.mpr fun x hx => by
      cases (ParIter.mem_picked.mp hx).2
  simp only [ParIter.tryForEach, hpick, ParIter.left, List.filter_nil]
  rfl

/-- Only the feedback of a client with nothing but deleted receivers takes
another way without them. -/
theorem sent_forward_withoutStale (lib : SrtpLib S) (addr : SocketAddr)
    (p : Prepared) (r : Registry S) (c : ClientRef) (sched : List Receiver) :
    (forward lib addr p r.withoutStale c sched).sent =
      if p.rtcp = true ∧ OnlyStale r c then (sendUpstream lib p r c).sent
      else (forward lib addr p r c sched).sent := by
  rw [forward, forward, isEmpty_receivers_withoutStale]
  by_cases hlive : liveReceivers r c = []
  · cases hempty : Table.isEmpty (r.heap c).receivers with
    | true =>
        -- an empty map is the same map without its stale entries
        have hnot : ¬ (p.rtcp = true ∧ OnlyStale r c) := fun h => by
          rw [h.2.1] at hempty; cases hempty
        rw [if_neg hnot, hlive, List.isEmpty_nil]
        split
        · exact sent_upstream_withoutStale lib p r c
        · exact sent_fanOut_withoutStale lib addr p r c sched
    | false =>
        have hstale : OnlyStale r c := ⟨hempty, hlive⟩
        rw [hlive, List.isEmpty_nil, Bool.and_true, Bool.and_false]
        cases p.rtcp with
        | true =>
            rw [if_pos rfl, if_pos ⟨rfl, hstale⟩]
            exact sent_upstream_withoutStale lib p r c
        | false =>
            rw [if_neg Bool.false_ne_true, if_neg fun h => by cases h.1]
            exact sent_fanOut_withoutStale lib addr p r c sched
  · have hempty : Table.isEmpty (r.heap c).receivers = false := by
      rw [Table.isEmpty, List.isEmpty_eq_false_iff]
      intro hnil
      exact hlive (by rw [liveReceivers, hnil]; rfl)
    have hnot : ¬ (p.rtcp = true ∧ OnlyStale r c) := fun h => hlive h.2.2
    rw [if_neg hnot, hempty,
      List.isEmpty_eq_false_iff.mpr hlive, Bool.and_false,
      if_neg Bool.false_ne_true, if_neg Bool.false_ne_true]
    exact sent_fanOut_withoutStale lib addr p r c sched

/-! ## The way upstream -/

/-- Client `c` has a sender that is stored, and the session of that sender
protects `plain`. -/
def Reaches (lib : SrtpLib S) (r : Registry S) (c : ClientRef)
    (plain : DataPacket) : Prop :=
  ∃ a d t, (r.heap c).senderAddr = some a ∧ r.clientAt a = some d ∧
    (r.heap d).srtp = some t ∧ (t.protect lib true plain).2.isSome = true

theorem sent_upstream_ne_nil_iff {lib : SrtpLib S} {p : Prepared}
    {r : Registry S} {c : ClientRef} :
    (sendUpstream lib p r c).sent ≠ [] ↔ Reaches lib r c p.message := by
  rw [sendUpstream, Reaches]
  cases (r.heap c).senderAddr with
  | none => simp
  | some a =>
      cases hat : r.clientAt a with
      | none => simp [hat]
      | some d =>
          cases hs : (r.heap d).srtp with
          | none => simp [hat, hs]
          | some t =>
              cases ho : (t.protect lib true p.message).2 with
              | none => simp [hat, hs, ho]
              | some out => simp [hat, hs, ho]

theorem Prepares.reaches_iff {r r' : Registry S} {p : Prepared}
    (h : Prepares r r' p) {lib : SrtpLib S} {c : ClientRef}
    {plain : DataPacket} : Reaches lib r' c plain ↔ Reaches lib r c plain := by
  have hprotect : ∀ d, (∃ t, (r'.heap d).srtp = some t ∧
      (t.protect lib true plain).2.isSome = true) ↔
        ∃ t, (r.heap d).srtp = some t ∧
          (t.protect lib true plain).2.isSome = true := by
    intro d
    have hserver := h.outbound d
    cases ht : (r.heap d).srtp with
    | none =>
        rw [ht, Option.map_none, Option.map_eq_none_iff] at hserver
        rw [hserver]
    | some t =>
        rw [ht, Option.map_some] at hserver
        obtain ⟨t', ht', hs⟩ := Option.map_eq_some_iff.mp hserver
        rw [ht']
        simp only [Option.some.injEq, exists_eq_left', SrtpTransport.protect,
          hs]
  simp only [Reaches, h.routes.senderAddr, h.routes.clientAt]
  refine exists_congr fun a => exists_congr fun d => ?_
  simp only [exists_and_left, hprotect]

/-! ## The comparison -/

/-- The packet is feedback of a stored client and can be decrypted, the client
has receivers and all of them are deleted, and its sender could be reached. -/
def HeldBack (lib : SrtpLib S) (r : Registry S) (message : DataPacket)
    (addr : SocketAddr) : Prop :=
  isRtcp message = .ok true ∧
    ∃ c t plain, r.clientAt addr = some c ∧ (r.heap c).srtp = some t ∧
      (t.unprotect lib true message).2 = some plain ∧ OnlyStale r c ∧
      Reaches lib r c plain

/-- The address and the bytes of every datagram. -/
def emitted (sent : List Emission) : List (SocketAddr × DataPacket) :=
  sent.map fun e => (e.addr, e.packet)

theorem exists_fromBuf_of_rtcp {message : DataPacket}
    (h : isRtcp message = .ok true) :
    ∃ header, RtpHeader.fromBuf message = .ok (.ok header) := by
  rw [isRtcp_eq, Except.ok.injEq, decide_eq_true_eq] at h
  exact ⟨_, by rw [RtpHeader.fromBuf_eq, if_pos h.1]⟩

/-- What feedback is when it is forwarded: the decrypted packet. -/
theorem prepare_rtcp_iff {lib : SrtpLib S} {r : Registry S} (now : Instant)
    {message : DataPacket} {addr : SocketAddr} {c : ClientRef}
    {plain : DataPacket} :
    (∃ r' p, prepare lib r now message addr = some (r', c, p) ∧
      p.rtcp = true ∧ p.message = plain) ↔
    isRtcp message = .ok true ∧ ∃ t, r.clientAt addr = some c ∧
      (r.heap c).srtp = some t ∧
      (t.unprotect lib true message).2 = some plain := by
  refine ⟨?_, ?_⟩
  · rintro ⟨r', p, hprep, hrtcp, rfl⟩
    rw [prepare] at hprep
    split at hprep
    · next c₀ header hc _ =>
        rw [decrypted] at hprep
        obtain ⟨t, ht, hprep⟩ := Option.bind_eq_some_iff.mp hprep
        obtain ⟨plain, hplain, hprep⟩ := Option.bind_eq_some_iff.mp hprep
        dsimp only at hprep
        rcases isRtcp_cases message with hr | hr
        · rw [hr] at hprep hplain
          cases hprep
          exact ⟨hr, t, hc, ht, hplain⟩
        · rw [hr] at hprep
          rw [if_neg Bool.false_ne_true] at hprep
          split at hprep
          · cases hprep
          · rw [rewritten] at hprep
            obtain ⟨frt, -, heq⟩ := Option.map_eq_some_iff.mp hprep
            cases heq
            cases hrtcp
    · cases hprep
  · rintro ⟨hr, t, hc, ht, hplain⟩
    obtain ⟨header, hheader⟩ := exists_fromBuf_of_rtcp hr
    have hprep : prepare lib r now message addr =
        some (r.modifyClient c fun cl =>
            { cl with srtp := some (t.unprotect lib true message).1 }, c,
          { rtcp := true
            header := header
            codecNFrequency :=
              codecNFrequency (r.heap c).media true header.payload
            message := plain }) := by
      rw [prepare, hc, hheader, hr]
      simp only [decrypted, ht, Option.bind_some, hplain, if_true]
    exact ⟨_, _, hprep, rfl, rfl⟩

theorem heldBack_iff {lib : SrtpLib S} {r : Registry S} {message : DataPacket}
    {addr : SocketAddr} (now : Instant) : HeldBack lib r message addr ↔
      ∃ r' c p, prepare lib r now message addr = some (r', c, p) ∧
        p.rtcp = true ∧ OnlyStale r' c ∧
        (sendUpstream lib p r' c).sent ≠ [] := by
  refine ⟨?_, ?_⟩
  · rintro ⟨hr, c, t, plain, hc, ht, hplain, hstale, hreach⟩
    obtain ⟨r', p, hprep, hrtcp, rfl⟩ :=
      (prepare_rtcp_iff now).mpr ⟨hr, t, hc, ht, hplain⟩
    obtain ⟨-, h⟩ := prepare_spec hprep
    refine ⟨r', c, p, hprep, hrtcp, (onlyStale_iff h.routes c).mpr hstale, ?_⟩
    exact sent_upstream_ne_nil_iff.mpr (h.reaches_iff.mpr hreach)
  · rintro ⟨r', c, p, hprep, hrtcp, hstale, hsent⟩
    obtain ⟨-, h⟩ := prepare_spec hprep
    obtain ⟨hr, t, hc, ht, hplain⟩ :=
      (prepare_rtcp_iff now).mp ⟨r', p, hprep, hrtcp, rfl⟩
    exact ⟨hr, c, t, p.message, hc, ht, hplain,
      (onlyStale_iff h.routes c).mp hstale,
      h.reaches_iff.mp (sent_upstream_ne_nil_iff.mp hsent)⟩

/-- For every registry and packet: what is sent is what would be sent without
the entries of deleted clients, unless the packet is held back, and then it is
nothing. -/
theorem sent_withoutStale (lib : SrtpLib S) (r : Registry S) (now : Instant)
    (sched : List Receiver) (message : DataPacket) (addr : SocketAddr) :
    (HeldBack lib r message addr →
      (handle lib r now sched message addr).sent = [] ∧
      (handle lib r.withoutStale now sched message addr).sent ≠ []) ∧
    (¬ HeldBack lib r message addr →
      (handle lib r.withoutStale now sched message addr).sent =
        (handle lib r now sched message addr).sent) := by
  rw [sent_handle, sent_handle, prepare_withoutStale, heldBack_iff now]
  cases hprep : prepare lib r now message addr with
  | none =>
      refine ⟨?_, fun _ => rfl⟩
      rintro ⟨r', c, p, hnone, -⟩
      cases hnone
  | some x =>
      obtain ⟨r', c, p⟩ := x
      simp only [Option.map_some, sentOf, sent_forward_withoutStale]
      refine ⟨?_, ?_⟩
      · rintro ⟨r₁, c₁, p₁, heq, hrtcp, hstale, hsent⟩
        cases heq
        rw [if_pos ⟨hrtcp, hstale⟩]
        exact ⟨sent_forward_of_onlyStale lib addr p hstale sched, hsent⟩
      · intro hnot
        split
        · next hc =>
            rw [sent_forward_of_onlyStale lib addr p hc.2]
            by_contra hsent
            exact hnot ⟨r', c, p, rfl, hc.1, hc.2, hsent⟩
        · rfl

/-- In every reachable state, for every packet and schedule: the datagrams are
those of the state without the entries of deleted clients if and only if the
packet is not held back. -/
theorem stale_entries_inert_iff (lib : SrtpLib S) (es : List (Event S))
    (message : DataPacket) (addr : SocketAddr) (now : Instant)
    (sched : List Receiver) :
    (∀ q, q ∈ emitted (handle lib (System.after lib es).registry now sched
          message addr).sent ↔
        q ∈ emitted (handle lib (System.after lib es).registry.withoutStale now
          sched message addr).sent) ↔
      ¬ HeldBack lib (System.after lib es).registry message addr := by
  obtain ⟨hheld, hsame⟩ := sent_withoutStale lib
    (System.after lib es).registry now sched message addr
  refine ⟨?_, ?_⟩
  · intro h hc
    obtain ⟨hnil, hsent⟩ := hheld hc
    obtain ⟨e, he⟩ := List.exists_mem_of_ne_nil _ hsent
    have hmem := (h _).mpr (List.mem_map_of_mem he)
    rw [hnil] at hmem
    cases hmem
  · intro hc q
    rw [hsame hc]

/-! A viewer that was the first in its group, so that the second one became its
receiver. The first viewer then joins the group of a sender, and the second one
leaves. -/

/-- The first viewer, the second one and the sender are clients 0, 1 and 2. -/
def secondViewerLeaves : List (ClientActor.Message Unit) :=
  [.dtls (.host 1) 0, .dtls (.host 2) 0, .dtls (.host 3) 0,
    .connected 0 ⟨(), ()⟩, .connected 2 ⟨(), ()⟩,
    .groupId 1 (.host 1) false, .groupId 1 (.host 2) false,
    .groupId 2 (.host 3) true, .groupId 2 (.host 1) false,
    .delete (.host 2)]

/-- Nobody takes a group over: every message is handled to its end. -/
example : (Machine.run? ClientActor.handle? Registry.init
    secondViewerLeaves).isSome = true := by decide +kernel

def staleFirstViewer : List (Event Unit) := secondViewerLeaves.map .client

/-- A receiver report under the null cipher. -/
def receiverReport : DataPacket :=
  [128, 201, 0, 1, 0, 0, 0, 9, 0, 0, 0, 1, 42] ++ nullTag

/-- The feedback of the first viewer does not reach the sender. -/
theorem stale_receiver_holds_feedback_back :
    ¬ ∀ (es : List (Event Unit)) (message : DataPacket) (addr : SocketAddr)
      (now : Instant) (sched : List Receiver) (q : SocketAddr × DataPacket),
      q ∈ emitted (handle SrtpLib.null (System.after SrtpLib.null es).registry
          now sched message addr).sent ↔
        q ∈ emitted (handle SrtpLib.null
          (System.after SrtpLib.null es).registry.withoutStale now sched
          message addr).sent := by
  intro h
  have hiff := h staleFirstViewer receiverReport (.host 1) 0 []
    (.host 3, receiverReport)
  revert hiff
  decide +kernel

end RtcActor

end RStreamer
