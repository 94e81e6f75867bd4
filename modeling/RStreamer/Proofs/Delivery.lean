import RStreamer.Client.Sending
import RStreamer.System

/-!
# Who gets a packet

Two results about the datagrams of one packet, in every reachable state.

The first is about *where* they go. Receivers maps keep clients long after they
were deleted, and a new client may be stored at the address of an old one, so
the address of a datagram alone says little. `sent_to_live_client` says that
each datagram was protected with the outbound session of the client stored at
its address at that moment, and that this client is not deleted. The fan-out
gets this from `Registry.WF`, the way upstream from the lookup it starts with.

The second is about *whether* they go. The fan-out stops at its first failure,
and receivers it has not started by then get nothing. So a receiver that is
ready is served under every schedule exactly when no other living receiver can
fail before it: all living receivers of the client are ready, or none is
(`fan_out_isolated_iff`). A receiver is in the map from its first datagram on
and not ready before its handshake ends, so the mixed case is the common one.
-/

namespace RStreamer.RtcActor

open Registry

variable {S : Type}

/-! ## The results of a fan-out -/

/-- The copy of a packet for one receiver, if the receiver can be served. -/
def copyFor (lib : SrtpLib S) (p : Prepared) (r : Registry S)
    (recv : Receiver) : Option Emission :=
  (r.heap recv.2).srtp.bind fun t =>
    (t.protect lib p.rtcp p.message).2.map fun out => ⟨recv.1, out, recv.2⟩

theorem copyFor_eq_some {lib : SrtpLib S} {p : Prepared} {r : Registry S}
    {recv : Receiver} {e : Emission} :
    copyFor lib p r recv = some e ↔
      ∃ t, (r.heap recv.2).srtp = some t ∧
        (t.protect lib p.rtcp p.message).2 = some e.packet ∧
        e.addr = recv.1 ∧ e.via = recv.2 := by
  rw [copyFor, Option.bind_eq_some_iff]
  refine exists_congr fun t => and_congr_right fun _ => ?_
  rw [Option.map_eq_some_iff]
  refine ⟨?_, ?_⟩
  · rintro ⟨out, hout, rfl⟩
    exact ⟨hout, rfl, rfl⟩
  · rintro ⟨hout, ha, hv⟩
    exact ⟨e.packet, hout, by rw [← ha, ← hv]⟩

theorem ready_iff_copyFor {lib : SrtpLib S} {p : Prepared} {r : Registry S}
    {recv : Receiver} :
    Ready lib p r recv ↔ (copyFor lib p r recv).isSome = true := by
  rw [Ready, copyFor]
  cases (r.heap recv.2).srtp with
  | none => simp
  | some t => simp

/-- The payload type is only ever rewritten for feedback, and feedback has no
codec. -/
theorem preparePayload_eq {p : Prepared}
    (h : p.rtcp = true → p.codecNFrequency = none) (media : Option MediaList)
    (message : DataPacket) : preparePayload p media message = message := by
  rw [preparePayload]
  split
  · next hr => rw [h hr]
  · rfl

theorem emission_sendTo {p : Prepared}
    (h : p.rtcp = true → p.codecNFrequency = none) (lib : SrtpLib S)
    (addr : SocketAddr) (r : Registry S) (recv : Receiver) :
    (match (sendTo lib addr p r recv).2 with
      | .ok e => some e
      | .error _ => none) = copyFor lib p r recv := by
  rw [sendTo, copyFor]
  cases (r.heap recv.2).srtp with
  | none => rfl
  | some t =>
      simp only [Option.bind_some]
      cases (t.protect lib p.rtcp p.message).2 with
      | none => rfl
      | some out => simp only [preparePayload_eq h, Option.map_some]

theorem emissions_map {p : Prepared}
    (h : p.rtcp = true → p.codecNFrequency = none) (lib : SrtpLib S)
    (addr : SocketAddr) (r : Registry S) (xs : List Receiver) :
    emissions (xs.map fun x => (x, (sendTo lib addr p r x).2)) =
      xs.filterMap (copyFor lib p r) := by
  rw [emissions, List.filterMap_map]
  exact congrArg (fun f => xs.filterMap f)
    (funext fun x => emission_sendTo h lib addr r x)

/-- What a fan-out sends: the copies of the receivers it started with, if one
of them fails, and of all living receivers otherwise. -/
theorem sent_fanOut {r : Registry S} (hwf : r.WF) {p : Prepared}
    (h : p.rtcp = true → p.codecNFrequency = none) (lib : SrtpLib S)
    (addr : SocketAddr) (c : ClientRef) (sched : List Receiver) :
    let first := ParIter.picked (liveReceivers r c) sched
    ((∃ x ∈ first, ¬ Ready lib p r x) →
      (fanOut lib addr p r c sched).sent = first.filterMap (copyFor lib p r)) ∧
    ((∀ x ∈ first, Ready lib p r x) →
      (fanOut lib addr p r c sched).sent =
        (first ++ ParIter.left (liveReceivers r c) sched).filterMap
          (copyFor lib p r)) := by
  have hres := ParIter.tryForEach_results (independent_live hwf lib addr p c)
    (nodup_liveReceivers r c) r sched
  have hfail : ((ParIter.picked (liveReceivers r c) sched).map
      fun x => (x, (sendTo lib addr p r x).2)).any ParIter.failed = true ↔
        ∃ x ∈ ParIter.picked (liveReceivers r c) sched, ¬ Ready lib p r x := by
    rw [List.any_map, List.any_eq_true]
    exact exists_congr fun x => and_congr_right fun _ =>
      failed_iff_not_ready addr
  simp only [fanOut, hres]
  refine ⟨?_, ?_⟩
  · intro hx
    rw [if_pos (hfail.mpr hx), emissions_map h]
  · intro hx
    rw [if_neg fun hany => ?_, emissions_map h]
    obtain ⟨x, hmem, hnot⟩ := hfail.mp hany
    exact hnot (hx x hmem)

theorem mem_sent_fanOut {r : Registry S} (hwf : r.WF) {p : Prepared}
    (h : p.rtcp = true → p.codecNFrequency = none) {lib : SrtpLib S}
    {addr : SocketAddr} {c : ClientRef} {sched : List Receiver} {e : Emission}
    (he : e ∈ (fanOut lib addr p r c sched).sent) :
    ∃ recv ∈ liveReceivers r c, copyFor lib p r recv = some e := by
  obtain ⟨hfail, hall⟩ := sent_fanOut hwf h lib addr c sched
  by_cases hx : ∃ x ∈ ParIter.picked (liveReceivers r c) sched,
      ¬ Ready lib p r x
  · rw [hfail hx] at he
    obtain ⟨recv, hmem, heq⟩ := List.mem_filterMap.mp he
    exact ⟨recv, (ParIter.mem_picked.mp hmem).2, heq⟩
  · have hready : ∀ x ∈ ParIter.picked (liveReceivers r c) sched,
        Ready lib p r x := by
      intro x hmem
      by_contra hnot
      exact hx ⟨x, hmem, hnot⟩
    rw [hall hready] at he
    obtain ⟨recv, hmem, heq⟩ := List.mem_filterMap.mp he
    exact ⟨recv, ((ParIter.perm_picked_left (nodup_liveReceivers r c)
      sched).mem_iff).mp hmem, heq⟩

/-! ## A viewer in its handshake

A sender with two viewers in its group. The first viewer has finished its
handshake, the second has only sent its first datagram. -/

/-- The sender, the ready viewer and the one in its handshake, as clients 0, 1
and 2. -/
def groupOfThree : List (Event Unit) :=
  [.client (.dtls (.host 1) 0), .client (.dtls (.host 2) 0),
    .client (.dtls (.host 3) 0),
    .client (.connected 0 ⟨(), ()⟩), .client (.connected 1 ⟨(), ()⟩),
    .client (.mediaAddr (.host 1) MediaList.vp8 0 fun _ => RuntimeDraw.least),
    .client (.groupId 1 (.host 1) true),
    .client (.groupId 1 (.host 2) false),
    .client (.groupId 1 (.host 3) false)]

/-- The same group once the second viewer has finished its handshake. -/
def groupOfThreeReady : List (Event Unit) :=
  groupOfThree ++ [.client (.connected 2 ⟨(), ()⟩)]

/-! ## Where datagrams go -/

theorem mem_sent_upstream {lib : SrtpLib S} {p : Prepared} {r : Registry S}
    {c : ClientRef} {e : Emission} (he : e ∈ (sendUpstream lib p r c).sent) :
    ∃ t, r.clientAt e.addr = some e.via ∧ (r.heap e.via).srtp = some t ∧
      (t.protect lib true p.message).2 = some e.packet := by
  rw [sendUpstream] at he
  split at he
  · cases he
  · split at he
    · cases he
    · next senderAddr _ sender hat =>
        split at he
        · cases he
        · next t ht =>
            simp only [] at he
            split at he
            · cases he
            · next out hout =>
                cases List.mem_singleton.mp he
                exact ⟨t, hat, ht, hout⟩

theorem mem_sent_forward {lib : SrtpLib S} {addr : SocketAddr} {p : Prepared}
    {r : Registry S} (hwf : r.WF)
    (h : p.rtcp = true → p.codecNFrequency = none) {c : ClientRef}
    {sched : List Receiver} {e : Emission}
    (he : e ∈ (forward lib addr p r c sched).sent) :
    ∃ t, r.clientAt e.addr = some e.via ∧ (r.heap e.via).srtp = some t ∧
      (t.protect lib p.rtcp p.message).2 = some e.packet := by
  rw [forward] at he
  split at he
  · next hup =>
      rw [Bool.and_eq_true] at hup
      rw [hup.1]
      exact mem_sent_upstream he
  · obtain ⟨recv, hmem, hcopy⟩ := mem_sent_fanOut hwf h he
    obtain ⟨t, ht, hout, ha, hv⟩ := copyFor_eq_some.mp hcopy
    rw [ha, hv]
    exact ⟨t, clientAt_of_mem_live hwf hmem, ht, hout⟩

/-- A datagram is the prepared packet, protected with the outbound session its
receiver had before the packet came. -/
theorem mem_sent_handle {lib : SrtpLib S} {r : Registry S} (hwf : r.WF)
    {now : Instant} {sched : List Receiver} {message : DataPacket}
    {addr : SocketAddr} {e : Emission}
    (he : e ∈ (handle lib r now sched message addr).sent) :
    r.clientAt e.addr = some e.via ∧
      ∃ t r' c p, (r.heap e.via).srtp = some t ∧
        prepare lib r now message addr = some (r', c, p) ∧
        (if p.rtcp then lib.protectRtcp t.server p.message
          else lib.protect t.server p.message).2 = some e.packet := by
  rw [sent_handle] at he
  cases hprep : prepare lib r now message addr with
  | none => rw [hprep] at he; cases he
  | some x =>
      obtain ⟨r', c, p⟩ := x
      rw [hprep] at he
      obtain ⟨-, hr⟩ := prepare_spec hprep
      obtain ⟨t', hat, ht', hout⟩ :=
        mem_sent_forward (hwf.of_sameRoutes hr.routes) hr.codec he
      rw [hr.routes.clientAt] at hat
      -- preparing the packet may have moved the inbound half of the session
      have hserver := hr.outbound e.via
      rw [ht', Option.map_some] at hserver
      obtain ⟨t, ht, hs⟩ := Option.map_eq_some_iff.mp hserver.symm
      refine ⟨hat, t, r', c, p, ht, rfl, ?_⟩
      rw [← hout, SrtpTransport.protect, hs]

/-- In every reachable state, every datagram of every packet is the prepared
packet, protected with the outbound session of the client stored at the address
it goes to, and that client is not deleted. -/
theorem sent_to_live_client (lib : SrtpLib S) (es : List (Event S))
    (message : DataPacket) (addr : SocketAddr) (now : Instant)
    (sched : List Receiver) (e : Emission)
    (he : e ∈ (handle lib (System.after lib es).registry now sched message
      addr).sent) :
    (System.after lib es).registry.clientAt e.addr = some e.via ∧
      ((System.after lib es).registry.heap e.via).isDeleted = false ∧
      ∃ t r c p, ((System.after lib es).registry.heap e.via).srtp = some t ∧
        prepare lib (System.after lib es).registry now message addr =
          some (r, c, p) ∧
        (if p.rtcp then lib.protectRtcp t.server p.message
          else lib.protect t.server p.message).2 = some e.packet := by
  have hwf := System.wf_after lib es
  obtain ⟨hat, hsent⟩ := mem_sent_handle hwf he
  exact ⟨hat, hwf.stored_live hat, hsent⟩

theorem sent_to_live_viewer :
    (System.after SrtpLib.null groupOfThreeReady).registry.clientAt
        (.host 2) = some 1 ∧
      ((System.after SrtpLib.null groupOfThreeReady).registry.heap
        1).isDeleted = false ∧
      ∃ t r c p, ((System.after SrtpLib.null groupOfThreeReady).registry.heap
          1).srtp = some t ∧
        prepare SrtpLib.null
          (System.after SrtpLib.null groupOfThreeReady).registry 0
          (videoPacket 7) (.host 1) = some (r, c, p) ∧
        (if p.rtcp then SrtpLib.null.protectRtcp t.server p.message
          else SrtpLib.null.protect t.server p.message).2 =
          some ([128, 96, 0, 1, 0, 0, 0, 1, 0, 0, 0, 1, 42] ++ nullTag) :=
  sent_to_live_client SrtpLib.null groupOfThreeReady (videoPacket 7)
    (.host 1) 0 []
    ⟨.host 2, [128, 96, 0, 1, 0, 0, 0, 1, 0, 0, 0, 1, 42] ++ nullTag, 1⟩
    (by decide +kernel)

/-! ## Whether they go -/

theorem filter_copies {lib : SrtpLib S} {p : Prepared} {r : Registry S}
    {recv : Receiver} : ∀ {xs : List Receiver}, xs.Nodup →
      (∀ x ∈ xs, x.1 = recv.1 → x = recv) →
      (xs.filterMap (copyFor lib p r)).filter (fun e => e.addr = recv.1) =
        if recv ∈ xs then (copyFor lib p r recv).toList else [] := by
  intro xs
  induction xs with
  | nil => intro _ _; rfl
  | cons x xs ih =>
      intro hnd hkey
      rw [List.nodup_cons] at hnd
      have htail := ih hnd.2 fun y hy => hkey y (List.mem_cons_of_mem x hy)
      by_cases hx : x = recv
      · subst hx
        rw [if_neg hnd.1] at htail
        rw [if_pos (List.mem_cons_self ..), List.filterMap_cons]
        cases hcopy : copyFor lib p r x with
        | none => simpa using htail
        | some e =>
            obtain ⟨-, -, -, ha, -⟩ := copyFor_eq_some.mp hcopy
            rw [List.filter_cons_of_pos (by simpa using ha), htail]
            rfl
      · have hmem : recv ∈ x :: xs ↔ recv ∈ xs := by
          rw [List.mem_cons, or_iff_right fun h => hx h.symm]
        have hne : x.1 ≠ recv.1 := fun h => hx (hkey x (List.mem_cons_self ..) h)
        simp only [hmem, List.filterMap_cons]
        cases hcopy : copyFor lib p r x with
        | none => exact htail
        | some e =>
            obtain ⟨-, -, -, ha, -⟩ := copyFor_eq_some.mp hcopy
            rw [List.filter_cons_of_neg (by simpa [ha] using hne), htail]

/-- `sent` holds exactly one copy for every living receiver that is ready. -/
def ServesReady (lib : SrtpLib S) (p : Prepared) (r : Registry S)
    (c : ClientRef) (sent : List Emission) : Prop :=
  ∀ recv ∈ liveReceivers r c, Ready lib p r recv →
    ∃ copy, copyFor lib p r recv = some copy ∧
      sent.filter (fun e => e.addr = recv.1) = [copy]

theorem servesReady_fanOut {r : Registry S} (hwf : r.WF) {p : Prepared}
    (h : p.rtcp = true → p.codecNFrequency = none) {lib : SrtpLib S}
    {c : ClientRef} (hall : ∀ recv ∈ liveReceivers r c, Ready lib p r recv)
    (addr : SocketAddr) (sched : List Receiver) :
    ServesReady lib p r c (fanOut lib addr p r c sched).sent := by
  intro recv hmem hready
  have hperm := ParIter.perm_picked_left (nodup_liveReceivers r c) sched
  have hsent := (sent_fanOut hwf h lib addr c sched).2 fun x hx =>
    hall x (ParIter.mem_picked.mp hx).2
  obtain ⟨copy, hcopy⟩ :=
    Option.isSome_iff_exists.mp (ready_iff_copyFor.mp hready)
  refine ⟨copy, hcopy, ?_⟩
  rw [hsent, filter_copies (hperm.nodup_iff.mpr (nodup_liveReceivers r c)),
    if_pos (hperm.mem_iff.mpr hmem), hcopy]
  · rfl
  · exact fun x hx => eq_of_mem_live (hperm.mem_iff.mp hx) hmem

/-- A receiver that fails first leaves everybody else without a copy. -/
theorem sent_fanOut_failing {r : Registry S} (hwf : r.WF) {p : Prepared}
    (h : p.rtcp = true → p.codecNFrequency = none) {lib : SrtpLib S}
    {c : ClientRef} {bad : Receiver} (hmem : bad ∈ liveReceivers r c)
    (hbad : ¬ Ready lib p r bad) (addr : SocketAddr) :
    (fanOut lib addr p r c [bad]).sent = [] := by
  have hpick := ParIter.picked_singleton hmem
  have hsent := (sent_fanOut hwf h lib addr c [bad]).1
    ⟨bad, by rw [hpick]; exact List.mem_singleton.mpr rfl, hbad⟩
  rw [hsent, hpick]
  rw [ready_iff_copyFor, Option.not_isSome_iff_eq_none] at hbad
  simp [hbad]

/-- In every reachable state, for every packet that reaches the fan-out: each
living receiver that is ready gets exactly one copy under every schedule, if
and only if all living receivers of the client are ready or none is. -/
theorem fan_out_isolated_iff (lib : SrtpLib S) (es : List (Event S))
    (message : DataPacket) (addr : SocketAddr) (now : Instant)
    (r : Registry S) (c : ClientRef) (p : Prepared)
    (hprep : prepare lib (System.after lib es).registry now message addr =
      some (r, c, p))
    (hpath : p.rtcp = true → Table.isEmpty (r.heap c).receivers = false) :
    (∀ sched, ServesReady lib p r c
      (handle lib (System.after lib es).registry now sched message
        addr).sent) ↔
      (∀ recv ∈ liveReceivers r c, Ready lib p r recv) ∨
        (∀ recv ∈ liveReceivers r c, ¬ Ready lib p r recv) := by
  obtain ⟨-, hr⟩ := prepare_spec hprep
  have hwf := (System.wf_after lib es).of_sameRoutes hr.routes
  have hup : (p.rtcp && Table.isEmpty (r.heap c).receivers) = false := by
    rw [Bool.and_eq_false_imp]
    exact hpath
  have hsent : ∀ sched, (handle lib (System.after lib es).registry now sched
      message addr).sent = (fanOut lib addr p r c sched).sent := by
    intro sched
    rw [sent_handle, hprep]
    simp only [sentOf, forward, hup, Bool.false_eq_true, if_false]
  simp only [hsent]
  refine ⟨?_, ?_⟩
  · intro hserves
    by_contra hmixed
    rw [not_or] at hmixed
    obtain ⟨hbad, hgood⟩ := hmixed
    push Not at hbad hgood
    obtain ⟨bad, hbmem, hbad⟩ := hbad
    obtain ⟨good, hgmem, hgood⟩ := hgood
    -- schedule the failing receiver first
    obtain ⟨copy, -, hcopy⟩ := hserves [bad] good hgmem hgood
    rw [sent_fanOut_failing hwf hr.codec hbmem hbad addr] at hcopy
    cases hcopy
  · rintro (hall | hnone) sched
    · exact servesReady_fanOut hwf hr.codec hall addr sched
    · exact fun recv hmem hready => absurd hready (hnone recv hmem)

/-- The ready viewer gets nothing of the packet when the other one comes
first. -/
theorem unready_viewer_starves_ready_one :
    ¬ ∀ (es : List (Event Unit)) (message : DataPacket) (addr : SocketAddr)
      (now : Instant) (r : Registry Unit) (c : ClientRef) (p : Prepared)
      (sched : List Receiver),
      prepare SrtpLib.null (System.after SrtpLib.null es).registry now message
        addr = some (r, c, p) →
      (p.rtcp = true → Table.isEmpty (r.heap c).receivers = false) →
      ServesReady SrtpLib.null p r c
        (handle SrtpLib.null (System.after SrtpLib.null es).registry now sched
          message addr).sent := by
  intro h
  have hserves := h groupOfThree (videoPacket 7) (.host 1) 0 _ _ _
    [⟨.host 3, 2⟩] rfl (by decide +kernel)
  obtain ⟨copy, -, hcopy⟩ := hserves ⟨.host 2, 1⟩ (by decide +kernel)
    ⟨⟨(), ()⟩, rfl, by decide +kernel⟩
  revert hcopy
  have hsent : (handle SrtpLib.null
      (System.after SrtpLib.null groupOfThree).registry 0
      [⟨.host 3, 2⟩] (videoPacket 7) (.host 1)).sent = [] := by decide +kernel
  rw [hsent]
  simp

theorem fan_out_isolated_group_of_three :
    ∃ r c p, prepare SrtpLib.null
      (System.after SrtpLib.null groupOfThreeReady).registry 0 (videoPacket 7)
      (.host 1) = some (r, c, p) ∧
      (⟨.host 2, 1⟩ : Receiver) ∈ liveReceivers r c ∧
      ∀ sched, ServesReady SrtpLib.null p r c
        (handle SrtpLib.null
          (System.after SrtpLib.null groupOfThreeReady).registry 0 sched
          (videoPacket 7) (.host 1)).sent := by
  refine ⟨_, _, _, rfl, by decide +kernel, ?_⟩
  refine (fan_out_isolated_iff SrtpLib.null groupOfThreeReady (videoPacket 7)
    (.host 1) 0 _ _ _ rfl (by decide +kernel)).mpr (.inl ?_)
  simp only [ready_iff_copyFor]
  decide +kernel

end RStreamer.RtcActor
