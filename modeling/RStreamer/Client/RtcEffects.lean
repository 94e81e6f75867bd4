import RStreamer.Client.RtcActor
import RStreamer.Client.Routes

/-!
# What one packet changes

The handler of a media packet reads and writes five parts of the registry.
This file says once which, so that no proof about routing, counters or delays
opens the handler again.

Forwarding touches nothing but outbound SRTP sessions (`forward_sessions`).
Everything before it touches the sending client only, and only if the packet
was decrypted: `resolves` is the list of tests a packet has to pass before its
counters move, in the source's order, and `handle_effects`, `counters_handle` and
`jitterStats_handle` give the results of passing them.
-/

namespace RStreamer

/-! ## Registries that differ in SRTP sessions -/

namespace Registry

variable {S : Type}

/-- `r'` is `r` with other SRTP sessions. -/
structure SameButSessions (r r' : Registry S) : Prop where
  clientStorage : r'.clientStorage = r.clientStorage
  groups : r'.groups = r.groups
  next : r'.next = r.next
  heap : ∀ c, r'.heap c = { r.heap c with srtp := (r'.heap c).srtp }

theorem SameButSessions.refl (r : Registry S) : SameButSessions r r :=
  ⟨rfl, rfl, rfl, fun _ => rfl⟩

theorem SameButSessions.trans {r r' r'' : Registry S}
    (h : SameButSessions r r') (h' : SameButSessions r' r'') :
    SameButSessions r r'' where
  clientStorage := h'.clientStorage.trans h.clientStorage
  groups := h'.groups.trans h.groups
  next := h'.next.trans h.next
  heap c := by rw [h'.heap c, h.heap c]

theorem SameButSessions.field {r r' : Registry S} (h : SameButSessions r r')
    {β : Type} (π : Client S → β)
    (hπ : ∀ cl t, π { cl with srtp := t } = π cl) (c : ClientRef) :
    π (r'.heap c) = π (r.heap c) := by
  rw [h.heap c, hπ]

theorem SameButSessions.sameRoutes {r r' : Registry S}
    (h : SameButSessions r r') : SameRoutes r r' where
  clientAt a := by rw [clientAt, h.clientStorage]; rfl
  next := h.next
  receivers := h.field (fun cl => cl.receivers) fun _ _ => rfl
  senderAddr := h.field (fun cl => cl.senderAddr) fun _ _ => rfl
  isDeleted := h.field (fun cl => cl.isDeleted) fun _ _ => rfl

theorem sameButSessions_setSrtp (r : Registry S) (c : ClientRef)
    (t : SrtpTransport S) :
    SameButSessions r (r.modifyClient c fun cl => { cl with srtp := some t }) where
  clientStorage := rfl
  groups := rfl
  next := rfl
  heap d := by
    rw [modifyClient_heap]
    split
    · next h => rw [h]
    · rfl

def inbound (r : Registry S) (c : ClientRef) : Option S :=
  (r.heap c).srtp.map fun t => t.client

def SameInbound (r r' : Registry S) : Prop :=
  ∀ c, r'.inbound c = r.inbound c

theorem SameInbound.trans {r r' r'' : Registry S} (h : SameInbound r r')
    (h' : SameInbound r' r'') : SameInbound r r'' :=
  fun c => (h' c).trans (h c)

theorem sameInbound_protect {r : Registry S} {c : ClientRef}
    {t : SrtpTransport S} (ht : (r.heap c).srtp = some t) (lib : SrtpLib S)
    (rtcp : Bool) (buf : DataPacket) :
    SameInbound r (r.modifyClient c fun cl =>
      { cl with srtp := some (t.protect lib rtcp buf).1 }) := by
  intro d
  rw [inbound, inbound, modifyClient_heap]
  split
  · next h => rw [h, ht]; rfl
  · rfl

end Registry

namespace RtcActor

open Registry

variable {S : Type}

/-! ## Forwarding -/

theorem sendTo_sessions (lib : SrtpLib S) (addr : SocketAddr) (p : Prepared)
    (r : Registry S) (recv : Receiver) :
    SameButSessions r (sendTo lib addr p r recv).1 ∧
      SameInbound r (sendTo lib addr p r recv).1 := by
  rw [sendTo]
  cases ht : (r.heap recv.2).srtp with
  | none => exact ⟨SameButSessions.refl r, fun _ => rfl⟩
  | some t =>
      have h₁ := sameButSessions_setSrtp r recv.2
        (t.protect lib p.rtcp p.message).1
      have h₂ := sameInbound_protect ht lib p.rtcp p.message
      simp only []
      split
      · exact ⟨h₁, h₂⟩
      · exact ⟨h₁, h₂⟩

theorem fanOut_sessions (lib : SrtpLib S) (addr : SocketAddr) (p : Prepared)
    (r : Registry S) (c : ClientRef) (sched : List Receiver) :
    SameButSessions r (fanOut lib addr p r c sched).registry ∧
      SameInbound r (fanOut lib addr p r c sched).registry := by
  have hstep : ∀ s, SameButSessions r s ∧ SameInbound r s →
      ∀ x ∈ liveReceivers r c,
        (SameButSessions r (sendTo lib addr p s x).1 ∧
          SameInbound r (sendTo lib addr p s x).1) ∧ True := by
    intro s hs x _
    have hx := sendTo_sessions lib addr p s x
    exact ⟨⟨hs.1.trans hx.1, hs.2.trans hx.2⟩, trivial⟩
  exact (ParIter.tryForEach_invariant (R := fun _ _ => True) hstep
    ⟨SameButSessions.refl r, fun _ => rfl⟩ sched).1

theorem sendUpstream_sessions (lib : SrtpLib S) (p : Prepared)
    (r : Registry S) (c : ClientRef) :
    SameButSessions r (sendUpstream lib p r c).registry ∧
      SameInbound r (sendUpstream lib p r c).registry := by
  rw [sendUpstream]
  split
  · exact ⟨SameButSessions.refl r, fun _ => rfl⟩
  · split
    · exact ⟨SameButSessions.refl r, fun _ => rfl⟩
    · next sender _ =>
        split
        · exact ⟨SameButSessions.refl r, fun _ => rfl⟩
        · next t ht =>
            have h₁ := sameButSessions_setSrtp r sender
              (t.protect lib true p.message).1
            have h₂ := sameInbound_protect ht lib true p.message
            simp only []
            split
            · exact ⟨h₁, h₂⟩
            · exact ⟨h₁, h₂⟩

/-- Forwarding changes outbound SRTP sessions and nothing else. -/
theorem forward_sessions (lib : SrtpLib S) (addr : SocketAddr) (p : Prepared)
    (r : Registry S) (c : ClientRef) (sched : List Receiver) :
    SameButSessions r (forward lib addr p r c sched).registry ∧
      SameInbound r (forward lib addr p r c sched).registry := by
  rw [forward]
  split
  · exact sendUpstream_sessions lib p r c
  · exact fanOut_sessions lib addr p r c sched

/-! ## The tests in front of the counters -/

/-- The clock frequency an RTP packet of client `c` resolves to: it decrypts,
is not of payload type 111, and the media list has a codec with a clock for
its payload type. -/
def frequencyOf (lib : SrtpLib S) (r : Registry S) (message : DataPacket)
    (c : ClientRef) (header : RtpHeader) : Option UInt32 :=
  match (r.heap c).srtp with
  | none => none
  | some t =>
      if (t.unprotect lib false message).2.isSome ∧ header.payload ≠ 111 then
        (codecNFrequency (r.heap c).media false header.payload).map
          fun cf => cf.2
      else none

/-- The client, the frequency and the header of an RTP packet that passed all
the tests in front of the counters. -/
def resolves (lib : SrtpLib S) (r : Registry S) (message : DataPacket)
    (addr : SocketAddr) : Option (ClientRef × UInt32 × RtpHeader) :=
  match r.clientAt addr, RtpHeader.fromBuf message, isRtcp message with
  | some c, .ok (.ok header), .ok false =>
      (frequencyOf lib r message c header).map fun f => (c, f, header)
  | _, _, _ => none

def rewritingOf (lib : SrtpLib S) (r : Registry S) (now : Instant)
    (message : DataPacket) (addr : SocketAddr) :
    Option (ClientRef × UInt32 × RtpHeader × Rewriting) :=
  (resolves lib r message addr).bind fun cfh =>
    ((r.heap cfh.1).rtpRuntimeStorage.lookup cfh.2.1).map fun rt =>
      (cfh.1, cfh.2.1, cfh.2.2, rt.rewrite cfh.2.2 now)

/-- The registry a packet leaves behind, up to SRTP sessions: the counters and
the statistics of one client are updated, or nothing is. -/
def settle (r : Registry S) (now : Instant) :
    Option (ClientRef × UInt32 × RtpHeader × Rewriting) → Registry S
  | none => r
  | some (c, f, _, rw) =>
      updateCounters r c f rw ((r.heap c).jitterStats.verdict f rw now) now

def controlOf (r : Registry S) (now : Instant) (addr : SocketAddr) :
    Option (ClientRef × UInt32 × RtpHeader × Rewriting) → List JitterMessage
  | none => []
  | some (c, f, _, rw) =>
      (((r.heap c).jitterStats.verdict f rw now).map
        fun v => v.message addr).toList

def writtenOf (now : Instant) :
    Option (ClientRef × UInt32 × RtpHeader × Rewriting) → Option Written
  | none => none
  | some (c, f, header, rw) =>
      some ⟨c, f, header, now, rw.runtime.serverSequence, rw.runtime.serverTs⟩

theorem updateCounters_sessions {r r' : Registry S} (h : SameButSessions r r')
    (c : ClientRef) (f : UInt32) (rw : Rewriting) (v : Option DelayChange)
    (now : Instant) : SameButSessions (updateCounters r c f rw v now)
      (updateCounters r' c f rw v now) where
  clientStorage := h.clientStorage
  groups := h.groups
  next := h.next
  heap d := by
    simp only [updateCounters, modifyClient_heap]
    split
    · rw [h.heap c]
    · exact h.heap d

theorem isRtcp_cases (message : DataPacket) :
    isRtcp message = .ok true ∨ isRtcp message = .ok false := by
  rw [isRtcp_eq]
  exact (Bool.eq_false_or_eq_true _).imp (congrArg _) (congrArg _)

/-- What the handler hands on of a packet: the registry it leaves, the jitter
message it sends and what it wrote. -/
def Effects (r : Registry S) (now : Instant) (addr : SocketAddr)
    (x : Option (ClientRef × UInt32 × RtpHeader × Rewriting))
    (o : Outcome S) : Prop :=
  SameButSessions (settle r now x) o.registry ∧
    o.control = controlOf r now addr x ∧ o.written = writtenOf now x

theorem effects_fail {r r' : Registry S} (h : SameButSessions r r')
    (now : Instant) (addr : SocketAddr) (e : ErrorParse) :
    Effects r now addr none (fail r' e) :=
  ⟨h, rfl, rfl⟩

theorem effects_handleRtp (lib : SrtpLib S) {r r' : Registry S}
    (h : SameButSessions r r') (now : Instant) (sched : List Receiver)
    (addr : SocketAddr) (c : ClientRef) (p : Prepared) :
    Effects r now addr
      ((runtimeOf (r.heap c) p.codecNFrequency).map fun frt =>
        (c, frt.1, p.header, frt.2.rewrite p.header now))
      (handleRtp lib r' now sched addr c p) := by
  have hrt : runtimeOf (r'.heap c) p.codecNFrequency =
      runtimeOf (r.heap c) p.codecNFrequency :=
    h.field (fun cl => runtimeOf cl p.codecNFrequency) (fun _ _ => rfl) c
  have hst : (r'.heap c).jitterStats = (r.heap c).jitterStats :=
    h.field (fun cl => cl.jitterStats) (fun _ _ => rfl) c
  rw [handleRtp, hrt]
  cases hx : runtimeOf (r.heap c) p.codecNFrequency with
  | none => exact effects_fail h now addr _
  | some frt =>
      obtain ⟨f, rt⟩ := frt
      simp only [Option.map_some, hst]
      exact ⟨(updateCounters_sessions h c f _ _ now).trans
        (forward_sessions lib addr _ _ c sched).1, rfl, rfl⟩

/-- The counters of client `c` an RTP packet moves. -/
def rewritingFor (lib : SrtpLib S) (r : Registry S) (now : Instant)
    (message : DataPacket) (c : ClientRef) (header : RtpHeader) :
    Option (ClientRef × UInt32 × RtpHeader × Rewriting) :=
  (frequencyOf lib r message c header).bind fun f =>
    ((r.heap c).rtpRuntimeStorage.lookup f).map fun rt =>
      (c, f, header, rt.rewrite header now)

theorem effects_process_rtcp (lib : SrtpLib S) (r : Registry S)
    (now : Instant) (sched : List Receiver) (message : DataPacket)
    (addr : SocketAddr) (c : ClientRef) (header : RtpHeader) :
    Effects r now addr none
      (process lib r now sched message addr c true header) := by
  rw [process]
  cases (r.heap c).srtp with
  | none => exact effects_fail (SameButSessions.refl r) now addr _
  | some t =>
      have h := sameButSessions_setSrtp r c (t.unprotect lib true message).1
      cases hp : (t.unprotect lib true message).2 with
      | none =>
          simp only [hp]
          exact effects_fail h now addr _
      | some plain =>
          simp only [hp, if_true]
          exact ⟨h.trans (forward_sessions lib addr _ _ c sched).1, rfl, rfl⟩

theorem effects_process_rtp (lib : SrtpLib S) (r : Registry S)
    (now : Instant) (sched : List Receiver) (message : DataPacket)
    (addr : SocketAddr) (c : ClientRef) (header : RtpHeader) :
    Effects r now addr (rewritingFor lib r now message c header)
      (process lib r now sched message addr c false header) := by
  rw [process, rewritingFor, frequencyOf]
  cases ht : (r.heap c).srtp with
  | none => exact effects_fail (SameButSessions.refl r) now addr _
  | some t =>
      have h := sameButSessions_setSrtp r c (t.unprotect lib false message).1
      cases hp : (t.unprotect lib false message).2 with
      | none =>
          simp only [hp, Option.isSome_none, Bool.false_eq_true, false_and,
            if_false]
          exact effects_fail h now addr _
      | some plain =>
          simp only [hp, Option.isSome_some, true_and, Bool.false_eq_true,
            if_false]
          by_cases h111 : header.payload = 111
          · rw [if_neg (not_not.mpr h111), if_pos h111]
            exact effects_fail h now addr _
          · rw [if_pos h111, if_neg h111]
            have heff := effects_handleRtp lib h now sched addr c
              { rtcp := false, header := header,
                codecNFrequency :=
                  codecNFrequency (r.heap c).media false header.payload,
                message := plain }
            convert heff using 1
            simp only [runtimeOf, Option.bind_map, Option.map_bind]
            congr 1
            funext cf
            simp only [Function.comp_apply, Option.map_map]
            rfl

/-- Every packet: its counters, statistics and jitter message are those of its
rewriting, and there is none of either without one. -/
theorem handle_effects (lib : SrtpLib S) (r : Registry S) (now : Instant)
    (sched : List Receiver) (message : DataPacket) (addr : SocketAddr) :
    Effects r now addr (rewritingOf lib r now message addr)
      (handle lib r now sched message addr) := by
  rw [handle, rewritingOf, resolves]
  cases hc : r.clientAt addr with
  | none => exact ⟨SameButSessions.refl r, rfl, rfl⟩
  | some c =>
      cases hh : RtpHeader.fromBuf message with
      | error e => exact effects_fail (SameButSessions.refl r) now addr _
      | ok res =>
          cases res with
          | error e => exact effects_fail (SameButSessions.refl r) now addr _
          | ok header =>
              rcases isRtcp_cases message with hr | hr
              · simp only [hr]
                exact effects_process_rtcp lib r now sched message addr c header
              · simp only [hr]
                convert effects_process_rtp lib r now sched message addr c
                  header using 1
                simp only [rewritingFor, Option.bind_map]
                rfl

/-! ## The consequences, field by field -/

theorem sameRoutes_settle (r : Registry S) (now : Instant)
    (x : Option (ClientRef × UInt32 × RtpHeader × Rewriting)) :
    SameRoutes r (settle r now x) := by
  cases x with
  | none => exact SameRoutes.refl r
  | some x =>
      simp only [settle, updateCounters]
      apply sameRoutes_modifyClient <;> intro cl <;> rfl

theorem handle_sameRoutes (lib : SrtpLib S) (r : Registry S) (now : Instant)
    (sched : List Receiver) (message : DataPacket) (addr : SocketAddr) :
    SameRoutes r (handle lib r now sched message addr).registry :=
  (sameRoutes_settle r now _).trans
    (handle_effects lib r now sched message addr).1.sameRoutes

theorem clientStorage_handle (lib : SrtpLib S) (r : Registry S)
    (now : Instant) (sched : List Receiver) (message : DataPacket)
    (addr : SocketAddr) :
    (handle lib r now sched message addr).registry.clientStorage =
      r.clientStorage := by
  rw [(handle_effects lib r now sched message addr).1.clientStorage]
  cases rewritingOf lib r now message addr <;> rfl

theorem media_handle (lib : SrtpLib S) (r : Registry S) (now : Instant)
    (sched : List Receiver) (message : DataPacket) (addr : SocketAddr)
    (d : ClientRef) :
    ((handle lib r now sched message addr).registry.heap d).media =
      (r.heap d).media := by
  rw [(handle_effects lib r now sched message addr).1.field
    (fun cl => cl.media) (fun _ _ => rfl) d]
  cases rewritingOf lib r now message addr with
  | none => rfl
  | some x =>
      simp only [settle, updateCounters]
      apply modifyClient_heap_field (fun cl => cl.media)
      intro cl
      rfl

/-- The counters after a packet: those it was rewritten with moved on, all
others stayed. -/
theorem counters_handle (lib : SrtpLib S) (r : Registry S) (now : Instant)
    (sched : List Receiver) (message : DataPacket) (addr : SocketAddr)
    (d : ClientRef) (g : UInt32) :
    ((handle lib r now sched message addr).registry.heap d).rtpRuntimeStorage.lookup
        g =
      match rewritingOf lib r now message addr with
      | some (c, f, _, rw) =>
          if d = c ∧ g = f then some rw.runtime
          else (r.heap d).rtpRuntimeStorage.lookup g
      | none => (r.heap d).rtpRuntimeStorage.lookup g := by
  rw [(handle_effects lib r now sched message addr).1.field
    (fun cl => cl.rtpRuntimeStorage) (fun _ _ => rfl) d]
  cases rewritingOf lib r now message addr with
  | none => rfl
  | some x =>
      obtain ⟨c, f, header, rw⟩ := x
      simp only [settle, updateCounters, modifyClient_heap]
      by_cases hd : d = c
      · subst hd
        simp only [if_true, true_and]
        exact Table.lookup_insert' g f rw.runtime _
      · simp only [hd, if_false, false_and]

theorem jitterStats_handle (lib : SrtpLib S) (r : Registry S) (now : Instant)
    (sched : List Receiver) (message : DataPacket) (addr : SocketAddr)
    (d : ClientRef) :
    ((handle lib r now sched message addr).registry.heap d).jitterStats =
      match rewritingOf lib r now message addr with
      | some (c, f, _, rw) =>
          if d = c then
            (r.heap d).jitterStats.apply now
              ((r.heap d).jitterStats.verdict f rw now)
          else (r.heap d).jitterStats
      | none => (r.heap d).jitterStats := by
  rw [(handle_effects lib r now sched message addr).1.field
    (fun cl => cl.jitterStats) (fun _ _ => rfl) d]
  cases rewritingOf lib r now message addr with
  | none => rfl
  | some x =>
      obtain ⟨c, f, header, rw⟩ := x
      simp only [settle, updateCounters, modifyClient_heap]
      by_cases hd : d = c
      · subst hd; simp only [if_true]
      · simp only [hd, if_false]

/-! ## The inbound session -/

/-- The inbound session after a packet, whether it decrypted or not. -/
def sessionAfter (lib : SrtpLib S) (rtcp : Bool) (message : DataPacket)
    (s : S) : S :=
  if rtcp then (lib.unprotectRtcp s message).1
  else (lib.unprotect s message).1

theorem client_unprotect (lib : SrtpLib S) (rtcp : Bool)
    (t : SrtpTransport S) (message : DataPacket) :
    (t.unprotect lib rtcp message).1.client =
      sessionAfter lib rtcp message t.client := by
  cases rtcp <;> rfl

theorem sameInbound_handleRtp (lib : SrtpLib S) (r : Registry S)
    (now : Instant) (sched : List Receiver) (addr : SocketAddr)
    (c : ClientRef) (p : Prepared) :
    SameInbound r (handleRtp lib r now sched addr c p).registry := by
  rw [handleRtp]
  split
  · exact fun _ => rfl
  · next f rt _ =>
      have hcounters : ∀ rw v, SameInbound r
          (updateCounters r c f rw v now) := by
        intro rw v d
        apply modifyClient_heap_field fun cl => cl.srtp.map fun t => t.client
        intro cl
        rfl
      exact (hcounters _ _).trans (forward_sessions lib addr _ _ c sched).2

/-- Decryption moves the inbound session of the client the packet is from, and
nothing after it moves any. -/
theorem inbound_process (lib : SrtpLib S) (r : Registry S) (now : Instant)
    (sched : List Receiver) (message : DataPacket) (addr : SocketAddr)
    (c : ClientRef) (rtcp : Bool) (header : RtpHeader) (d : ClientRef) :
    (process lib r now sched message addr c rtcp header).registry.inbound d =
      if d = c then (r.inbound c).map (sessionAfter lib rtcp message)
      else r.inbound d := by
  rw [process]
  cases ht : (r.heap c).srtp with
  | none =>
      by_cases hd : d = c
      · subst hd; simp [fail, inbound, ht]
      · rw [if_neg hd]; rfl
  | some t =>
      -- the registry after decryption
      have hdec : (r.modifyClient c fun cl => { cl with
          srtp := some (t.unprotect lib rtcp message).1 }).inbound d =
          if d = c then (r.inbound c).map (sessionAfter lib rtcp message)
          else r.inbound d := by
        simp only [inbound, modifyClient_heap]
        split
        · simp only [ht, Option.map_some, client_unprotect]
        · rfl
      rw [← hdec]
      simp only []
      split
      · rfl
      · split
        · exact (forward_sessions lib addr _ _ c sched).2 d
        · split
          · rfl
          · exact sameInbound_handleRtp lib _ now sched addr c _ d

theorem inbound_handle (lib : SrtpLib S) (r : Registry S) (now : Instant)
    (sched : List Receiver) (message : DataPacket) (addr : SocketAddr)
    (d : ClientRef) :
    (handle lib r now sched message addr).registry.inbound d =
      match r.clientAt addr, RtpHeader.fromBuf message with
      | some c, .ok (.ok _) =>
          if d = c then
            (r.inbound c).map
              (sessionAfter lib (isRtcp message matches .ok true) message)
          else r.inbound d
      | _, _ => r.inbound d := by
  rw [handle]
  cases r.clientAt addr with
  | none => rfl
  | some c =>
      cases RtpHeader.fromBuf message with
      | error e => rfl
      | ok res =>
          cases res with
          | error e => rfl
          | ok header => exact inbound_process lib r now sched message addr c _ header d

theorem clientAt_of_rewritingOf {lib : SrtpLib S} {r : Registry S}
    {now : Instant} {message : DataPacket} {addr : SocketAddr} {c : ClientRef}
    {f : UInt32} {header : RtpHeader} {rw : Rewriting}
    (h : rewritingOf lib r now message addr = some (c, f, header, rw)) :
    r.clientAt addr = some c := by
  rw [rewritingOf] at h
  obtain ⟨x, hx, hrw⟩ := Option.bind_eq_some_iff.mp h
  obtain ⟨rt, -, heq⟩ := Option.map_eq_some_iff.mp hrw
  cases heq
  rw [resolves] at hx
  split at hx
  · next c' header' hc _ _ =>
      obtain ⟨f', -, heq'⟩ := Option.map_eq_some_iff.mp hx
      cases heq'
      exact hc
  · cases hx

theorem runtime_of_rewritingOf {lib : SrtpLib S} {r : Registry S}
    {now : Instant} {message : DataPacket} {addr : SocketAddr} {c : ClientRef}
    {f : UInt32} {header : RtpHeader} {rw : Rewriting}
    (h : rewritingOf lib r now message addr = some (c, f, header, rw)) :
    ∃ rt, (r.heap c).rtpRuntimeStorage.lookup f = some rt ∧
      rw = rt.rewrite header now := by
  rw [rewritingOf] at h
  obtain ⟨x, -, hrw⟩ := Option.bind_eq_some_iff.mp h
  obtain ⟨rt, hrt, heq⟩ := Option.map_eq_some_iff.mp hrw
  cases heq
  exact ⟨rt, hrt, rfl⟩

end RtcActor

end RStreamer
