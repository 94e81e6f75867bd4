import Mathlib.Data.List.Flatten
import RStreamer.Client.Sending
import RStreamer.Proofs.BufferConservation
import RStreamer.Server.Actors

/-!
# No media packet is handled twice

A media datagram goes from `UdpRecv` through a request in a mailbox, a buffer of
`JitterControlActor`, the batch of a forwarding task and the mailbox of `RtcActor`
until it is handled. It may get lost on the way. It is never doubled, and never
comes out under another address: with multiplicity, what is handled is a part of
what was received (`Server.handled_subperm_received`).

Each packet that is handled then goes to an address at most once, whatever the
order of the fan-out, so an address never gets more media from the server than the
server has received (`Server.media_sent_le_received`).
-/

namespace RStreamer

/-! ## The buffers -/

namespace JitterBufferStorage

/-- The packets of one buffer, with the address they are from. -/
def tagged (addr : SocketAddr) (packets : List DataPacket) :
    List (SocketAddr × DataPacket) :=
  packets.map fun p => (addr, p)

/-- All packets in the buffers. -/
def buffered (st : JitterBufferStorage) : List (SocketAddr × DataPacket) :=
  st.entries.flatMap fun e => tagged e.1 e.2.buffer

theorem perm_buffered (st : JitterBufferStorage) (addr : SocketAddr) :
    st.buffered.Perm
      (tagged addr (st.bufferOf addr) ++ buffered (AList.erase addr st)) := by
  rw [bufferOf]
  cases hat : st.lookup addr with
  | none =>
      rw [buffered, buffered, Table.entries_erase_of_lookup_eq_none hat]
      exact .refl _
  | some jitter =>
      exact (Table.perm_entries_of_lookup hat).flatMap_right _

theorem perm_buffered_insert (st : JitterBufferStorage) (addr : SocketAddr)
    (jitter : JitterBuffer) :
    (buffered (st.insert addr jitter)).Perm
      (tagged addr jitter.buffer ++ buffered (AList.erase addr st)) := by
  rw [buffered, AList.entries_insert]
  exact .refl _

/-- An insert that leaves the buffer of the address as it is. -/
theorem perm_buffered_of_eq {st : JitterBufferStorage} {addr : SocketAddr}
    {jitter : JitterBuffer} (h : jitter.buffer = st.bufferOf addr) :
    (buffered (st.insert addr jitter)).Perm st.buffered := by
  have hinsert := perm_buffered_insert st addr jitter
  rw [h] at hinsert
  exact hinsert.trans (perm_buffered st addr).symm

theorem perm_buffered_handleIncrease (st : JitterBufferStorage)
    (now : Instant) (addr : SocketAddr) :
    (st.handleIncrease now addr).buffered.Perm st.buffered :=
  perm_buffered_of_eq (buffer_orDefault st addr now)

theorem perm_buffered_handleDecrease (st : JitterBufferStorage)
    (addr : SocketAddr) :
    (st.handleDecrease addr).buffered.Perm st.buffered := by
  rw [handleDecrease]
  cases hat : st.lookup addr with
  | none => exact .refl _
  | some jitter =>
      simp only []
      split
      · exact .refl _
      · refine perm_buffered_of_eq ?_
        rw [bufferOf, hat]
        rfl

end JitterBufferStorage

/-! ## The stage in front of `RtcActor` -/

open JitterBufferStorage

/-- What a task at a phase has left to send. -/
def ForwardPhase.packets : ForwardPhase → List DataPacket
  | .batch rest => rest
  | .packet data => [data]
  | _ => []

namespace JitterStage

def taskHolds (t : Forwarder) : List (SocketAddr × DataPacket) :=
  tagged t.addr t.phase.packets

/-- All packets on their way to `RtcActor`. -/
def held (s : JitterStage) : List (SocketAddr × DataPacket) :=
  s.tasks.flatMap taskHolds ++ s.jitter.buffered ++
    s.mailbox.map fun m => (m.addr, m.data)

/-- A packet that is stored is in its buffer afterwards or in the answer, with
everything that was there. -/
theorem perm_handleGetOrStore (st : JitterBufferStorage) (now : Instant)
    (addr : SocketAddr) (data : DataPacket) :
    (tagged addr (st.handleGetOrStore now addr data).2.next.packets ++
      (st.handleGetOrStore now addr data).1.buffered).Perm
      (st.buffered ++ [(addr, data)]) := by
  cases hmedia : isMedia data with
  | false =>
      rw [handleGetOrStore_of_not_media hmedia]
      exact @List.perm_append_comm _ [(addr, data)] st.buffered
  | true =>
      have hmove : (tagged addr (st.bufferOf addr ++ [data]) ++
          buffered (AList.erase addr st)).Perm
            (st.buffered ++ [(addr, data)]) := by
        have hold := (perm_buffered st addr).append_right [(addr, data)]
        refine .trans ?_ hold.symm
        rw [tagged, List.map_append, List.append_assoc, List.append_assoc]
        exact List.perm_append_comm.append_left _
      rw [handleGetOrStore_of_media hmedia, push]
      split
      · have hinsert := perm_buffered_insert st addr
          { st.orDefault addr now with buffer := [], time := now }
        rw [buffer_orDefault]
        exact (hinsert.append_left _).trans hmove
      · rw [buffer_orDefault]
        exact (perm_buffered_insert st addr _).trans hmove

/-- A task in a list of tasks, replaced: whatever it held is gone, and what its
replacement holds is there. -/
theorem subperm_set (tasks : List Forwarder) (i : Nat) (t : Forwarder) :
    ((tasks.set i t).flatMap taskHolds).Subperm
      (taskHolds t ++ tasks.flatMap taskHolds) := by
  by_cases hi : i < tasks.length
  · have hset := (List.set_perm_cons_eraseIdx hi t).flatMap_right taskHolds
    refine hset.subperm.trans ?_
    rw [List.flatMap_cons]
    refine (List.subperm_append_left _).mpr ?_
    exact ((List.eraseIdx_sublist tasks i).flatMap taskHolds).subperm
  · rw [List.set_eq_of_length_le (Nat.le_of_not_lt hi)]
    exact (List.sublist_append_right _ _).subperm

/-- A task that sends a packet holds the others. -/
theorem perm_forward {s : JitterStage} {i : Nat} {addr : SocketAddr}
    {p : DataPacket} {phase : ForwardPhase}
    (h : s.next i = some (addr, p, phase)) :
    ((addr, p) :: (s.tasks.set i ⟨addr, phase⟩).flatMap taskHolds).Perm
      (s.tasks.flatMap taskHolds) := by
  rw [next] at h
  obtain ⟨t, ht, h⟩ := Option.bind_eq_some_iff.mp h
  obtain ⟨hi, rfl⟩ := List.getElem?_eq_some_iff.mp ht
  have hset := (List.set_perm_cons_eraseIdx hi (⟨addr, phase⟩ : Forwarder))
  have hold := List.getElem_cons_eraseIdx_perm hi
  have hhead : (addr, p) :: taskHolds ⟨addr, phase⟩ = taskHolds s.tasks[i] := by
    rw [taskHolds, taskHolds]
    split at h
    · next q rest hphase => cases h; rw [hphase]; rfl
    · next data hphase => cases h; rw [hphase]; rfl
    · cases h
  have hset' := (hset.flatMap_right taskHolds).cons (addr, p)
  rw [List.flatMap_cons, ← List.cons_append, hhead] at hset'
  refine hset'.trans ?_
  have hold' := hold.flatMap_right taskHolds
  rwa [List.flatMap_cons] at hold'

theorem subperm_held_jitter (s : JitterStage) (now : Instant) :
    (held (step s (.jitter now))).Subperm (held s) := by
  rw [step]
  split
  · exact .refl _
  · next m rest hbox =>
      have hstore := perm_handleGetOrStore s.jitter now m.addr m.data
      have hset := subperm_set s.tasks m.task
        ⟨m.addr, (s.jitter.handleGetOrStore now m.addr m.data).2.next⟩
      rw [held, held, hbox, List.map_cons, List.append_assoc, List.append_assoc]
      refine ((List.subperm_append_right _).mpr hset).trans (List.Perm.subperm ?_)
      -- the answered task stands in front of the others
      refine (List.perm_append_comm.append_right _).trans ?_
      rw [List.append_assoc, taskHolds, ← List.append_assoc _ _ (rest.map _),
        ← List.singleton_append (l := rest.map _), ← List.append_assoc _ [_]]
      exact (hstore.append_right _).append_left _

theorem subperm_held_set (s : JitterStage) (i : Nat) {t : Forwarder}
    (hnil : taskHolds t = []) :
    (held { s with tasks := s.tasks.set i t }).Subperm (held s) := by
  have hset := subperm_set s.tasks i t
  rw [hnil, List.nil_append] at hset
  rw [held, held, List.append_assoc, List.append_assoc]
  exact (List.subperm_append_right _).mpr hset

/-- A step of the stage loses packets at most. -/
theorem subperm_held_step (s : JitterStage) (e : StageEvent) :
    (reaches s e ++ held (step s e)).Subperm (held s ++ (arrival e).toList) := by
  cases e with
  | receive addr data =>
      refine List.Perm.subperm (.of_eq ?_)
      simp [reaches, step, held, arrival, taskHolds, ForwardPhase.packets,
        tagged]
  | jitter now =>
      show (held (step s (.jitter now))).Subperm (held s ++ [])
      rw [List.append_nil]
      exact subperm_held_jitter s now
  | increase addr now =>
      show (held (step s (.increase addr now))).Subperm (held s ++ [])
      rw [List.append_nil]
      exact List.Perm.subperm (((perm_buffered_handleIncrease s.jitter now
        addr).append_left _).append_right _)
  | decrease addr =>
      show (held (step s (.decrease addr))).Subperm (held s ++ [])
      rw [List.append_nil]
      exact List.Perm.subperm (((perm_buffered_handleDecrease s.jitter
        addr).append_left _).append_right _)
  | forward i =>
      show (reaches s (.forward i) ++ held (step s (.forward i))).Subperm
        (held s ++ [])
      rw [List.append_nil, reaches, step]
      cases hnext : s.next i with
      | none => exact .refl _
      | some out =>
          obtain ⟨addr, p, phase⟩ := out
          exact List.Perm.subperm (((perm_forward hnext).append_right
            _).append_right _)
  | giveUp i =>
      show (held (step s (.giveUp i))).Subperm (held s ++ [])
      rw [List.append_nil, step]
      split
      · exact subperm_held_set s i rfl
      · exact .refl _

end JitterStage

/-! ## The server -/

namespace Server

variable {S M : Type}

/-- All media packets that have arrived and are not handled yet. -/
def media (s : Server S) : List (SocketAddr × DataPacket) :=
  s.toRtc ++ s.stage.held

/-- The media packet a datagram is, with its address. -/
def received : ServerEvent S → List (SocketAddr × DataPacket)
  | .datagram buf addr =>
      match WebRtcRequest.fromDatagram buf addr with
      | .ok (.rtc message addr) => [(addr, message)]
      | _ => []
  | _ => []

/-- The packet `RtcActor` handles at an event; nothing stops it. -/
def handled (s : Server S) : ServerEvent S → List (SocketAddr × DataPacket)
  | .rtc i _ _ => s.toRtc[i]?.toList
  | _ => []

theorem handled_of_not_allowed {s : Server S} {e : ServerEvent S}
    (h : ¬ s.health.allows e = true) : s.handled e = [] := by
  cases e with
  | rtc i now sched => cases hs : s.health <;> rw [hs] at h <;> exact absurd rfl h
  | _ => rfl

theorem subperm_of_media_eq {s s' : Server S} (h : s'.media = s.media) :
    s'.media.Subperm (s.media ++ []) := by
  rw [h, List.append_nil]

/-- Events of the stage that neither take a packet in nor hand one on. -/
theorem subperm_media_stage (s : Server S) {e : StageEvent}
    (hin : JitterStage.arrival e = none) (hout : s.stage.reaches e = []) :
    ({ s with stage := s.stage.step e } : Server S).media.Subperm
      (s.media ++ []) := by
  have hstep := JitterStage.subperm_held_step s.stage e
  rw [hin, hout, Option.toList_none, List.append_nil] at hstep
  rw [List.append_nil]
  exact (List.subperm_append_left s.toRtc).mpr hstep

theorem subperm_media_datagram (host : Host S M) (s : Server S)
    (buf : DataPacket) (addr : SocketAddr) :
    (s.act host (.datagram buf addr)).media.Subperm
      (s.media ++ received (S := S) (.datagram buf addr)) := by
  rw [act, received]
  cases hreq : WebRtcRequest.fromDatagram buf addr with
  | error e => exact subperm_of_media_eq rfl
  | ok req =>
      cases req with
      | stun req addr => exact subperm_of_media_eq rfl
      | dtls message addr => exact subperm_of_media_eq rfl
      | unknown => exact subperm_of_media_eq rfl
      | rtc message addr =>
          have hstep := JitterStage.subperm_held_step s.stage
            (.receive addr message)
          show (s.toRtc ++ (s.stage.step (.receive addr message)).held).Subperm
            (s.toRtc ++ s.stage.held ++ [(addr, message)])
          rw [List.append_assoc]
          exact (List.subperm_append_left s.toRtc).mpr hstep

theorem subperm_media_act (host : Host S M) (s : Server S) (e : ServerEvent S) :
    (s.handled e ++ (s.act host e).media).Subperm (s.media ++ received e) := by
  cases e with
  | offer sdp groupId world => exact subperm_of_media_eq rfl
  | recv i =>
      obtain ⟨_, _, heq⟩ := act_recv host s i
      exact subperm_of_media_eq ((congrArg media heq).trans rfl)
  | datagram buf addr => exact subperm_media_datagram host s buf addr
  | clearData now => exact subperm_of_media_eq rfl
  | client i now draw =>
      obtain ⟨_, _, _, _, _, _, heq⟩ := act_client host s i now draw
      exact subperm_of_media_eq ((congrArg media heq).trans rfl)
  | poll i x => exact subperm_of_media_eq rfl
  | delete => exact subperm_of_media_eq rfl
  | sslRead c =>
      obtain ⟨_, heq⟩ := act_sslRead host s c
      exact subperm_of_media_eq ((congrArg media heq).trans rfl)
  | sslWrite c message =>
      obtain ⟨_, heq⟩ := act_sslWrite host s c message
      exact subperm_of_media_eq ((congrArg media heq).trans rfl)
  | outgoing c =>
      obtain ⟨_, _, heq⟩ := act_outgoing host s c
      exact subperm_of_media_eq ((congrArg media heq).trans rfl)
  | jitter now => exact subperm_media_stage s rfl rfl
  | giveUp i => exact subperm_media_stage s rfl rfl
  | delay i now =>
      show (s.act host (.delay i now)).media.Subperm (s.media ++ [])
      rw [act, deliver]
      split
      · exact subperm_of_media_eq rfl
      · next m _ =>
          cases m with
          | increase addr =>
              exact subperm_media_stage { s with toJitter := _ } rfl rfl
          | decrease addr =>
              exact subperm_media_stage { s with toJitter := _ } rfl rfl
          | getOrStore addr data => exact subperm_of_media_eq rfl
  | forward i =>
      have hstep := JitterStage.subperm_held_step s.stage (.forward i)
      show (s.toRtc ++ s.stage.reaches (.forward i) ++
        (s.stage.step (.forward i)).held).Subperm (s.media ++ [])
      rw [List.append_assoc, media, List.append_assoc]
      exact (List.subperm_append_left s.toRtc).mpr hstep
  | rtc i now sched =>
      rw [handled, act, deliver]
      cases hbox : s.toRtc[i]? with
      | none => exact subperm_of_media_eq rfl
      | some m =>
          obtain ⟨hi, rfl⟩ := List.getElem?_eq_some_iff.mp hbox
          have htaken := List.getElem_cons_eraseIdx_perm hi
          show (s.toRtc[i] :: (s.toRtc.eraseIdx i ++ s.stage.held)).Subperm
            (s.media ++ [])
          rw [List.append_nil]
          exact List.Perm.subperm (htaken.append_right s.stage.held)
  | send i buf =>
      obtain ⟨_, _, heq⟩ := act_send host s i buf
      exact subperm_of_media_eq ((congrArg media heq).trans rfl)

theorem subperm_media_step (host : Host S M) (s : Server S)
    (e : ServerEvent S) :
    (s.handled e ++ (s.step host e).media).Subperm (s.media ++ received e) := by
  rw [step]
  split
  · exact subperm_media_act host s e
  · next hdown =>
      rw [handled_of_not_allowed hdown, List.nil_append]
      exact (List.sublist_append_left _ _).subperm

/-- Whatever happens, in whatever order: with multiplicity, the media packets
`RtcActor` handles are some of those the server received, each under the address
it came from. -/
theorem handled_subperm_received (host : Host S M)
    (es : List (ServerEvent S)) :
    (Machine.trace (step host) handled init es).Subperm
      (es.flatMap received) := by
  have h := Machine.trace_subperm (subperm_media_step host) es init
  rw [Machine.trace_of_event] at h
  exact (List.sublist_append_left _ _).subperm.trans h

end Server

/-! ## What one packet sends -/

namespace RtcActor

variable {S : Type}

theorem addr_of_sendTo (lib : SrtpLib S) (addr : SocketAddr) (p : Prepared)
    (r : Registry S) (recv : Receiver) (e : Emission)
    (h : (sendTo lib addr p r recv).2 = .ok e) : e.addr = recv.1 := by
  rw [sendTo] at h
  split at h
  · cases h
  · simp only [] at h
    split at h
    · cases h
    · cases h
      rfl

theorem countP_emissions_le (b : SocketAddr) :
    ∀ (results : List (Receiver × Except ErrorParse Emission)),
      (∀ res ∈ results, ∀ e, res.2 = .ok e → e.addr = res.1.1) →
      (emissions results).countP (fun e => e.addr = b) ≤
        (results.map Prod.fst).countP (fun recv => recv.1 = b) := by
  intro results
  induction results with
  | nil => intro _; exact Nat.le_refl _
  | cons res results ih =>
      intro h
      have htail := ih fun res' hmem => h res' (List.mem_cons_of_mem res hmem)
      have hhead := h res (List.mem_cons_self ..)
      obtain ⟨recv, out⟩ := res
      cases out with
      | error e =>
          rw [List.map_cons]
          exact htail.trans (List.sublist_cons_self _ _).countP_le
      | ok e =>
          show (e :: emissions results).countP _ ≤ (recv :: _).countP _
          rw [List.countP_cons, List.countP_cons, hhead e rfl]
          exact Nat.add_le_add_right htail _

theorem countP_entries_le_one {K V : Type} [DecidableEq K] (m : Table K V)
    (k : K) : m.entries.countP (fun e => e.1 = k) ≤ 1 := by
  have hnodup : (m.entries.map Sigma.fst).Nodup := m.nodupKeys
  have hcount := List.nodup_iff_count_le_one.mp hnodup k
  rw [List.count, List.countP_map] at hcount
  refine Nat.le_trans (Nat.le_of_eq (List.countP_congr ?_)) hcount
  intro e _
  simp

theorem length_sent_upstream (lib : SrtpLib S) (p : Prepared)
    (r : Registry S) (c : ClientRef) :
    (sendUpstream lib p r c).sent.length ≤ 1 := by
  rw [sendUpstream]
  split
  · exact Nat.zero_le _
  · split
    · exact Nat.zero_le _
    · split
      · exact Nat.zero_le _
      · simp only []
        split
        · exact Nat.zero_le _
        · exact Nat.le_refl _

/-- One packet goes to an address at most once. -/
theorem countP_sent_le_one (lib : SrtpLib S) (r : Registry S) (now : Instant)
    (sched : List Receiver) (message : DataPacket) (addr b : SocketAddr) :
    (handle lib r now sched message addr).sent.countP (fun e => e.addr = b) ≤
      1 := by
  rw [sent_handle]
  cases prepare lib r now message addr with
  | none => exact Nat.zero_le _
  | some x =>
      obtain ⟨r', c, p⟩ := x
      show (forward lib addr p r' c sched).sent.countP _ ≤ 1
      rw [forward]
      split
      · exact List.countP_le_length.trans (length_sent_upstream lib p r' c)
      · have hsend : ∀ r, True → ∀ recv ∈ liveReceivers r' c, True ∧
            ∀ e, (sendTo lib addr p r recv).2 = .ok e → e.addr = recv.1 :=
          fun r _ recv _ => ⟨trivial, addr_of_sendTo lib addr p r recv⟩
        have hresults := (ParIter.tryForEach_invariant (I := fun _ => True)
          (R := fun recv (res : Except ErrorParse Emission) =>
            ∀ e, res = .ok e → e.addr = recv.1) hsend (s := r') trivial
          sched).2
        have hsub := ParIter.subperm_map_fst_tryForEach (sendTo lib addr p) r'
          (nodup_liveReceivers r' c) sched
        calc (emissions (ParIter.tryForEach (sendTo lib addr p) r'
                (liveReceivers r' c) sched).2).countP (fun e => e.addr = b)
            ≤ ((ParIter.tryForEach (sendTo lib addr p) r' (liveReceivers r' c)
                sched).2.map Prod.fst).countP (fun recv => recv.1 = b) :=
              countP_emissions_le b _ fun res hmem => (hresults res hmem).2
          _ ≤ (liveReceivers r' c).countP (fun recv => recv.1 = b) :=
              hsub.countP_le _
          _ ≤ (r'.heap c).receivers.entries.countP (fun recv => recv.1 = b) :=
              List.filter_sublist.countP_le
          _ ≤ 1 := countP_entries_le_one _ b

end RtcActor

namespace Server

variable {S M : Type}

def isMediaTo (b : SocketAddr) : WebRtcRequest → Bool
  | .rtc _ addr => addr = b
  | _ => false

theorem not_isMediaTo_stun {b : SocketAddr} {effects : List StunEffect}
    {m : WebRtcRequest} (hm : m ∈ effects.filterMap StunEffect.toSend) :
    ¬ isMediaTo b m = true := by
  obtain ⟨eff, -, heff⟩ := List.mem_filterMap.mp hm
  cases eff with
  | respond req addr => cases heff; exact Bool.false_ne_true
  | mediaAddr addr media => cases heff
  | groupId g addr isSender => cases heff

/-- Only a packet that is handled gives `UdpSend` media for an address, and one
datagram at most. -/
theorem media_queued_le (host : Host S M) (b : SocketAddr) (s : Server S)
    (e : ServerEvent S) :
    (s.queued host e).countP (isMediaTo b) ≤ (s.handled e).length := by
  rw [queued, whenAllowed]
  split
  · cases e with
    | datagram buf addr =>
        rw [queues]
        split
        · exact Nat.le_of_eq
            (List.countP_eq_zero.mpr fun _ => not_isMediaTo_stun)
        · exact Nat.le_refl _
    | client i now draw =>
        rw [queues]
        split
        · exact Nat.le_refl _
        · exact Nat.le_refl _
    | rtc i now sched =>
        rw [queues, handled]
        cases s.toRtc[i]? with
        | none => exact Nat.le_refl _
        | some m =>
            have hone := RtcActor.countP_sent_le_one host.srtp
              s.clients.registry now sched m.2 m.1 b
            simp only [List.countP_map]
            exact hone
    | _ => exact Nat.le_refl _
  · exact Nat.zero_le _

/-- However its events are ordered, the server sends no address more media than
it has received in all. -/
theorem media_sent_le_received (host : Host S M) (es : List (ServerEvent S))
    (b : SocketAddr) :
    (Machine.trace (step host) (sends host) init es).countP
      (fun d => isMediaTo b d.1) ≤ (es.flatMap received).length := by
  have hqueued : (Machine.trace (step host) (queued host) init es).countP
      (isMediaTo b) ≤ (Machine.trace (step host) handled init es).length :=
    Machine.countP_trace_le_length (media_queued_le host b) es init
  have hhandled := Machine.trace_subperm (subperm_media_step host) es init
  rw [Machine.trace_of_event] at hhandled
  calc (Machine.trace (step host) (sends host) init es).countP
        (fun d => isMediaTo b d.1)
      ≤ (Machine.trace (step host) (queued host) init es).countP
          (isMediaTo b) := countP_sends_le_queued host (isMediaTo b) es
    _ ≤ (Machine.trace (step host) handled init es).length := hqueued
    _ ≤ (es.flatMap received).length :=
        ((List.sublist_append_left _ _).subperm.trans hhandled).length_le

end Server

end RStreamer
