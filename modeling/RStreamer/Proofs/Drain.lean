import RStreamer.Proofs.ArrivalOrder
import RStreamer.Proofs.Components

/-!
# No media packet is stuck

A media packet waits in the mailbox of `JitterControlActor`, in a buffer, with a
forwarding task and in the mailbox of `RtcActor`. No clock takes it out of a
buffer; what does is the next media packet of its address, once the delay is over.
That is enough: from every state a server that is up can be in, and from any time
on, some media datagrams from the addresses that packets wait for, and steps of the
server itself, empty all these places, and every packet is handled on the way, once
(`Server.media_can_be_handled`).

Every step that moves a packet on makes the whole lighter, where a packet weighs
less the nearer it is to `RtcActor`, and a buffer weighs more than what it takes to
empty it.
-/

namespace RStreamer

open JitterBufferStorage

namespace JitterStage

/-! ## Steps that lose nothing -/

/-- A task with nothing to send, replaced. -/
theorem perm_set {tasks : List Forwarder} {i : Nat} {t : Forwarder}
    (ht : tasks[i]? = some t) (hnil : taskHolds t = []) (t' : Forwarder) :
    ((tasks.set i t').flatMap taskHolds).Perm
      (taskHolds t' ++ tasks.flatMap taskHolds) := by
  obtain ⟨hi, rfl⟩ := List.getElem?_eq_some_iff.mp ht
  have hset := (List.set_perm_cons_eraseIdx hi t').flatMap_right taskHolds
  have hold := (List.getElem_cons_eraseIdx_perm hi).flatMap_right taskHolds
  rw [List.flatMap_cons] at hset hold
  rw [hnil, List.nil_append] at hold
  exact hset.trans (hold.append_left _)

/-- An answer goes to a task that waits for it. -/
theorem perm_tasks_jitter {s : JitterStage} (h : s.WF) {m : JitterRequest}
    {rest : List JitterRequest} (hbox : s.mailbox = m :: rest)
    (now : Instant) :
    ((step s (.jitter now)).tasks.flatMap taskHolds).Perm
      (tagged m.addr (s.jitter.handleGetOrStore now m.addr
        m.data).2.next.packets ++ s.tasks.flatMap taskHolds) := by
  have hm : m ∈ s.mailbox := hbox ▸ List.mem_cons_self
  obtain ⟨t, ht, -⟩ := h.owner hm
  have hnil : taskHolds t = [] := by
    rw [taskHolds, h.waiting hm (Nat.le_refl _) ht]
    rfl
  simp only [step, hbox]
  exact perm_set ht hnil _

theorem perm_held_jitter {s : JitterStage} (h : s.WF) (now : Instant) :
    (held (step s (.jitter now))).Perm (held s) := by
  cases hbox : s.mailbox with
  | nil =>
      simp only [step, hbox]
      exact .refl _
  | cons m rest =>
      have htasks := perm_tasks_jitter h hbox now
      have hstore := perm_handleGetOrStore s.jitter now m.addr m.data
      rw [held, held, hbox, List.map_cons, List.append_assoc, List.append_assoc]
      refine (htasks.append_right _).trans ?_
      refine (List.perm_append_comm.append_right _).trans ?_
      simp only [step, hbox]
      rw [List.append_assoc, ← List.append_assoc _ _ (rest.map _),
        ← List.singleton_append (l := rest.map _), ← List.append_assoc _ [_]]
      exact (hstore.append_right _).append_left _

/-! ## Weight -/

def weight (s : JitterStage) : Nat :=
  2 * (s.tasks.flatMap taskHolds).length + 5 * s.jitter.buffered.length +
    6 * s.mailbox.length

theorem weight_forward {s : JitterStage} {i : Nat} {addr : SocketAddr}
    {p : DataPacket} {phase : ForwardPhase}
    (h : s.next i = some (addr, p, phase)) :
    weight (step s (.forward i)) + 2 = weight s := by
  have hlen := (perm_forward h).length_eq
  simp only [weight, step, h]
  rw [List.length_cons] at hlen
  omega

/-- A request that is handled: all that its task gets is lighter than before, and
the request was the heaviest. -/
theorem weight_jitter {s : JitterStage} (h : s.WF) {m : JitterRequest}
    {rest : List JitterRequest} (hbox : s.mailbox = m :: rest)
    (now : Instant) :
    weight (step s (.jitter now)) + 3 * (s.jitter.handleGetOrStore now m.addr
      m.data).2.next.packets.length + 1 = weight s := by
  have htasks := (perm_tasks_jitter h hbox now).length_eq
  have hstore :=
    (perm_handleGetOrStore s.jitter now m.addr m.data).length_eq
  have hjitter : (step s (.jitter now)).jitter =
      (s.jitter.handleGetOrStore now m.addr m.data).1 := by
    simp only [step, hbox]
  have hmailbox : (step s (.jitter now)).mailbox = rest := by
    simp only [step, hbox]
  rw [weight, weight, hjitter, hmailbox, hbox, List.length_cons]
  rw [List.length_append, tagged, List.length_map] at htasks hstore
  rw [List.length_append, List.length_singleton] at hstore
  omega

/-- When the delay of a buffer is over, the next packet takes it along. -/
theorem packets_flushed {st : JitterBufferStorage} {addr : SocketAddr}
    {jitter : JitterBuffer} (hat : st.lookup addr = some jitter)
    {data : DataPacket} (hdata : isMedia data = true) {now : Instant}
    (hnow : jitter.time + jitter.delay ≤ now) :
    (st.handleGetOrStore now addr data).2.next.packets =
      jitter.buffer ++ [data] := by
  have hdefault : st.orDefault addr now = jitter := by
    rw [orDefault, hat, Option.getD_some]
  rw [handleGetOrStore_of_media hdata, hdefault, push, if_pos]
  · rfl
  · rw [elapsed]
    exact Nat.le_sub_of_add_le' hnow

/-- One more packet of an address with a full buffer, and the stage is
lighter. -/
theorem weight_flush {s : JitterStage} (h : s.WF) (hbox : s.mailbox = [])
    {addr : SocketAddr} {jitter : JitterBuffer}
    (hat : s.jitter.lookup addr = some jitter) (hfull : jitter.buffer ≠ [])
    (data : DataPacket) (hdata : isMedia data = true) {now : Instant}
    (hnow : jitter.time + jitter.delay ≤ now) :
    weight (step (step s (.receive addr data)) (.jitter now)) < weight s := by
  have hbox' : (step s (.receive addr data)).mailbox =
      [⟨addr, data, s.tasks.length⟩] := by
    rw [step, hbox]
    rfl
  have hweight := weight_jitter (h.receive addr data) hbox' now
  have hpackets := packets_flushed hat hdata hnow
  have hreceive : weight (step s (.receive addr data)) = weight s + 6 := by
    rw [weight, weight, hbox', hbox]
    simp [step, taskHolds, ForwardPhase.packets, tagged]
  have hlen := List.length_pos_iff.mpr hfull
  change weight _ + 3 * (s.jitter.handleGetOrStore _ addr
    data).2.next.packets.length + 1 = _ at hweight
  rw [hpackets, List.length_append, List.length_singleton] at hweight
  omega

/-! ## What can be moved -/

theorem exists_next {s : JitterStage} (h : s.tasks.flatMap taskHolds ≠ []) :
    ∃ i addr p phase, s.next i = some (addr, p, phase) := by
  obtain ⟨x, hx⟩ := List.exists_mem_of_ne_nil _ h
  obtain ⟨t, ht, hx⟩ := List.mem_flatMap.mp hx
  obtain ⟨i, hi⟩ := List.mem_iff_getElem?.mp ht
  refine ⟨i, t.addr, ?_⟩
  rw [next, hi, Option.bind_some]
  rw [taskHolds] at hx
  cases hphase : t.phase with
  | waiting => rw [hphase] at hx; cases hx
  | done => rw [hphase] at hx; cases hx
  | packet data => exact ⟨data, .done, rfl⟩
  | batch rest =>
      rw [hphase] at hx
      cases rest with
      | nil => cases hx
      | cons p rest => exact ⟨p, .batch rest, rfl⟩

theorem exists_buffer {st : JitterBufferStorage} (h : st.buffered ≠ []) :
    ∃ addr jitter, st.lookup addr = some jitter ∧ jitter.buffer ≠ [] := by
  obtain ⟨x, hx⟩ := List.exists_mem_of_ne_nil _ h
  obtain ⟨e, he, hx⟩ := List.mem_flatMap.mp hx
  refine ⟨e.1, e.2, AList.mem_lookup_iff.mpr he, ?_⟩
  intro hnil
  rw [hnil] at hx
  cases hx

end JitterStage

namespace Server

variable {S M : Type}

/-- The steps that move media on, and media datagrams from `known` addresses. -/
def MovesMedia (known : SocketAddr → Prop) : ServerEvent S → Prop
  | .datagram buf addr =>
      known addr ∧ WebRtcRequest.fromDatagram buf addr = .ok (.rtc buf addr)
  | .jitter _ => True
  | .forward _ => True
  | .rtc _ _ _ => True
  | _ => False

/-- The monotone clock when an event happens, as far as it is read. -/
def instant : ServerEvent S → Option Instant
  | .client _ now _ => some now
  | .jitter now => some now
  | .delay _ now => some now
  | .rtc _ now _ => some now
  | _ => none

/-- A run of such steps, on which the clock goes from `t` to `u` and never
back. -/
structure Moves (known : SocketAddr → Prop) (t : Instant)
    (es : List (ServerEvent S)) (u : Instant) : Prop where
  moves : ∀ e ∈ es, MovesMedia known e
  clock : t ≤ u
  between : ∀ now ∈ es.filterMap instant, t ≤ now ∧ now ≤ u
  ordered : (es.filterMap instant).Pairwise (· ≤ ·)

theorem Moves.nil {known : SocketAddr → Prop} (t : Instant) :
    Moves known t ([] : List (ServerEvent S)) t :=
  ⟨nofun, Nat.le_refl t, nofun, .nil⟩

theorem Moves.append {known : SocketAddr → Prop} {t u v : Instant}
    {es fs : List (ServerEvent S)} (h : Moves known t es u)
    (h' : Moves known u fs v) : Moves known t (es ++ fs) v := by
  refine ⟨?_, h.clock.trans h'.clock, ?_, ?_⟩
  · intro e he
    exact (List.mem_append.mp he).elim (h.moves e) (h'.moves e)
  · intro now hnow
    rw [List.filterMap_append] at hnow
    rcases List.mem_append.mp hnow with hnow | hnow
    · exact ⟨(h.between now hnow).1, (h.between now hnow).2.trans h'.clock⟩
    · exact ⟨h.clock.trans (h'.between now hnow).1, (h'.between now hnow).2⟩
  · rw [List.filterMap_append, List.pairwise_append]
    refine ⟨h.ordered, h'.ordered, fun now hnow later hlater => ?_⟩
    exact (h.between now hnow).2.trans (h'.between later hlater).1

/-- One step, or a datagram and the step after it, with one reading of the
clock. -/
theorem Moves.single {known : SocketAddr → Prop} {t now : Instant}
    (ht : t ≤ now) {es : List (ServerEvent S)}
    (hmoves : ∀ e ∈ es, MovesMedia known e)
    (hclock : es.filterMap instant = [now]) : Moves known t es now := by
  refine ⟨hmoves, ht, ?_, ?_⟩
  · rw [hclock]
    intro x hx
    rw [List.mem_singleton.mp hx]
    exact ⟨ht, Nat.le_refl now⟩
  · rw [hclock]
    exact List.pairwise_singleton _ now

/-- A server that is up, with media of `known` addresses only. -/
structure Fluid (known : SocketAddr → Prop) (s : Server S) : Prop where
  running : s.health = .running
  wf : s.stage.WF
  addrs : ∀ x ∈ s.media, known x.1

section Fluid

variable {host : Host S M} {known : SocketAddr → Prop} {s : Server S}

theorem perm_media_act (h : s.Fluid known) {e : ServerEvent S}
    (he : MovesMedia known e) :
    (s.handled e ++ (s.act host e).media).Perm (s.media ++ received e) := by
  cases e with
  | datagram buf addr =>
      rw [act, received, he.2]
      show (s.toRtc ++ (s.stage.step (.receive addr buf)).held).Perm
        (s.toRtc ++ s.stage.held ++ [(addr, buf)])
      refine .of_eq ?_
      simp [JitterStage.step, JitterStage.held, JitterStage.taskHolds,
        ForwardPhase.packets, tagged]
  | jitter now =>
      show (s.toRtc ++ (s.stage.step (.jitter now)).held).Perm (s.media ++ [])
      rw [List.append_nil]
      exact (JitterStage.perm_held_jitter h.wf now).append_left _
  | forward i =>
      show (s.toRtc ++ s.stage.reaches (.forward i) ++
        (s.stage.step (.forward i)).held).Perm (s.media ++ [])
      rw [List.append_nil, media, List.append_assoc]
      refine List.Perm.append_left _ ?_
      rw [JitterStage.reaches, JitterStage.step]
      cases hnext : s.stage.next i with
      | none => exact .refl _
      | some out =>
          obtain ⟨addr, p, phase⟩ := out
          exact ((JitterStage.perm_forward hnext).append_right _).append_right _
  | rtc i now sched =>
      rw [handled, act, deliver]
      cases hbox : s.toRtc[i]? with
      | none =>
          show s.media.Perm (s.media ++ [])
          rw [List.append_nil]
      | some m =>
          obtain ⟨hi, rfl⟩ := List.getElem?_eq_some_iff.mp hbox
          show (s.toRtc[i] :: (s.toRtc.eraseIdx i ++ s.stage.held)).Perm
            (s.media ++ [])
          rw [List.append_nil]
          exact (List.getElem_cons_eraseIdx_perm hi).append_right s.stage.held
  | _ => exact he.elim

theorem perm_media_step (host : Host S M) (s : Server S) (e : ServerEvent S)
    (he : MovesMedia known e) (h : s.Fluid known) :
    (s.handled e ++ (s.step host e).media).Perm (s.media ++ received e) := by
  rw [step_of_running h.running]
  exact perm_media_act h he

theorem fluid_step (host : Host S M) (s : Server S) (e : ServerEvent S)
    (he : MovesMedia known e) (h : s.Fluid known) :
    (s.step host e).Fluid known := by
  rw [step_of_running h.running]
  have haddrs : ∀ x ∈ (s.act host e).media, known x.1 := by
    intro x hx
    have hmem := (perm_media_act h he).subset (List.mem_append_right _ hx)
    rcases List.mem_append.mp hmem with hold | hnew
    · exact h.addrs x hold
    · cases e with
      | datagram buf addr =>
          rw [received, he.2] at hnew
          rw [List.mem_singleton.mp hnew]
          exact he.1
      | _ => cases hnew
  cases e with
  | datagram buf addr =>
      refine ⟨?_, ?_, haddrs⟩
      · rw [act, he.2]
        exact h.running
      · rw [act, he.2]
        exact h.wf.step (.receive addr buf)
  | jitter now => exact ⟨h.running, h.wf.step (.jitter now), haddrs⟩
  | forward i => exact ⟨h.running, h.wf.step (.forward i), haddrs⟩
  | rtc i now sched =>
      refine ⟨?_, ?_, haddrs⟩
      · rw [act, deliver]
        split <;> exact h.running
      · rw [act, deliver]
        split <;> exact h.wf
  | _ => exact he.elim

/-! ## Emptying the server -/

def weight (s : Server S) : Nat := s.toRtc.length + s.stage.weight

theorem media_eq_nil (h : s.weight = 0) : s.media = [] := by
  rw [weight, JitterStage.weight] at h
  have hlen : s.media.length = 0 := by
    simp only [media, JitterStage.held, List.length_append, List.length_map]
    omega
  exact List.length_eq_zero_iff.mp hlen

theorem lighter_rtc (host : Host S M) (h : s.Fluid known)
    (hrtc : s.toRtc ≠ []) (now : Instant) :
    (s.step host (.rtc 0 now [])).weight < s.weight := by
  obtain ⟨m, rest, heq⟩ := List.exists_cons_of_ne_nil hrtc
  rw [step_of_running h.running, act, deliver, heq]
  show rest.length + s.stage.weight < s.toRtc.length + s.stage.weight
  rw [heq, List.length_cons]
  omega

theorem lighter_forward (host : Host S M) (h : s.Fluid known) {i : Nat}
    {addr : SocketAddr} {p : DataPacket} {phase : ForwardPhase}
    (hnext : s.stage.next i = some (addr, p, phase)) :
    (s.step host (.forward i)).weight < s.weight := by
  have hweight := JitterStage.weight_forward hnext
  have hreaches : s.stage.reaches (.forward i) = [(addr, p)] := by
    rw [JitterStage.reaches, hnext]
  rw [step_of_running h.running]
  show (s.toRtc ++ s.stage.reaches (.forward i)).length +
    (s.stage.step (.forward i)).weight < s.toRtc.length + s.stage.weight
  rw [hreaches, List.length_append, List.length_singleton]
  omega

theorem lighter_jitter (host : Host S M) (h : s.Fluid known)
    (hbox : s.stage.mailbox ≠ []) (now : Instant) :
    (s.step host (.jitter now)).weight < s.weight := by
  obtain ⟨m, rest, heq⟩ := List.exists_cons_of_ne_nil hbox
  have hweight := JitterStage.weight_jitter h.wf heq now
  rw [step_of_running h.running]
  show s.toRtc.length + (s.stage.step (.jitter now)).weight <
    s.toRtc.length + s.stage.weight
  omega

/-- A buffer that is not empty gets another packet, when its delay is over. -/
theorem lighter_flush (host : Host S M) (h : s.Fluid known)
    (hbox : s.stage.mailbox = []) (hfull : s.stage.jitter.buffered ≠ [])
    (t : Instant) :
    ∃ addr now, t ≤ now ∧ known addr ∧
      ((s.step host (.datagram (videoPacket 0) addr)).step host
        (.jitter now)).weight < s.weight := by
  obtain ⟨addr, jitter, hat, hbuffer⟩ := JitterStage.exists_buffer hfull
  obtain ⟨p, hp⟩ := List.exists_mem_of_ne_nil _ hbuffer
  have hknown : known addr := by
    refine h.addrs (addr, p) (List.mem_append_right _ ?_)
    refine List.mem_append_left _ (List.mem_append_right _ ?_)
    exact List.mem_flatMap.mpr ⟨⟨addr, jitter⟩, AList.mem_lookup_iff.mp hat,
      List.mem_map_of_mem hp⟩
  have hrtc : WebRtcRequest.fromDatagram (videoPacket 0) addr =
    .ok (.rtc (videoPacket 0) addr) := rfl
  have hfluid := fluid_step host s (.datagram (videoPacket 0) addr)
    ⟨hknown, hrtc⟩ h
  have hweight := JitterStage.weight_flush h.wf hbox hat hbuffer
    (videoPacket 0) (by decide +kernel)
    (Nat.le_max_right t (jitter.time + jitter.delay))
  refine ⟨addr, max t (jitter.time + jitter.delay), Nat.le_max_left .., hknown,
    ?_⟩
  rw [step_of_running hfluid.running, step_of_running h.running, act, hrtc]
  exact Nat.add_lt_add_left hweight _

/-- As long as there is media under way, something can be done about it. -/
theorem exists_lighter (host : Host S M) (h : s.Fluid known) (t : Instant)
    (hpos : 0 < s.weight) :
    ∃ es u, Moves known t es u ∧
      (Machine.run (step host) s es).weight < s.weight := by
  by_cases hrtc : s.toRtc = []
  · by_cases htasks : s.stage.tasks.flatMap JitterStage.taskHolds = []
    · by_cases hbox : s.stage.mailbox = []
      · -- everything is in buffers
        have hfull : s.stage.jitter.buffered ≠ [] := by
          intro hnil
          rw [weight, JitterStage.weight, hrtc, htasks, hnil, hbox] at hpos
          exact Nat.lt_irrefl 0 hpos
        obtain ⟨addr, now, ht, hknown, hlt⟩ := lighter_flush host h hbox hfull t
        refine ⟨[.datagram (videoPacket 0) addr, .jitter now], now,
          .single ht ?_ rfl, hlt⟩
        intro e he
        rcases List.mem_cons.mp he with rfl | he
        · exact ⟨hknown, rfl⟩
        · rw [List.mem_singleton.mp he]
          trivial
      · exact ⟨[.jitter t], t, .single (Nat.le_refl t) (by simp [MovesMedia])
          rfl, lighter_jitter host h hbox t⟩
    · obtain ⟨i, addr, p, phase, hnext⟩ := JitterStage.exists_next htasks
      exact ⟨[.forward i], t, ⟨by simp [MovesMedia], Nat.le_refl t, nofun, .nil⟩,
        lighter_forward host h hnext⟩
  · exact ⟨[.rtc 0 t []], t, .single (Nat.le_refl t) (by simp [MovesMedia]) rfl,
      lighter_rtc host h hrtc t⟩

end Fluid

/-- Whatever has happened to a server that is still up, and whatever time it is:
there is a way on, by media datagrams from addresses that packets wait for and by
steps that move media on, after which no media is under way, and on it `RtcActor`
handles every packet that was under way and every packet that came in, once
each. -/
theorem media_can_be_handled (host : Host S M) (es : List (ServerEvent S))
    (hrun : (after host es).health = .running) (t₀ : Instant) :
    ∃ fs, (∀ e ∈ fs,
        MovesMedia (fun addr => ∃ p, (addr, p) ∈ (after host es).media) e) ∧
      (t₀ :: fs.filterMap instant).Pairwise (· ≤ ·) ∧
      (after host (es ++ fs)).health = .running ∧
      (after host (es ++ fs)).media = [] ∧
      (Machine.trace (step host) handled (after host es) fs).Perm
        ((after host es).media ++ fs.flatMap received) := by
  have hstage : (after host es).stage.WF := by
    rw [stage_after]
    exact JitterStage.wf_after _
  have hfluid : (after host es).Fluid
      (fun addr => ∃ p, (addr, p) ∈ (after host es).media) :=
    ⟨hrun, hstage, fun x hx => ⟨x.2, hx⟩⟩
  obtain ⟨fs, u, hmoves, hweight⟩ := Machine.exists_run_of_measure Moves.nil
    Moves.append
    (fun hmoves hs => Machine.run_invariant_of (fluid_step host) hmoves.moves hs)
    (fun s t hs hpos => exists_lighter host hs t hpos) hfluid t₀
  have hperm := Machine.trace_perm (fluid_step host)
    (perm_media_step host) hmoves.moves hfluid
  have hend := Machine.run_invariant_of (fluid_step host) hmoves.moves hfluid
  have hempty := media_eq_nil hweight
  rw [hempty, List.append_nil] at hperm
  have hclock : (t₀ :: fs.filterMap instant).Pairwise (· ≤ ·) :=
    .cons (fun now hnow => (hmoves.between now hnow).1) hmoves.ordered
  refine ⟨fs, hmoves.moves, hclock, ?_, ?_, hperm⟩
  · rw [after, Machine.run_append]
    exact hend.running
  · rw [after, Machine.run_append]
    exact hempty

/-- A packet that waits in its buffer. -/
def onePacket : List (ServerEvent Unit) :=
  [.datagram (videoPacket 7) (.host 1), .jitter 0]

theorem buffered_packet_can_be_handled :
    (after plainHost onePacket).media = [(.host 1, videoPacket 7)] ∧
      ∃ fs, (∀ e ∈ fs, MovesMedia (fun addr => ∃ p, (addr, p) ∈
          (after plainHost onePacket).media) e) ∧
        (5 :: fs.filterMap instant).Pairwise (· ≤ ·) ∧
        (after plainHost (onePacket ++ fs)).health = .running ∧
        (after plainHost (onePacket ++ fs)).media = [] ∧
        (Machine.trace (step plainHost) handled (after plainHost onePacket)
          fs).Perm ((after plainHost onePacket).media ++ fs.flatMap received) :=
  ⟨by decide +kernel,
    media_can_be_handled plainHost onePacket (by decide +kernel) 5⟩

end Server

end RStreamer
