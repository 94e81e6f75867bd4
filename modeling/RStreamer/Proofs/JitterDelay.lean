import RStreamer.Client.Metered

/-!
# The two copies of the jitter delay

`RtcActor` keeps the delay of a client in its statistics, `JitterControlActor`
keeps that of an address with its buffer, and the first sends the second a
message for every change it makes. So the buffer lags behind by the messages
still in the mailbox, and the two can only be compared through `settled`: the
delay the buffer will have once those are handled, the start delay if there is
no buffer.

Both sides change by the same step, but not under the same conditions. The
buffer refuses to go below the start delay and the client does not; a client
starts at the start delay, and the buffer of its address may be left over from
an earlier client. `Safe` rules out exactly these two (and the wrap of the
client's 32-bit counter), and `tracks_iff_safe_run` says that a run keeps every
client at the settled delay of its address throughout exactly when each of its
events was safe. The statement about states in which no message is pending follows
(`jitter_delays_agree_of_safe_run`).
-/

namespace RStreamer

/-! ## The buffer's side -/

/-- What a message does to the delay of one address. -/
def JitterMessage.change (addr : SocketAddr) (delay : Duration) :
    JitterMessage → Duration
  | .increase a =>
      if a = addr then delay + JITTER_BUFFER_DELAY_INCREASE_STEP else delay
  | .decrease a =>
      if a = addr ∧ JITTER_BUFFER_START_DELAY < delay then
        delay - JITTER_BUFFER_DELAY_INCREASE_STEP
      else delay
  | .getOrStore _ _ => delay

def JitterMessage.isChangeOf (addr : SocketAddr) : JitterMessage → Prop
  | .increase a => a = addr
  | .decrease a => a = addr
  | .getOrStore _ _ => False

theorem JitterMessage.change_of_not {addr : SocketAddr} {m : JitterMessage}
    (h : ¬ m.isChangeOf addr) (delay : Duration) :
    m.change addr delay = delay := by
  cases m with
  | increase a => exact if_neg h
  | decrease a => exact if_neg fun hc => h hc.1
  | getOrStore a data => rfl

namespace JitterBufferStorage

/-- The delay of an address, the start delay if it has no buffer. -/
def delayOf (st : JitterBufferStorage) (addr : SocketAddr) : Duration :=
  ((st.lookup addr).map fun jitter => jitter.delay).getD
    JITTER_BUFFER_START_DELAY

theorem delayOf_insert (st : JitterBufferStorage) (a addr : SocketAddr)
    (jitter : JitterBuffer) : delayOf (st.insert a jitter) addr =
      if addr = a then jitter.delay else st.delayOf addr := by
  rw [delayOf, Table.lookup_insert']
  split <;> rfl

theorem delay_orDefault (st : JitterBufferStorage) (addr : SocketAddr)
    (now : Instant) : (st.orDefault addr now).delay = st.delayOf addr := by
  rw [orDefault, delayOf]
  cases st.lookup addr <;> rfl

theorem delayOf_insert_same {st : JitterBufferStorage} {a : SocketAddr}
    {jitter : JitterBuffer} (h : jitter.delay = st.delayOf a)
    (addr : SocketAddr) : delayOf (st.insert a jitter) addr =
      st.delayOf addr := by
  rw [delayOf_insert]
  split
  · next ha => rw [h, ha]
  · rfl

theorem delayOf_handle (st : JitterBufferStorage) (now : Instant)
    (m : JitterMessage) (addr : SocketAddr) :
    delayOf (st.handle now m) addr = m.change addr (st.delayOf addr) := by
  cases m with
  | increase a =>
      simp only [handle, handleIncrease, delayOf_insert, delay_orDefault,
        JitterMessage.change]
      by_cases ha : addr = a
      · subst ha; rw [if_pos rfl]
      · rw [if_neg ha, if_neg (Ne.symm ha)]
  | decrease a =>
      simp only [handle, handleDecrease, JitterMessage.change]
      cases hb : st.lookup a with
      | none =>
          -- no buffer, no change: the virtual delay is the start delay
          rw [if_neg]
          rintro ⟨rfl, hlt⟩
          simp only [delayOf, hb, Option.map_none, Option.getD_none] at hlt
          exact absurd hlt (lt_irrefl _)
      | some jitter =>
          have hd : st.delayOf a = jitter.delay := by simp [delayOf, hb]
          simp only []
          split
          · next hle =>
              rw [if_neg]
              rintro ⟨rfl, hlt⟩
              rw [hd] at hlt
              exact absurd hlt (not_lt.mpr hle)
          · next hlt =>
              rw [delayOf_insert]
              by_cases ha : addr = a
              · subst ha
                rw [if_pos rfl, hd, if_pos ⟨rfl, not_le.mp hlt⟩]
              · rw [if_neg ha, if_neg fun hc => ha hc.1.symm]
  | getOrStore a data =>
      have hd := delay_orDefault st a now
      simp only [handle, handleGetOrStore, JitterMessage.change]
      rcases RtcActor.isRtcp_cases data with hr | hr
      · simp only [hr, if_true]
      · simp only [hr, Bool.false_eq_true, if_false]
        split
        · apply delayOf_insert_same; exact hd
        · apply delayOf_insert_same; exact hd

end JitterBufferStorage

/-! ## One change -/

def DelayChange.applied (delay : UInt32) : DelayChange → UInt32
  | .increase => delay + jitterDelayStep
  | .decrease => delay - jitterDelayStep

/-- A change the buffer makes too: down from above the start delay only, up
only inside the range of a `u32`. -/
def DelayChange.Fits (delay : UInt32) : DelayChange → Prop
  | .increase => delay.toNat + 10 < 2 ^ 32
  | .decrease => 50 < delay.toNat

instance (delay : UInt32) (v : DelayChange) : Decidable (v.Fits delay) :=
  match v with
  | .increase => inferInstanceAs (Decidable (_ < _))
  | .decrease => inferInstanceAs (Decidable (_ < _))

/-- A delay as both sides start with and step through it. -/
def OnGrid (delay : UInt32) : Prop := 50 ≤ delay.toNat ∧ delay.toNat % 10 = 0

theorem toNat_increase (d : UInt32) :
    (DelayChange.increase.applied d).toNat = (d.toNat + 10) % 2 ^ 32 := by
  have hstep : jitterDelayStep = 10 := by decide
  simp [DelayChange.applied, hstep, UInt32.toNat_add]

theorem toNat_decrease {d : UInt32} (h : 50 ≤ d.toNat) :
    (DelayChange.decrease.applied d).toNat = d.toNat - 10 := by
  have hstep : jitterDelayStep = 10 := by decide
  have hle : (10 : UInt32) ≤ d := by
    rw [UInt32.le_iff_toNat_le]
    exact Nat.le_trans (by decide) h
  simp [DelayChange.applied, hstep, UInt32.toNat_sub_of_le _ _ hle]

/-- From the same delay, the client and the buffer come to the same delay
exactly when the change fits. -/
theorem change_eq_iff {d : UInt32} (h : OnGrid d) (v : DelayChange)
    (addr : SocketAddr) :
    ((v.message addr).change addr (Duration.fromMillis d.toNat) =
        Duration.fromMillis (v.applied d).toNat ∧ OnGrid (v.applied d)) ↔
      v.Fits d := by
  obtain ⟨h50, h10⟩ := h
  have hlt := d.toNat_lt
  cases v with
  | increase =>
      simp only [DelayChange.message, JitterMessage.change, if_true,
        JITTER_BUFFER_DELAY_INCREASE_STEP, Duration.fromMillis_add,
        Duration.fromMillis_inj, OnGrid, toNat_increase, DelayChange.Fits]
      by_cases hn : d.toNat + 10 < 2 ^ 32
      · rw [Nat.mod_eq_of_lt hn]
        omega
      · -- the wrapped value is below the start delay
        have hmod : (d.toNat + 10) % 2 ^ 32 < 10 := by omega
        omega
  | decrease =>
      simp only [DelayChange.message, JitterMessage.change, true_and,
        JITTER_BUFFER_START_DELAY, JITTER_BUFFER_DELAY_INCREASE_STEP,
        Duration.fromMillis_lt, Duration.fromMillis_sub, OnGrid,
        toNat_decrease h50, DelayChange.Fits]
      split
      · next hn => exact iff_of_true ⟨rfl, by omega, by omega⟩ hn
      · next hn =>
          -- the buffer stays, the client falls below the start delay
          refine iff_of_false (fun hc => hn ?_) hn
          have h60 := hc.2.1
          omega

namespace System

open Registry RtcActor

variable {S : Type}

/-- The delay of an address once every pending message is handled. -/
def settled (s : System S) (addr : SocketAddr) : Duration :=
  s.mailbox.foldl (fun d m => m.change addr d) (s.jitter.delayOf addr)

theorem settled_step_jitter (lib : SrtpLib S) (s : System S) (now : Instant)
    (addr : SocketAddr) :
    (step lib s (.jitter now)).settled addr = s.settled addr := by
  obtain ⟨r, j, mailbox⟩ := s
  cases mailbox with
  | nil => rfl
  | cons m rest =>
      simp only [settled, step, JitterBufferStorage.delayOf_handle,
        List.foldl_cons]

theorem settled_of_quiet {s : System S} {addr : SocketAddr}
    (h : ∀ m ∈ s.mailbox, ¬ m.isChangeOf addr) :
    s.settled addr = s.jitter.delayOf addr := by
  obtain ⟨r, j, mailbox⟩ := s
  simp only [settled] at h ⊢
  generalize j.delayOf addr = d
  induction mailbox with
  | nil => rfl
  | cons m rest ih =>
      rw [List.foldl_cons,
        JitterMessage.change_of_not (h m (List.mem_cons_self ..))]
      exact ih fun m' hm' => h m' (List.mem_cons_of_mem m hm')

/-! ## The client's side -/

def clientDelay (s : System S) (c : ClientRef) : UInt32 :=
  (s.registry.heap c).jitterStats.jitterDelay

/-- The change a packet makes to the delay of the client it is from. -/
def delayChange (lib : SrtpLib S) (s : System S) (message : DataPacket)
    (addr : SocketAddr) (now : Instant) : Option (ClientRef × DelayChange) :=
  (rewritingOf lib s.registry now message addr).bind fun x =>
    ((s.registry.heap x.1).jitterStats.verdict x.2.1 x.2.2.2 now).map
      fun v => (x.1, v)

/-- Every stored client has the settled delay of its address. That delay is
the start delay and a number of steps, which keeps the client's from falling
below the start. -/
def Tracks (s : System S) : Prop :=
  ∀ addr c, s.registry.clientAt addr = some c →
    s.settled addr = Duration.fromMillis (s.clientDelay c).toNat ∧
      OnGrid (s.clientDelay c)

/-- The events after which the delays are still the same: a packet lowers the
client's delay only from above the start delay and raises it only inside the
range of a `u32`, and a client is registered only at an address whose settled
delay is the start delay. -/
def Safe (lib : SrtpLib S) (s : System S) : Event S → Prop
  | .client (.dtls addr _) =>
      s.registry.clientAt addr = none →
        s.settled addr = JITTER_BUFFER_START_DELAY
  | .rtc message addr now _ =>
      ∀ c v, delayChange lib s message addr now = some (c, v) →
        v.Fits (s.clientDelay c)
  | _ => True

theorem tracks_init : (init : System S).Tracks := by
  intro addr c h
  cases h

theorem Tracks.congr {s s' : System S} (h : s.Tracks)
    (hat : ∀ addr c, s'.registry.clientAt addr = some c →
      s.registry.clientAt addr = some c)
    (hset : ∀ addr, s'.settled addr = s.settled addr)
    (hdelay : ∀ c, s'.clientDelay c = s.clientDelay c) : s'.Tracks := by
  intro addr c hc
  rw [hset, hdelay]
  exact h addr c (hat addr c hc)

/-! ## Registration -/

theorem tracks_register_iff {s : System S} (hw : s.registry.WF)
    (h : s.Tracks) (addr : SocketAddr) (now : Instant) :
    Tracks { s with registry := s.registry.register addr now } ↔
      (s.registry.clientAt addr = none →
        s.settled addr = JITTER_BUFFER_START_DELAY) := by
  cases hat : s.registry.clientAt addr with
  | some c =>
      rw [register_of_stored hat]
      exact iff_of_true h (fun hc => by cases hc)
  | none =>
      have hheap := heap_register s.registry addr now hat
      refine ⟨?_, ?_⟩
      · intro ht _
        have hnew := (ht addr s.registry.next
          (by rw [clientAt_register _ _ _ hat, if_pos rfl])).1
        rw [clientDelay, hheap, if_pos rfl] at hnew
        exact hnew
      · intro hset a c hc
        rcases stored_of_register hat hc with ⟨rfl, rfl⟩ | ⟨-, hc'⟩
        · have h50 : (Client.default now : Client S).jitterStats.jitterDelay =
              50 := rfl
          rw [clientDelay, hheap, if_pos rfl, h50]
          exact ⟨hset rfl, by decide, by decide⟩
        · have hlt := hw.stored_lt hc'
          rw [clientDelay, hheap, if_neg (Nat.ne_of_lt hlt)]
          exact h a c hc'

theorem tracks_client {s : System S} (h : s.Tracks)
    {m : ClientActor.Message S} (hm : ∀ addr now, m ≠ .dtls addr now) :
    Tracks { s with registry := ClientActor.handle s.registry m } := by
  cases m with
  | dtls addr now => exact absurd rfl (hm addr now)
  | connected d t =>
      refine h.congr (fun _ _ hc => hc) (fun _ => rfl) fun c => ?_
      rw [clientDelay, ClientActor.handle_connected]
      exact (sameButSessions_setSrtp s.registry d t).field
        (fun cl => cl.jitterStats.jitterDelay) (fun _ _ => rfl) c
  | groupId g addr isSender =>
      refine h.congr (fun a c hc => ?_) (fun _ => rfl) fun c => ?_
      · simp only [ClientActor.handle_groupId] at hc
        rwa [clientAt, clientStorage_groupId] at hc
      · rw [clientDelay, ClientActor.handle_groupId]
        exact (sameStreams_groupId s.registry g addr isSender).field
          (fun cl => cl.jitterStats.jitterDelay) (fun _ _ _ _ => rfl) c
  | mediaAddr addr media now draw =>
      refine h.congr (fun a c hc => ?_) (fun _ => rfl) fun c => ?_
      · simp only [ClientActor.handle_mediaAddr] at hc
        rwa [clientAt, clientStorage_mediaAddr] at hc
      · rw [clientDelay, ClientActor.handle_mediaAddr, jitterStats_mediaAddr]
        rfl
  | delete addr =>
      refine h.congr (fun a c hc => ?_) (fun _ => rfl) fun c => ?_
      · simp only [ClientActor.handle_delete] at hc
        exact (stored_of_delete hc).2
      · rw [clientDelay, ClientActor.handle_delete]
        exact (sameStreams_delete s.registry addr).field
          (fun cl => cl.jitterStats.jitterDelay) (fun _ _ _ _ => rfl) c

/-! ## Packets -/

theorem clientAt_of_delayChange {lib : SrtpLib S} {s : System S}
    {message : DataPacket} {addr : SocketAddr} {now : Instant} {c : ClientRef}
    {v : DelayChange} (h : delayChange lib s message addr now = some (c, v)) :
    s.registry.clientAt addr = some c := by
  rw [delayChange] at h
  obtain ⟨⟨c', f, header, rw⟩, hx, hv⟩ := Option.bind_eq_some_iff.mp h
  obtain ⟨v', -, heq⟩ := Option.map_eq_some_iff.mp hv
  cases heq
  exact clientAt_of_rewritingOf hx

theorem settled_rtc (lib : SrtpLib S) (s : System S) (message : DataPacket)
    (addr : SocketAddr) (now : Instant) (sched : List Receiver)
    (a : SocketAddr) :
    (step lib s (.rtc message addr now sched)).settled a =
      match delayChange lib s message addr now with
      | some (_, v) => (v.message addr).change a (s.settled a)
      | none => s.settled a := by
  have hctl := (handle_effects lib s.registry now sched message addr).2.1
  simp only [settled, step, hctl, delayChange, List.foldl_append]
  cases rewritingOf lib s.registry now message addr with
  | none => rfl
  | some x =>
      obtain ⟨c, f, header, rw⟩ := x
      simp only [controlOf, Option.bind_some]
      cases (s.registry.heap c).jitterStats.verdict f rw now <;> rfl

theorem clientDelay_rtc (lib : SrtpLib S) (s : System S)
    (message : DataPacket) (addr : SocketAddr) (now : Instant)
    (sched : List Receiver) (d : ClientRef) :
    (step lib s (.rtc message addr now sched)).clientDelay d =
      match delayChange lib s message addr now with
      | some (c, v) => if d = c then v.applied (s.clientDelay d)
          else s.clientDelay d
      | none => s.clientDelay d := by
  simp only [clientDelay, step, jitterStats_handle, delayChange]
  cases rewritingOf lib s.registry now message addr with
  | none => rfl
  | some x =>
      obtain ⟨c, f, header, rw⟩ := x
      simp only [Option.bind_some]
      by_cases hd : d = c
      · subst hd
        rw [if_pos rfl]
        cases (s.registry.heap d).jitterStats.verdict f rw now with
        | none => rfl
        | some v =>
            simp only [Option.map_some, if_true]
            cases v <;> rfl
      · rw [if_neg hd]
        cases (s.registry.heap c).jitterStats.verdict f rw now with
        | none => rfl
        | some v => simp only [Option.map_some, if_neg hd]

theorem tracks_rtc_iff {s : System S} (hw : s.registry.WF) (h : s.Tracks)
    (lib : SrtpLib S) (message : DataPacket) (addr : SocketAddr)
    (now : Instant) (sched : List Receiver) :
    (step lib s (.rtc message addr now sched)).Tracks ↔
      Safe lib s (.rtc message addr now sched) := by
  have hat := (handle_sameRoutes lib s.registry now sched message addr).clientAt
  have hset := settled_rtc lib s message addr now sched
  have hdelay := clientDelay_rtc lib s message addr now sched
  cases hv : delayChange lib s message addr now with
  | none =>
      simp only [hv] at hset hdelay
      refine iff_of_true (h.congr ?_ hset hdelay) fun c v hcv => ?_
      · intro a c hc
        rwa [← hat]
      · rw [hv] at hcv
        cases hcv
  | some cv =>
      obtain ⟨c, v⟩ := cv
      simp only [hv] at hset hdelay
      have hc := clientAt_of_delayChange hv
      obtain ⟨hd, hgrid⟩ := h addr c hc
      have hsafe : Safe lib s (.rtc message addr now sched) ↔
          v.Fits (s.clientDelay c) := by
        simp only [Safe, hv]
        exact ⟨fun hx => hx c v rfl, fun hx c' v' he => by cases he; exact hx⟩
      rw [hsafe, ← change_eq_iff hgrid v addr, ← hd]
      refine ⟨?_, ?_⟩
      · intro ht
        have hnew := ht addr c ((hat addr).trans hc)
        rwa [hset, hdelay, if_pos rfl] at hnew
      · intro hnew a e he
        have he' : s.registry.clientAt a = some e := (hat a).symm.trans he
        rw [hset, hdelay]
        by_cases ha : a = addr
        · subst ha
          rw [hc] at he'
          cases he'
          rwa [if_pos rfl]
        · -- another address: no message for it, and another client
          have hne : e ≠ c := fun x => ha (hw.stored_inj he' (x ▸ hc))
          have hother : ¬ (v.message addr).isChangeOf a := by
            cases v <;> exact fun x => ha x.symm
          rw [if_neg hne, JitterMessage.change_of_not hother]
          exact h a e he'

theorem tracks_step_iff {s : System S} (hw : s.registry.WF) (h : s.Tracks)
    (lib : SrtpLib S) (e : Event S) :
    (step lib s e).Tracks ↔ Safe lib s e := by
  cases e with
  | rtc message addr now sched => exact tracks_rtc_iff hw h lib message addr now sched
  | datagram addr data =>
      refine iff_of_true (h.congr (fun _ _ hc => hc) ?_ fun _ => rfl) trivial
      intro a
      simp only [settled, step, List.foldl_append, List.foldl_cons,
        List.foldl_nil, JitterMessage.change]
  | jitter now =>
      refine iff_of_true (h.congr ?_ (settled_step_jitter lib s now) ?_) trivial
      · intro a c hc
        rwa [registry_step_jitter] at hc
      · intro c
        rw [clientDelay, registry_step_jitter]
        rfl
  | client m =>
      cases m with
      | dtls addr now =>
          simp only [step, ClientActor.handle_dtls]
          exact tracks_register_iff hw h addr now
      | connected d t =>
          refine iff_of_true (tracks_client h fun _ _ hm => ?_) trivial
          cases hm
      | groupId g addr b =>
          refine iff_of_true (tracks_client h fun _ _ hm => ?_) trivial
          cases hm
      | mediaAddr addr media now draw =>
          refine iff_of_true (tracks_client h fun _ _ hm => ?_) trivial
          cases hm
      | delete addr =>
          refine iff_of_true (tracks_client h fun _ _ hm => ?_) trivial
          cases hm

/-! ## Runs -/

/-- A run keeps every client at the settled delay of its address throughout
exactly when each of its events was safe where it happened. -/
theorem tracks_iff_safe_run (lib : SrtpLib S) (es : List (Event S)) :
    Machine.Always (step lib) Tracks init es ↔
      Machine.Along (step lib) (Safe lib) init es :=
  Machine.always_iff_along (I := fun s : System S => s.registry.WF)
    (wf_step lib) (fun _ e hw h => tracks_step_iff hw h lib e)
    Registry.wf_init tracks_init

/-- Wherever a client is stored, its address has a buffer and no change of its
delay is pending, the two delays are the same. -/
def DelaysAgree (s : System S) : Prop :=
  ∀ addr c jitter, s.registry.clientAt addr = some c →
    s.jitter.lookup addr = some jitter →
    (∀ m ∈ s.mailbox, ¬ m.isChangeOf addr) →
    jitter.delay = Duration.fromMillis (s.clientDelay c).toNat

/-- No stored client's delay is below the start delay. -/
def DelaysAboveStart (s : System S) : Prop :=
  ∀ addr c, s.registry.clientAt addr = some c →
    50 ≤ (s.clientDelay c).toNat

theorem Tracks.delaysAgree {s : System S} (h : s.Tracks) : s.DelaysAgree := by
  intro addr c jitter hc hj hquiet
  have hd : s.jitter.delayOf addr = jitter.delay := by
    simp [JitterBufferStorage.delayOf, hj]
  rw [← hd, ← settled_of_quiet hquiet]
  exact (h addr c hc).1

/-- In every run of safe events the two delays agree in every state, and no
client's delay is ever below the start delay. -/
theorem jitter_delays_agree_of_safe_run (lib : SrtpLib S)
    (es : List (Event S)) (h : Machine.Along (step lib) (Safe lib) init es) :
    Machine.Always (step lib) (fun s => s.DelaysAgree ∧ s.DelaysAboveStart)
      init es :=
  ((tracks_iff_safe_run lib es).mpr h).mono fun _ ht =>
    ⟨ht.delaysAgree, fun addr c hc => (ht addr c hc).2.1⟩

/-! A client registers, and its stream starts a second or ten seconds later. -/

/-- The counters were made long before the first packet, which therefore looks
late: both delays go up by a step. -/
def lateStart : List (Event Unit) :=
  [.client (.dtls (.host 1) 0),
    .client (.connected 0 ⟨(), ()⟩),
    .client (.mediaAddr (.host 1) MediaList.vp8 0 fun _ => RuntimeDraw.least),
    .datagram (.host 1) (videoPacket 7),
    .jitter (Duration.fromSecs 1),
    .rtc (videoPacket 7) (.host 1) (Duration.fromSecs 1) [],
    .jitter (Duration.fromSecs 1)]

theorem jitter_delays_agree_late_start :
    Machine.Always (step SrtpLib.null)
      (fun s => s.DelaysAgree ∧ s.DelaysAboveStart) init lateStart := by
  refine jitter_delays_agree_of_safe_run SrtpLib.null lateStart
    ⟨fun _ => rfl, trivial, trivial, trivial, trivial, ?_, trivial, trivial⟩
  intro c v hv
  have hup : some (0, DelayChange.increase) = some (c, v) := hv
  cases hup
  decide +kernel

/-- The client registers at once and describes its stream ten seconds later.
Its first packet is on time and finds the last check ten seconds old. -/
def quietStart : List (Event Unit) :=
  [.client (.dtls (.host 1) 0),
    .client (.connected 0 ⟨(), ()⟩),
    .client (.mediaAddr (.host 1) MediaList.vp8
      (Duration.fromSecs 10) fun _ => RuntimeDraw.least),
    .datagram (.host 1) (videoPacket 7),
    .jitter (Duration.fromSecs 10),
    .datagram (.host 1) (videoPacket 7),
    .jitter (Duration.fromMillis 10050),
    .rtc (videoPacket 7) (.host 1) (Duration.fromMillis 10050) [],
    .jitter (Duration.fromMillis 10050)]

/-- The client goes down to 40 ms, its buffer stays at 50 ms. -/
theorem quiet_start_splits_delays :
    ¬ ∀ es : List (Event Unit), (after SrtpLib.null es).DelaysAgree := by
  intro h
  have hj : (after SrtpLib.null quietStart).jitter.lookup (.host 1) =
      some ⟨[], Duration.fromMillis 10050, Duration.fromMillis 50⟩ := by
    decide +kernel
  have hmail : (after SrtpLib.null quietStart).mailbox = [] := by
    decide +kernel
  have heq := h quietStart (.host 1) 0 _ (by decide +kernel) hj
    (by rw [hmail]; exact fun m hm => by cases hm)
  revert heq
  decide +kernel

end System

end RStreamer
