import RStreamer.Proofs.BufferConservation
import RStreamer.Proofs.JitterDelay
import RStreamer.Rtp.Srtp

/-!
# When the jitter buffers are handed on

A buffer is handed on by a packet, if the delay has passed since it was last
handed on. So the delay works in two ways. It keeps the batches of an address apart,
by the start delay at least, since no message lowers the delay further
(`batches_spaced`). And it bounds how long a packet waits: a packet that comes a full
delay later takes it along (`waits_less_than_delay`). The second needs a clock that
does not run backwards, the first needs nothing.
-/

namespace RStreamer.JitterBufferStorage

def isBatch : JitterResponse → Bool
  | .buffer (some _) => true
  | _ => false

/-- The time of an event that hands the buffer of `addr` on. -/
def batchAt (addr : SocketAddr) (st : JitterBufferStorage) (e : Timed) :
    List Instant :=
  if (answers addr st e).any isBatch then [e.1] else []

/-- When the buffer of `addr` was handed on in a run. -/
def batchTimes (addr : SocketAddr) (es : List Timed) : List Instant :=
  Machine.trace step (batchAt addr) ∅ es

/-- The media packet of `addr` an event stores, and when. -/
def arrivesAt (addr : SocketAddr) : Timed → List (Instant × DataPacket)
  | (now, .getOrStore a data) =>
      if a = addr ∧ isMedia data then [(now, data)] else []
  | _ => []

def arrivals (addr : SocketAddr) (es : List Timed) :
    List (Instant × DataPacket) :=
  es.flatMap (arrivesAt addr)

/-- The start delay and some steps. -/
def InSteps (d : Duration) : Prop :=
  ∃ k, d = JITTER_BUFFER_START_DELAY + k * JITTER_BUFFER_DELAY_INCREASE_STEP

theorem InSteps.increase {d : Duration} (h : InSteps d) :
    InSteps (d + JITTER_BUFFER_DELAY_INCREASE_STEP) := by
  obtain ⟨k, rfl⟩ := h
  refine ⟨k + 1, ?_⟩
  rw [Nat.succ_mul, Nat.add_assoc]

/-- A delay above the start delay is a whole step above it. -/
theorem InSteps.decrease {d : Duration} (h : InSteps d)
    (hlt : JITTER_BUFFER_START_DELAY < d) :
    InSteps (d - JITTER_BUFFER_DELAY_INCREASE_STEP) := by
  obtain ⟨k, rfl⟩ := h
  cases k with
  | zero =>
      rw [Nat.zero_mul, Nat.add_zero] at hlt
      exact absurd hlt (Nat.lt_irrefl _)
  | succ k =>
      refine ⟨k, ?_⟩
      rw [Nat.succ_mul, ← Nat.add_assoc, Nat.add_sub_cancel]

theorem InSteps.start_le {d : Duration} (h : InSteps d) :
    JITTER_BUFFER_START_DELAY ≤ d := by
  obtain ⟨k, rfl⟩ := h
  exact Nat.le_add_right _ _

theorem add_start_le {now since : Instant}
    (h : JITTER_BUFFER_START_DELAY ≤ elapsed now since) :
    since + JITTER_BUFFER_START_DELAY ≤ now := by
  have hpos : 0 < elapsed now since := Nat.lt_of_lt_of_le (by decide) h
  exact Nat.add_le_of_le_sub' (Nat.le_of_lt (Nat.lt_of_sub_pos hpos)) h

/-! ## What a message does to an entry -/

/-- All a message can do to the entry of an address, as far as times go. -/
inductive Effect (addr : SocketAddr) (st : JitterBufferStorage) (now : Instant)
    (m : JitterMessage) : Prop
  | none (entry : (step st (now, m)).lookup addr = st.lookup addr)
      (batch : batchAt addr st (now, m) = [])
      (arrival : arrivesAt addr (now, m) = [])
  | delay (d : Duration)
      (steps : InSteps (st.orDefault addr now).delay → InSteps d)
      (entry : (step st (now, m)).lookup addr =
        some { st.orDefault addr now with delay := d })
      (batch : batchAt addr st (now, m) = [])
      (arrival : arrivesAt addr (now, m) = [])
  | stored (data : DataPacket)
      (early : elapsed now (st.orDefault addr now).time <
        (st.orDefault addr now).delay)
      (entry : (step st (now, m)).lookup addr = some { st.orDefault addr now with
        buffer := (st.orDefault addr now).buffer ++ [data] })
      (batch : batchAt addr st (now, m) = [])
      (arrival : arrivesAt addr (now, m) = [(now, data)])
  | batch (data : DataPacket)
      (late : (st.orDefault addr now).delay ≤
        elapsed now (st.orDefault addr now).time)
      (entry : (step st (now, m)).lookup addr =
        some { st.orDefault addr now with buffer := [], time := now })
      (batch : batchAt addr st (now, m) = [now])
      (arrival : arrivesAt addr (now, m) = [(now, data)])

theorem effect_getOrStore (st : JitterBufferStorage) (now : Instant)
    (a : SocketAddr) (data : DataPacket) :
    Effect a st now (.getOrStore a data) := by
  have hself := lookup_step_self st now (.getOrStore a data)
  have hans := answers_self st now (.getOrStore a data)
  change (step st (now, .getOrStore a data)).lookup a = _ at hself
  change answers a st (now, .getOrStore a data) = _ at hans
  simp only [entryStep] at hself hans
  cases hm : isMedia data with
  | false =>
      rw [hm] at hself hans
      refine .none hself ?_ ?_
      · rw [batchAt, hans]
        rfl
      · exact if_neg fun h => by rw [hm] at h; cases h.2
  | true =>
      rw [hm] at hself hans
      have harrive : arrivesAt a (now, .getOrStore a data) = [(now, data)] :=
        if_pos ⟨rfl, hm⟩
      simp only [if_true] at hself hans
      change _ = some (push now data (st.orDefault a now)).1 at hself
      change _ = [JitterResponse.buffer (push now data (st.orDefault a now)).2]
        at hans
      by_cases hlate : (st.orDefault a now).delay ≤
          elapsed now (st.orDefault a now).time
      · rw [push, if_pos hlate] at hself hans
        refine .batch data hlate hself ?_ harrive
        rw [batchAt, hans]
        rfl
      · rw [push, if_neg hlate] at hself hans
        refine .stored data (Nat.lt_of_not_le hlate) hself ?_ harrive
        rw [batchAt, hans]
        rfl

theorem effect_of_message (addr : SocketAddr) (st : JitterBufferStorage)
    (now : Instant) (m : JitterMessage) : Effect addr st now m := by
  by_cases ha : m.addr = addr
  · subst ha
    have hself := lookup_step_self st now m
    cases m with
    | increase a =>
        exact .delay _ InSteps.increase hself rfl rfl
    | decrease a =>
        change (step st (now, .decrease a)).lookup a = Option.map _ (st.lookup a)
          at hself
        cases hat : st.lookup a with
        | none =>
            rw [hat] at hself
            exact .none (hself.trans hat.symm) rfl rfl
        | some jitter =>
            have hor : st.orDefault a now = jitter := by
              rw [orDefault, hat]
              rfl
            rw [hat, Option.map_some] at hself
            by_cases hle : jitter.delay ≤ JITTER_BUFFER_START_DELAY
            · rw [if_pos hle] at hself
              exact .none (hself.trans hat.symm) rfl rfl
            · rw [if_neg hle, ← hor] at hself
              have hlt : JITTER_BUFFER_START_DELAY <
                  (st.orDefault a now).delay := hor ▸ Nat.lt_of_not_le hle
              exact .delay _ (fun h => h.decrease hlt) hself rfl rfl
    | getOrStore a data => exact effect_getOrStore st now a data
  · refine .none (lookup_step_of_ne ha st now) ?_ ?_
    · rw [batchAt, answers_of_ne ha]
      rfl
    · cases m with
      | increase a => rfl
      | decrease a => rfl
      | getOrStore a data => exact if_neg fun h => ha h.1

/-! ## Batches -/

/-- The delays are in steps, and the batches of an address are apart: the next
one is not due before the delay has passed since the last. -/
structure Spaced (addr : SocketAddr) (past : List Timed)
    (st : JitterBufferStorage) : Prop where
  steps : ∀ {jitter}, st.lookup addr = some jitter → InSteps jitter.delay
  last : ∀ t ∈ batchTimes addr past,
    ∃ jitter, st.lookup addr = some jitter ∧ t ≤ jitter.time
  apart : (batchTimes addr past).Pairwise fun t t' =>
    t + JITTER_BUFFER_START_DELAY ≤ t'

theorem Spaced.steps_orDefault {addr : SocketAddr} {past : List Timed}
    {st : JitterBufferStorage} (h : Spaced addr past st) (now : Instant) :
    InSteps (st.orDefault addr now).delay := by
  rw [orDefault]
  cases hat : st.lookup addr with
  | none => exact ⟨0, rfl⟩
  | some jitter => exact h.steps hat

theorem Spaced.le_orDefault {addr : SocketAddr} {past : List Timed}
    {st : JitterBufferStorage} (h : Spaced addr past st) (now : Instant) :
    ∀ t ∈ batchTimes addr past, t ≤ (st.orDefault addr now).time := by
  intro t ht
  obtain ⟨jitter, hat, hle⟩ := h.last t ht
  rw [orDefault, hat]
  exact hle

theorem batchTimes_concat (addr : SocketAddr) (past : List Timed) (e : Timed) :
    batchTimes addr (past ++ [e]) =
      batchTimes addr past ++ batchAt addr (after past) e := by
  rw [batchTimes, Machine.trace_append]
  show _ ++ (batchAt addr (after past) e ++ []) = _
  rw [List.append_nil]
  rfl

/-- A message that hands nothing on and leaves the time of the entry alone. -/
theorem Spaced.of_quiet {addr : SocketAddr} {past : List Timed} {e : Timed}
    (h : Spaced addr past (after past)) {jitter : JitterBuffer}
    (hentry : (step (after past) e).lookup addr = some jitter)
    (hsteps : InSteps jitter.delay)
    (htime : jitter.time = ((after past).orDefault addr e.1).time)
    (hbatch : batchAt addr (after past) e = []) :
    Spaced addr (past ++ [e]) (step (after past) e) := by
  have htimes : batchTimes addr (past ++ [e]) = batchTimes addr past := by
    rw [batchTimes_concat, hbatch, List.append_nil]
  refine ⟨?_, ?_, ?_⟩
  · intro jitter' hat
    rw [hentry] at hat
    cases hat
    exact hsteps
  · intro t ht
    rw [htimes] at ht
    exact ⟨jitter, hentry, htime ▸ h.le_orDefault e.1 t ht⟩
  · rw [htimes]
    exact h.apart

theorem spaced_step {addr : SocketAddr} {past : List Timed}
    (h : Spaced addr past (after past)) (e : Timed) :
    Spaced addr (past ++ [e]) (step (after past) e) := by
  have hsteps := h.steps_orDefault e.1
  cases effect_of_message addr (after past) e.1 e.2 with
  | none hentry hbatch _ =>
      have htimes : batchTimes addr (past ++ [e]) = batchTimes addr past := by
        rw [batchTimes_concat]
        exact (congrArg (_ ++ ·) hbatch).trans (List.append_nil _)
      refine ⟨fun hat => h.steps (hentry ▸ hat), ?_, ?_⟩
      · intro t ht
        rw [htimes] at ht
        obtain ⟨jitter, hat, hle⟩ := h.last t ht
        exact ⟨jitter, hentry.trans hat, hle⟩
      · rw [htimes]
        exact h.apart
  | delay d hd hentry hbatch _ =>
      exact h.of_quiet hentry (hd hsteps) rfl hbatch
  | stored data _ hentry hbatch _ =>
      exact h.of_quiet hentry hsteps rfl hbatch
  | batch data hlate hentry hbatch _ =>
      have hnow : ∀ t ∈ batchTimes addr past,
          t + JITTER_BUFFER_START_DELAY ≤ e.1 := by
        intro t ht
        have hle := h.le_orDefault e.1 t ht
        have hdue := Nat.le_trans hsteps.start_le hlate
        exact Nat.le_trans (Nat.add_le_add_right hle _) (add_start_le hdue)
      have htimes : batchTimes addr (past ++ [e]) =
          batchTimes addr past ++ [e.1] := by
        rw [batchTimes_concat]
        exact congrArg (_ ++ ·) hbatch
      refine ⟨?_, ?_, ?_⟩
      · intro jitter hat
        rw [hentry] at hat
        cases hat
        exact hsteps
      · intro t ht
        refine ⟨_, hentry, ?_⟩
        rw [htimes] at ht
        rcases List.mem_append.mp ht with ht | ht
        · exact Nat.le_trans (Nat.le_add_right _ _) (hnow t ht)
        · exact Nat.le_of_eq (List.mem_singleton.mp ht)
      · rw [htimes]
        refine List.pairwise_append.mpr ⟨h.apart, List.pairwise_singleton _ _, ?_⟩
        intro t ht t' ht'
        rw [List.mem_singleton.mp ht']
        exact hnow t ht

theorem after_concat (es : List Timed) (e : Timed) :
    after (es ++ [e]) = step (after es) e :=
  Machine.run_append step ∅ es [e]

/-- Whatever messages come in at whatever times: two batches of an address are
the start delay apart at least, and its delay is the start delay and some
steps. -/
theorem batches_spaced (addr : SocketAddr) (es : List Timed) :
    (batchTimes addr es).Pairwise
      (fun t t' => t + JITTER_BUFFER_START_DELAY ≤ t') ∧
    InSteps ((after es).delayOf addr) := by
  have h : Spaced addr es (after es) := by
    induction es using List.reverseRecOn with
    | nil => exact ⟨nofun, nofun, List.Pairwise.nil⟩
    | append_singleton es e ih =>
        rw [after_concat]
        exact spaced_step ih e
  refine ⟨h.apart, ?_⟩
  rw [← delay_orDefault (after es) addr 0]
  exact h.steps_orDefault 0

/-! ## Waiting -/

/-- The packets that wait for an address came after its buffer was last handed
on. -/
structure Waits (addr : SocketAddr) (past : List Timed)
    (st : JitterBufferStorage) : Prop where
  since : ∀ {jitter}, st.lookup addr = some jitter →
    ∃ e ∈ past, e.1 = jitter.time
  waiting : ∃ waiting, waiting <:+ arrivals addr past ∧
    waiting.map Prod.snd = st.bufferOf addr ∧
    ∀ x ∈ waiting, ∀ jitter, st.lookup addr = some jitter → jitter.time ≤ x.1

/-- The clock does not run backwards. -/
def Ordered (es : List Timed) : Prop :=
  (es.map Prod.fst).Pairwise (· ≤ ·)

theorem ordered_concat {es : List Timed} {e : Timed} :
    Ordered (es ++ [e]) ↔ Ordered es ∧ ∀ x ∈ es, x.1 ≤ e.1 := by
  rw [Ordered, List.map_append, List.pairwise_append]
  simp only [List.map_cons, List.map_nil, List.pairwise_singleton, true_and,
    List.mem_singleton, forall_eq, List.forall_mem_map]
  rfl

theorem arrivals_concat (addr : SocketAddr) (es : List Timed) (e : Timed) :
    arrivals addr (es ++ [e]) = arrivals addr es ++ arrivesAt addr e := by
  rw [arrivals, List.flatMap_append, List.flatMap_singleton]
  rfl

section Step

variable {addr : SocketAddr} {past : List Timed} {st : JitterBufferStorage}
  {e : Timed}

theorem Waits.since_orDefault (h : Waits addr past st) (e : Timed) :
    ∃ x ∈ past ++ [e], x.1 = (st.orDefault addr e.1).time := by
  rw [orDefault]
  cases hat : st.lookup addr with
  | none => exact ⟨e, by simp, rfl⟩
  | some jitter =>
      obtain ⟨x, hx, htime⟩ := h.since hat
      exact ⟨x, List.mem_append_left _ hx, htime⟩

theorem Waits.time_le (h : Waits addr past st) (hnow : ∀ x ∈ past, x.1 ≤ e.1) :
    (st.orDefault addr e.1).time ≤ e.1 := by
  obtain ⟨x, hx, htime⟩ := h.since_orDefault e
  rw [← htime]
  rcases List.mem_append.mp hx with hx | hx
  · exact hnow x hx
  · exact Nat.le_of_eq (congrArg Prod.fst (List.mem_singleton.mp hx))

/-- What waits came after the time of the entry, also if there is none yet. -/
theorem Waits.waiting_orDefault (h : Waits addr past st) (now : Instant) :
    ∃ waiting, waiting <:+ arrivals addr past ∧
      waiting.map Prod.snd = (st.orDefault addr now).buffer ∧
      ∀ x ∈ waiting, (st.orDefault addr now).time ≤ x.1 := by
  obtain ⟨waiting, hsuffix, hbuffer, htime⟩ := h.waiting
  refine ⟨waiting, hsuffix, hbuffer.trans (buffer_orDefault st addr now).symm, ?_⟩
  intro x hx
  rw [orDefault]
  cases hat : st.lookup addr with
  | none =>
      rw [bufferOf, hat] at hbuffer
      rw [List.map_eq_nil_iff.mp hbuffer] at hx
      cases hx
  | some jitter => exact htime x hx jitter hat

/-- An entry with the time it had. -/
theorem Waits.of_entry (h : Waits addr past st) {jitter : JitterBuffer}
    (hentry : (step st e).lookup addr = some jitter)
    (htime : jitter.time = (st.orDefault addr e.1).time)
    (waiting : List (Instant × DataPacket))
    (hsuffix : waiting <:+ arrivals addr (past ++ [e]))
    (hbuffer : waiting.map Prod.snd = jitter.buffer)
    (hafter : ∀ x ∈ waiting, (st.orDefault addr e.1).time ≤ x.1) :
    Waits addr (past ++ [e]) (step st e) := by
  refine ⟨?_, waiting, hsuffix, ?_, ?_⟩
  · intro jitter' hat
    rw [hentry] at hat
    cases hat
    rw [htime]
    exact h.since_orDefault e
  · rw [hbuffer, bufferOf, hentry]
    rfl
  · intro x hx jitter' hat
    rw [hentry] at hat
    cases hat
    rw [htime]
    exact hafter x hx

theorem waits_step (h : Waits addr past st) (hnow : ∀ x ∈ past, x.1 ≤ e.1) :
    Waits addr (past ++ [e]) (step st e) := by
  obtain ⟨waiting, hsuffix, hbuffer, hafter⟩ := h.waiting_orDefault e.1
  cases effect_of_message addr st e.1 e.2 with
  | none hentry _ harrival =>
      obtain ⟨waiting, hsuffix, hbuffer, hafter⟩ := h.waiting
      have harrivals : arrivals addr (past ++ [e]) = arrivals addr past := by
        rw [arrivals_concat]
        exact (congrArg (_ ++ ·) harrival).trans (List.append_nil _)
      refine ⟨?_, waiting, harrivals ▸ hsuffix, ?_, ?_⟩
      · intro jitter hat
        obtain ⟨x, hx, htime⟩ := h.since (hentry ▸ hat)
        exact ⟨x, List.mem_append_left _ hx, htime⟩
      · rw [hbuffer, bufferOf, bufferOf]
        exact congrArg (fun entry => (Option.map _ entry).getD []) hentry.symm
      · exact fun x hx jitter hat => hafter x hx jitter (hentry ▸ hat)
  | delay d _ hentry _ harrival =>
      have harrivals : arrivals addr (past ++ [e]) = arrivals addr past := by
        rw [arrivals_concat]
        exact (congrArg (_ ++ ·) harrival).trans (List.append_nil _)
      exact h.of_entry hentry rfl waiting (harrivals ▸ hsuffix) hbuffer hafter
  | stored data _ hentry _ harrival =>
      have harrivals : arrivals addr (past ++ [e]) =
          arrivals addr past ++ [(e.1, data)] := by
        rw [arrivals_concat]
        exact congrArg (_ ++ ·) harrival
      refine h.of_entry hentry rfl (waiting ++ [(e.1, data)]) ?_ ?_ ?_
      · rw [harrivals]
        obtain ⟨front, hfront⟩ := hsuffix
        exact ⟨front, by rw [← List.append_assoc, hfront]⟩
      · rw [List.map_append, hbuffer]
        rfl
      · intro x hx
        rcases List.mem_append.mp hx with hx | hx
        · exact hafter x hx
        · rw [List.mem_singleton.mp hx]
          exact h.time_le hnow
  | batch data _ hentry _ _ =>
      refine ⟨?_, [], List.nil_suffix, ?_, fun x hx => by cases hx⟩
      · intro jitter hat
        rw [hentry] at hat
        cases hat
        exact ⟨e, by simp, rfl⟩
      · change (step st e).lookup addr = _ at hentry
        rw [bufferOf, hentry]
        rfl

end Step

theorem waits_after (addr : SocketAddr) {es : List Timed} (h : Ordered es) :
    Waits addr es (after es) := by
  induction es using List.reverseRecOn with
  | nil => exact ⟨nofun, [], List.suffix_rfl, rfl, nofun⟩
  | append_singleton es e ih =>
      obtain ⟨hes, hnow⟩ := ordered_concat.mp h
      rw [after_concat]
      exact waits_step (ih hes) hnow

/-- When a packet of media has been handled, what still waits for its address
came less than the delay before it. -/
theorem waits_less_than_delay (addr : SocketAddr) (es : List Timed)
    (now : Instant) (data : DataPacket) (hmedia : isMedia data = true)
    (hclock : Ordered (es ++ [(now, .getOrStore addr data)])) :
    ∃ waiting, waiting <:+ arrivals addr (es ++ [(now, .getOrStore addr data)]) ∧
      waiting.map Prod.snd =
        (after (es ++ [(now, .getOrStore addr data)])).bufferOf addr ∧
      ∀ x ∈ waiting, now < x.1 + (after es).delayOf addr := by
  have hwaits := waits_after addr hclock
  obtain ⟨waiting, hsuffix, hbuffer, hafter⟩ := hwaits.waiting
  refine ⟨waiting, hsuffix, hbuffer, ?_⟩
  intro x hx
  rw [after_concat] at hbuffer hafter
  have harrives : arrivesAt addr (now, .getOrStore addr data) =
      [(now, data)] := if_pos ⟨rfl, hmedia⟩
  cases effect_of_message addr (after es) now (.getOrStore addr data) with
  | none _ _ harrival => rw [harrives] at harrival; cases harrival
  | delay d _ _ _ harrival => rw [harrives] at harrival; cases harrival
  | stored data' hearly hentry _ _ =>
      have htime := hafter x hx _ hentry
      rw [elapsed, delay_orDefault] at hearly
      have hlt : now < ((after es).orDefault addr now).time +
          (after es).delayOf addr := by
        by_contra hnot
        exact absurd hearly (Nat.not_lt.mpr
          (Nat.le_sub_of_add_le' (Nat.le_of_not_lt hnot)))
      exact Nat.lt_of_lt_of_le hlt (Nat.add_le_add_right htime _)
  | batch data' _ hentry _ _ =>
      rw [bufferOf, hentry] at hbuffer
      rw [List.map_eq_nil_iff.mp hbuffer] at hx
      cases hx

/-- Two packets 20 ms apart: the first still waits. -/
theorem first_packet_waits :
    ∃ waiting, waiting <:+ arrivals (.host 1)
        ([(0, .getOrStore (.host 1) (videoPacket 7))] ++
          [(20000000, .getOrStore (.host 1) (videoPacket 8))]) ∧
      waiting.map Prod.snd = [videoPacket 7, videoPacket 8] ∧
      ∀ x ∈ waiting, 20000000 < x.1 + 50000000 :=
  waits_less_than_delay (.host 1) [(0, .getOrStore (.host 1) (videoPacket 7))]
    20000000 (videoPacket 8) (by decide +kernel) (by simp [Ordered])

end RStreamer.JitterBufferStorage
