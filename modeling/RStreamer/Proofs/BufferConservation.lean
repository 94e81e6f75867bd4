import RStreamer.Lib.Trace
import RStreamer.Rtp.Jitter

/-!
# What goes through the jitter buffers

A run of `JitterControlActor` is a list of messages, each with the time it is
handled at. Seen from one address, a step either moves packets along (a packet of
media joins the buffer, or takes the whole buffer with it) or leaves buffer and
answers alone. So along a run the packets handed on, followed by those still
waiting, are the packets that were stored, and the messages of other addresses
can be left out.

No step compares two times of a run with each other: what is proved here holds
whatever the clock does.
-/

namespace RStreamer

def JitterMessage.addr : JitterMessage → SocketAddr
  | .increase addr => addr
  | .decrease addr => addr
  | .getOrStore addr _ => addr

/-- The packets an answer hands on from the buffer. -/
def JitterResponse.flushed : JitterResponse → List DataPacket
  | .buffer (some packets) => packets
  | .buffer none => []
  | .packet _ => []

namespace JitterBufferStorage

/-- A message and the time it is handled at. -/
abbrev Timed : Type := Instant × JitterMessage

def step (st : JitterBufferStorage) (e : Timed) : JitterBufferStorage :=
  st.handle e.1 e.2

/-- What an event answers to `addr`. -/
def answers (addr : SocketAddr) (st : JitterBufferStorage) :
    Timed → List JitterResponse
  | (now, .getOrStore a data) =>
      if a = addr then [(st.handleGetOrStore now a data).2] else []
  | _ => []

def after (es : List Timed) : JitterBufferStorage := Machine.run step ∅ es

/-- Everything a run answers to `addr`, in order. -/
def answered (addr : SocketAddr) (es : List Timed) : List JitterResponse :=
  Machine.trace step (answers addr) ∅ es

/-- The media packet of `addr` an event stores. -/
def storedBy (addr : SocketAddr) : Timed → List DataPacket
  | (_, .getOrStore a data) => if a = addr ∧ isMedia data then [data] else []
  | _ => []

/-- The media packets a run stores for `addr`, in order. -/
def stored (addr : SocketAddr) (es : List Timed) : List DataPacket :=
  es.flatMap (storedBy addr)

/-! ## One step moves the queue along -/

theorem flushed_step (addr : SocketAddr) (st : JitterBufferStorage)
    (e : Timed) :
    (answers addr st e).flatMap JitterResponse.flushed ++
        (step st e).bufferOf addr =
      st.bufferOf addr ++ storedBy addr e := by
  obtain ⟨now, m⟩ := e
  cases m with
  | increase a =>
      show (st.handleIncrease now a).bufferOf addr = st.bufferOf addr ++ []
      rw [bufferOf_handleIncrease, List.append_nil]
  | decrease a =>
      show (st.handleDecrease a).bufferOf addr = st.bufferOf addr ++ []
      rw [bufferOf_handleDecrease, List.append_nil]
  | getOrStore a data =>
      simp only [step, handle, answers, storedBy]
      rcases handleGetOrStore_cases st now a data with
        ⟨hm, h⟩ | ⟨hm, hr, hb⟩ | ⟨hm, hr, hb⟩
      · rw [h, hm]
        split <;> simp [JitterResponse.flushed]
      · rw [hr, hb, hm]
        by_cases ha : a = addr
        · subst ha; simp [JitterResponse.flushed]
        · simp [ha, Ne.symm ha]
      · rw [hr, hb, hm]
        by_cases ha : a = addr
        · subst ha; simp [JitterResponse.flushed]
        · simp [ha, Ne.symm ha]

/-! ## An address sees only its own messages

A message acts on the entry of its address and on nothing else. So the actor is
one machine per address, and the machine of an address is driven by the messages
of that address alone. -/

/-- What a packet of media does to a buffer: the buffer afterwards, and what is
handed on. -/
def push (now : Instant) (data : DataPacket) (jitter : JitterBuffer) :
    JitterBuffer × Option (List DataPacket) :=
  if jitter.delay ≤ elapsed now jitter.time then
    ({ jitter with buffer := [], time := now }, some (jitter.buffer ++ [data]))
  else
    ({ jitter with buffer := jitter.buffer ++ [data] }, none)

theorem handleGetOrStore_of_media {data : DataPacket}
    (h : isMedia data = true) (st : JitterBufferStorage) (now : Instant)
    (addr : SocketAddr) : st.handleGetOrStore now addr data =
      (st.insert addr (push now data (st.orDefault addr now)).1,
        .buffer (push now data (st.orDefault addr now)).2) := by
  rw [handleGetOrStore, if_neg (by rwa [isMedia, Bool.not_eq_true',
    ← Bool.not_eq_true] at h)]
  simp only [push]
  split <;> rfl

/-- Feedback is answered at once and changes nothing. -/
theorem handleGetOrStore_of_not_media {data : DataPacket}
    (h : isMedia data = false) (st : JitterBufferStorage) (now : Instant)
    (addr : SocketAddr) :
    st.handleGetOrStore now addr data = (st, .packet data) := by
  rw [handleGetOrStore, if_pos (by rwa [isMedia, Bool.not_eq_false'] at h)]

/-- What a message makes of the entry of its address, and what it answers. -/
def entryStep (now : Instant) (m : JitterMessage)
    (entry : Option JitterBuffer) : Option JitterBuffer × List JitterResponse :=
  let jitter := entry.getD (JitterBuffer.default now)
  match m with
  | .increase _ =>
      (some { jitter with
        delay := jitter.delay + JITTER_BUFFER_DELAY_INCREASE_STEP }, [])
  | .decrease _ =>
      (entry.map fun jitter =>
        if jitter.delay ≤ JITTER_BUFFER_START_DELAY then jitter
        else { jitter with
          delay := jitter.delay - JITTER_BUFFER_DELAY_INCREASE_STEP }, [])
  | .getOrStore _ data =>
      if isMedia data then
        (some (push now data jitter).1, [.buffer (push now data jitter).2])
      else (entry, [.packet data])

theorem lookup_step_self (st : JitterBufferStorage) (now : Instant)
    (m : JitterMessage) : (step st (now, m)).lookup m.addr =
      (entryStep now m (st.lookup m.addr)).1 := by
  cases m with
  | increase a => exact AList.lookup_insert st
  | decrease a =>
      show AList.lookup a (st.handleDecrease a) =
        Option.map _ (st.lookup a)
      rw [handleDecrease]
      cases hat : st.lookup a with
      | none => exact hat
      | some jitter =>
          dsimp only [Option.map_some]
          split
          · exact hat
          · exact AList.lookup_insert st
  | getOrStore a data =>
      show AList.lookup a (st.handleGetOrStore now a data).1 = _
      rw [entryStep]
      cases hm : isMedia data with
      | true =>
          rw [handleGetOrStore_of_media hm]
          exact AList.lookup_insert st
      | false =>
          rw [handleGetOrStore_of_not_media hm]
          rfl

theorem lookup_step_of_ne {addr : SocketAddr} {m : JitterMessage}
    (h : m.addr ≠ addr) (st : JitterBufferStorage) (now : Instant) :
    (step st (now, m)).lookup addr = st.lookup addr := by
  have hins : ∀ jitter, AList.lookup addr (st.insert m.addr jitter) =
      st.lookup addr := fun _ => AList.lookup_insert_ne (Ne.symm h)
  cases m with
  | increase a => exact hins _
  | decrease a =>
      show AList.lookup addr (st.handleDecrease a) = _
      rw [handleDecrease]
      cases st.lookup a with
      | none => rfl
      | some jitter =>
          dsimp only
          split
          · rfl
          · exact hins _
  | getOrStore a data =>
      show AList.lookup addr (st.handleGetOrStore now a data).1 = _
      cases hm : isMedia data with
      | true =>
          rw [handleGetOrStore_of_media hm]
          exact hins _
      | false => rw [handleGetOrStore_of_not_media hm]

theorem answers_self (st : JitterBufferStorage) (now : Instant)
    (m : JitterMessage) : answers m.addr st (now, m) =
      (entryStep now m (st.lookup m.addr)).2 := by
  cases m with
  | increase a => rfl
  | decrease a => rfl
  | getOrStore a data =>
      show (if a = a then [(st.handleGetOrStore now a data).2] else []) = _
      rw [if_pos rfl, entryStep]
      cases hm : isMedia data with
      | true => rw [handleGetOrStore_of_media hm]; rfl
      | false => rw [handleGetOrStore_of_not_media hm]; rfl

theorem answers_of_ne {addr : SocketAddr} {m : JitterMessage}
    (h : m.addr ≠ addr) (st : JitterBufferStorage) (now : Instant) :
    answers addr st (now, m) = [] := by
  cases m with
  | increase a => rfl
  | decrease a => rfl
  | getOrStore a data => exact if_neg h

/-- Two states with the same entry for an address go on with the same entry,
and answer the same. -/
theorem step_congr {st st' : JitterBufferStorage} {addr : SocketAddr}
    (h : st.lookup addr = st'.lookup addr) (e : Timed) :
    (step st e).lookup addr = (step st' e).lookup addr ∧
      answers addr st e = answers addr st' e := by
  obtain ⟨now, m⟩ := e
  by_cases ha : m.addr = addr
  · subst ha
    rw [lookup_step_self, lookup_step_self, answers_self, answers_self, h]
    exact ⟨rfl, rfl⟩
  · rw [lookup_step_of_ne ha, lookup_step_of_ne ha, answers_of_ne ha,
      answers_of_ne ha]
    exact ⟨h, rfl⟩

/-- The messages of `addr` in a run. -/
def ofAddr (addr : SocketAddr) (es : List Timed) : List Timed :=
  es.filter fun e => e.2.addr = addr

theorem purge_ofAddr (addr : SocketAddr) (es : List Timed) :
    Machine.Purge step (fun _ e => e.2.addr ≠ addr) ∅ es (ofAddr addr es) := by
  have h := Machine.Purge.filter step (fun e => decide (e.2.addr = addr)) es ∅
  simp only [decide_eq_false_iff_not] at h
  exact h

/-! ## Runs -/

/-- Along every run, at any times: what was handed on for an address and what
still waits for it is what was stored for it; feedback passes at once and leaves
everything as it is; and the entry of an address and the answers to it are those
of the run with the messages of all other addresses left out. -/
theorem jitter_buffer_conservation (es : List Timed) (addr : SocketAddr) :
    ((answered addr es).flatMap JitterResponse.flushed ++
        (after es).bufferOf addr = stored addr es) ∧
    (∀ before now a data later,
      es = before ++ (now, .getOrStore a data) :: later →
      isRtcp data = .ok true →
      (after before).handleGetOrStore now a data =
        (after before, .packet data)) ∧
    answered addr es = answered addr (ofAddr addr es) ∧
    (after es).lookup addr = (after (ofAddr addr es)).lookup addr := by
  refine ⟨?_, ?_, ?_, ?_⟩
  · exact Machine.trace_flatMap_append (π := fun st => bufferOf st addr)
      (flushed_step addr) es ∅
  · intro before now a data later _ hr
    have hm : isMedia data = false := by rw [isMedia, hr]; rfl
    exact handleGetOrStore_of_not_media hm (after before) now a
  · refine Machine.trace_purge (π := AList.lookup addr) (I := fun _ => True)
      (fun _ _ _ => trivial) (fun _ _ e h => (step_congr h e).1)
      (fun _ _ e h => (step_congr h e).2) ?_ (purge_ofAddr addr es) trivial rfl
    intro st e _ he
    exact ⟨lookup_step_of_ne he st e.1, answers_of_ne he st e.1⟩
  · refine Machine.run_purge (π := AList.lookup addr) (I := fun _ => True)
      (fun _ _ _ => trivial) (fun _ _ e h => (step_congr h e).1) ?_
      (purge_ofAddr addr es) trivial rfl
    intro st e _ he
    exact lookup_step_of_ne he st e.1

end JitterBufferStorage

end RStreamer
