import RStreamer.Rtp.Core
import RStreamer.Lib.Table

/-!
# The jitter buffers (`rtp/jitter.rs`)

`JitterControlActor` keeps one buffer per address, with the delay after which
the buffer is handed on. The three messages it handles raise the delay, lower
it but never below the start value, and store a packet and hand the buffer on
when the delay has passed.
-/

namespace RStreamer

def JITTER_BUFFER_DELAY_INCREASE_STEP : Duration := Duration.fromMillis 10
def JITTER_BUFFER_START_DELAY : Duration := Duration.fromMillis 50
def JITTER_BUFFER_VOLATILE : UInt32 := 1000
def JITTER_RECHECK_TIME : Duration := Duration.fromSecs 10

/-- `JitterBuffer` -/
structure JitterBuffer where
  buffer : List DataPacket
  time : Instant
  delay : Duration
  deriving DecidableEq, Repr

/-- `JitterBuffer::default`, created at `now`. -/
def JitterBuffer.default (now : Instant) : JitterBuffer :=
  ⟨[], now, JITTER_BUFFER_START_DELAY⟩

inductive JitterMessage where
  | increase (addr : SocketAddr)
  | decrease (addr : SocketAddr)
  | getOrStore (addr : SocketAddr) (data : DataPacket)
  deriving DecidableEq, Repr

/-- `GetOrStoreJitterBufferResponse` -/
inductive JitterResponse where
  | buffer (packets : Option (List DataPacket))
  | packet (data : DataPacket)
  deriving DecidableEq, Repr

/-- `JitterBufferStorage` -/
abbrev JitterBufferStorage : Type := Table SocketAddr JitterBuffer

namespace JitterBufferStorage

/-- `entry(addr).or_default()` at `now`. -/
def orDefault (st : JitterBufferStorage) (addr : SocketAddr) (now : Instant) :
    JitterBuffer :=
  (st.lookup addr).getD (JitterBuffer.default now)

/-- `Handler<IncreaseJitterBufferDelay>` -/
def handleIncrease (st : JitterBufferStorage) (now : Instant)
    (addr : SocketAddr) : JitterBufferStorage :=
  let jitter := st.orDefault addr now
  st.insert addr
    { jitter with delay := jitter.delay + JITTER_BUFFER_DELAY_INCREASE_STEP }

/-- `Handler<DecreaseJitterBufferDelay>` -/
def handleDecrease (st : JitterBufferStorage) (addr : SocketAddr) :
    JitterBufferStorage :=
  match st.lookup addr with
  | none => st
  | some jitter =>
      if jitter.delay ≤ JITTER_BUFFER_START_DELAY then st
      else st.insert addr
        { jitter with delay := jitter.delay - JITTER_BUFFER_DELAY_INCREASE_STEP }

/-- `Handler<GetOrStoreJitterBuffer>` -/
def handleGetOrStore (st : JitterBufferStorage) (now : Instant)
    (addr : SocketAddr) (data : DataPacket) :
    JitterBufferStorage × JitterResponse :=
  if isRtcp data matches .ok true then
    (st, .packet data)
  else
    let jitter := st.orDefault addr now
    let buffer := jitter.buffer ++ [data]
    if jitter.delay ≤ elapsed now jitter.time then
      (st.insert addr { jitter with buffer := [], time := now },
        .buffer (some buffer))
    else
      (st.insert addr { jitter with buffer := buffer }, .buffer none)

def handle (st : JitterBufferStorage) (now : Instant) :
    JitterMessage → JitterBufferStorage
  | .increase addr => st.handleIncrease now addr
  | .decrease addr => st.handleDecrease addr
  | .getOrStore addr data => (st.handleGetOrStore now addr data).1

/-! ## What is in a buffer -/

/-- The packets waiting for an address. -/
def bufferOf (st : JitterBufferStorage) (addr : SocketAddr) :
    List DataPacket :=
  ((st.lookup addr).map fun jitter => jitter.buffer).getD []

theorem bufferOf_insert (st : JitterBufferStorage) (addr a : SocketAddr)
    (jitter : JitterBuffer) : bufferOf (st.insert addr jitter) a =
      if a = addr then jitter.buffer else st.bufferOf a := by
  rw [bufferOf, Table.lookup_insert']
  split <;> rfl

theorem buffer_orDefault (st : JitterBufferStorage) (addr : SocketAddr)
    (now : Instant) : (st.orDefault addr now).buffer = st.bufferOf addr := by
  rw [orDefault, bufferOf]
  cases st.lookup addr <;> rfl

theorem bufferOf_handleIncrease (st : JitterBufferStorage) (now : Instant)
    (addr a : SocketAddr) :
    (st.handleIncrease now addr).bufferOf a = st.bufferOf a := by
  rw [handleIncrease, bufferOf_insert]
  split
  · next h => rw [h]; exact buffer_orDefault st addr now
  · rfl

theorem bufferOf_handleDecrease (st : JitterBufferStorage)
    (addr a : SocketAddr) :
    (st.handleDecrease addr).bufferOf a = st.bufferOf a := by
  rw [handleDecrease]
  split
  · rfl
  · next jitter hat =>
      split
      · rfl
      · rw [bufferOf_insert]
        split
        · next h => rw [h, bufferOf, hat]; rfl
        · rfl

/-- A packet that goes through the buffers. -/
def isMedia (data : DataPacket) : Bool := !(isRtcp data matches .ok true)

/-- A packet of feedback passes at once; a packet of media is handed on with
everything in front of it, or stays behind it. -/
theorem handleGetOrStore_cases (st : JitterBufferStorage) (now : Instant)
    (addr : SocketAddr) (data : DataPacket) :
    (isMedia data = false ∧
      st.handleGetOrStore now addr data = (st, .packet data)) ∨
    (isMedia data = true ∧
      (st.handleGetOrStore now addr data).2 =
        .buffer (some (st.bufferOf addr ++ [data])) ∧
      ∀ a, (st.handleGetOrStore now addr data).1.bufferOf a =
        if a = addr then [] else st.bufferOf a) ∨
    (isMedia data = true ∧
      (st.handleGetOrStore now addr data).2 = .buffer none ∧
      ∀ a, (st.handleGetOrStore now addr data).1.bufferOf a =
        if a = addr then st.bufferOf addr ++ [data] else st.bufferOf a) := by
  rw [handleGetOrStore, isMedia]
  cases (isRtcp data matches .ok true) with
  | true => exact .inl ⟨rfl, rfl⟩
  | false =>
      simp only [Bool.false_eq_true, if_false, buffer_orDefault]
      split
      · refine .inr (.inl ⟨rfl, rfl, fun a => ?_⟩)
        exact bufferOf_insert st addr a _
      · refine .inr (.inr ⟨rfl, rfl, fun a => ?_⟩)
        exact bufferOf_insert st addr a _

end JitterBufferStorage

end RStreamer
