import RStreamer.Lib.Trace
import RStreamer.Rtp.Jitter

/-!
# From `UdpRecv` to `RtcActor` (`server/udp.rs`)

For every media packet `UdpRecv` sends a request to `JitterControlActor` and
spawns a task that waits for the answer. If the answer is a buffer, the task
sends its packets to `RtcActor` one by one, waiting for each to be handled; if it
is a single packet, the task sends that; otherwise it is done. Requests wait in
the mailbox of `JitterControlActor` in the order in which they were made.

A step resumes one task: it sends its next packet and is suspended again. Nothing
orders the tasks among each other.
-/

namespace RStreamer

/-- The await a forwarding task is suspended at, with what it has left to
send. -/
inductive ForwardPhase where
  | waiting
  | batch (rest : List DataPacket)
  | packet (data : DataPacket)
  | done
  deriving DecidableEq, Repr

structure Forwarder where
  addr : SocketAddr
  phase : ForwardPhase
  deriving DecidableEq, Repr

/-- How a task goes on after its answer. -/
def JitterResponse.next : JitterResponse → ForwardPhase
  | .buffer (some packets) => .batch packets
  | .buffer none => .done
  | .packet data => .packet data

/-- A `GetOrStoreJitterBuffer` in the mailbox, and the task that waits for the
answer. -/
structure JitterRequest where
  addr : SocketAddr
  data : DataPacket
  task : Nat
  deriving DecidableEq, Repr

structure JitterStage where
  jitter : JitterBufferStorage
  mailbox : List JitterRequest
  tasks : List Forwarder

inductive StageEvent where
  /-- `UdpRecv` handles a media packet. -/
  | receive (addr : SocketAddr) (data : DataPacket)
  /-- `JitterControlActor` handles its next request. -/
  | jitter (now : Instant)
  | increase (addr : SocketAddr) (now : Instant)
  | decrease (addr : SocketAddr)
  /-- A task sends its next packet to `RtcActor`. -/
  | forward (i : Nat)
  /-- `RtcActor` does not take the packet, and the task gives up. -/
  | giveUp (i : Nat)
  deriving DecidableEq, Repr

namespace JitterStage

def init : JitterStage := ⟨∅, [], []⟩

/-- What task `i` sends when it is resumed, and its phase afterwards. -/
def next (s : JitterStage) (i : Nat) :
    Option (SocketAddr × DataPacket × ForwardPhase) :=
  s.tasks[i]?.bind fun t =>
    match t.phase with
    | .batch (p :: rest) => some (t.addr, p, .batch rest)
    | .packet data => some (t.addr, data, .done)
    | _ => none

def step (s : JitterStage) : StageEvent → JitterStage
  | .receive addr data =>
      { s with
        mailbox := s.mailbox ++ [⟨addr, data, s.tasks.length⟩]
        tasks := s.tasks ++ [⟨addr, .waiting⟩] }
  | .jitter now =>
      match s.mailbox with
      | [] => s
      | m :: rest =>
          let out := s.jitter.handleGetOrStore now m.addr m.data
          { jitter := out.1
            mailbox := rest
            tasks := s.tasks.set m.task ⟨m.addr, out.2.next⟩ }
  | .increase addr now => { s with jitter := s.jitter.handleIncrease now addr }
  | .decrease addr => { s with jitter := s.jitter.handleDecrease addr }
  | .forward i =>
      match s.next i with
      | none => s
      | some (addr, _, phase) => { s with tasks := s.tasks.set i ⟨addr, phase⟩ }
  | .giveUp i =>
      match s.tasks[i]? with
      | some ⟨addr, .batch _⟩ => { s with tasks := s.tasks.set i ⟨addr, .done⟩ }
      | _ => s

/-- What reaches `RtcActor` at an event. -/
def reaches (s : JitterStage) : StageEvent → List (SocketAddr × DataPacket)
  | .forward i =>
      match s.next i with
      | none => []
      | some (addr, p, _) => [(addr, p)]
  | _ => []

def after (es : List StageEvent) : JitterStage := Machine.run step init es

/-- The media packets of `addr` among some packets. -/
def mediaOf (addr : SocketAddr) (p : SocketAddr × DataPacket) :
    Option DataPacket :=
  if p.1 = addr ∧ JitterBufferStorage.isMedia p.2 then some p.2 else none

/-- The packet an event hands to `UdpRecv`. -/
def arrival : StageEvent → Option (SocketAddr × DataPacket)
  | .receive addr data => some (addr, data)
  | _ => none

/-- The media packets of `addr` that `UdpRecv` received, in order. -/
def received (addr : SocketAddr) (es : List StageEvent) : List DataPacket :=
  es.filterMap fun e => (arrival e).bind (mediaOf addr)

/-- The media packets of `addr` that reached `RtcActor`, in order. -/
def reached (addr : SocketAddr) (s : JitterStage) (es : List StageEvent) :
    List DataPacket :=
  (Machine.trace step reaches s es).filterMap (mediaOf addr)

end JitterStage

end RStreamer
