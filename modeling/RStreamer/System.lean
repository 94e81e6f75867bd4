import RStreamer.Client.RtcEffects
import RStreamer.Lib.Trace

/-!
# The server

The actors together: what `ClientActor` and `RtcActor` share, the jitter
buffers of `JitterControlActor`, and the mailbox in front of them. Every
handler is one atomic step. An event names the handler that runs and what the
outside world decides: which message arrives, what the clock says, in which
order a fan-out is scheduled. The order of events is arbitrary, so a run is any
interleaving of the actors.

`JitterControlActor` is the one actor other actors send to and do not wait for,
so its messages sit in a mailbox, in the order they were sent. `UdpRecv` sends
it the packets, `RtcActor` the changes of a delay.
-/

namespace RStreamer

structure System (S : Type) where
  registry : Registry S
  jitter : JitterBufferStorage
  mailbox : List JitterMessage

inductive Event (S : Type) where
  /-- `ClientActor` handles a message. -/
  | client (m : ClientActor.Message S)
  /-- `RtcActor` handles a media packet. -/
  | rtc (message : DataPacket) (addr : SocketAddr) (now : Instant)
      (sched : List Receiver)
  /-- `UdpRecv` hands a media packet to `JitterControlActor`. -/
  | datagram (addr : SocketAddr) (data : DataPacket)
  /-- `JitterControlActor` handles its next message. -/
  | jitter (now : Instant)

namespace System

variable {S : Type}

def init : System S := ⟨Registry.init, ∅, []⟩

def step (lib : SrtpLib S) (s : System S) : Event S → System S
  | .client m => { s with registry := ClientActor.handle s.registry m }
  | .rtc message addr now sched =>
      let out := RtcActor.handle lib s.registry now sched message addr
      { s with registry := out.registry, mailbox := s.mailbox ++ out.control }
  | .datagram addr data =>
      { s with mailbox := s.mailbox ++ [.getOrStore addr data] }
  | .jitter now =>
      match s.mailbox with
      | [] => s
      | m :: rest =>
          { s with jitter := s.jitter.handle now m, mailbox := rest }

def after (lib : SrtpLib S) (es : List (Event S)) : System S :=
  Machine.run (step lib) init es

/-! ## The registry along a run -/

theorem registry_step_jitter (lib : SrtpLib S) (s : System S)
    (now : Instant) : (step lib s (.jitter now)).registry = s.registry := by
  rw [step]
  cases s.mailbox <;> rfl

theorem wf_step (lib : SrtpLib S) (s : System S) (e : Event S)
    (h : s.registry.WF) : (step lib s e).registry.WF := by
  cases e with
  | client m => exact h.handle m
  | rtc message addr now sched =>
      exact h.of_sameRoutes
        (RtcActor.handle_sameRoutes lib s.registry now sched message addr)
  | datagram addr data => exact h
  | jitter now => rw [registry_step_jitter]; exact h

/-- Every reachable registry is well formed. -/
theorem wf_after (lib : SrtpLib S) (es : List (Event S)) :
    (after lib es).registry.WF :=
  Machine.run_invariant (I := fun s : System S => s.registry.WF)
    (wf_step lib) es Registry.wf_init

end System

end RStreamer
