import RStreamer.Client.Threads
import RStreamer.Proofs.Outage
import RStreamer.System

/-!
# The server and its parts

`System`, `Tasks`, `JitterStage` and `UdpRecv` are machines of their own, each with
the events that matter to it, and most of what is known about this program is known
about their runs. Here the server plays all of them at once: every event of the
server is a list of events of each part, at most one, and a run of the server is
for each part the run of these. The part is then in the state the server has for it
and has put out what the server did.

Two parts keep less than the server does. `System` has its own mailbox for jitter
messages, so it agrees in the registry; `Tasks` knows nothing of `RtcActor`, so its
registry agrees up to counters and SRTP sessions.
-/

namespace RStreamer

/-! ## Routing under the same messages -/

namespace Registry

variable {S : Type} {r r' : Registry S}

theorem SameRouting.groupId (h : SameRouting r r') (g : Nat)
    (addr : SocketAddr) (isSender : Bool) :
    SameRouting (r.groupId g addr isSender) (r'.groupId g addr isSender) := by
  have hset := h.setGroup g addr isSender
  have hlast : r.lastSender g addr = r'.lastSender g addr := by
    rw [Registry.lastSender, Registry.lastSender, h.groups]
  rw [Registry.groupId, Registry.groupId, hlast, h.clientAt, h.clientAt]
  split
  · exact hset
  · split
    · split
      · exact hset.takeover _ _
      · exact hset.join _ _ _ _
    · exact hset

theorem SameRouting.connected (h : SameRouting r r') (c : ClientRef)
    (t : SrtpTransport S) :
    SameRouting (r.connected c t) (r'.connected c t) :=
  h.modifyClient c fun _ _ hcl => hcl

theorem SameRouting.mediaAddr (h : SameRouting r r') (addr : SocketAddr)
    (media : MediaList) (now : Instant) (draw : UInt32 → RuntimeDraw) :
    SameRouting (r.mediaAddr addr media now draw)
      (r'.mediaAddr addr media now draw) := by
  rw [Registry.mediaAddr, Registry.mediaAddr, h.clientAt]
  split
  · exact h
  · next c _ =>
      refine SameRouting.modifyClient ?_ c ?_
      · exact h.modifyClient c fun _ _ hcl => hcl
      · intro cl cl' hcl
        simp only [Client.routing, Prod.mk.injEq] at hcl ⊢
        exact ⟨trivial, hcl.2⟩

theorem SameRouting.delete (h : SameRouting r r') (addr : SocketAddr) :
    SameRouting (r.delete addr) (r'.delete addr) := by
  rw [Registry.delete, Registry.delete, h.clientAt]
  split
  · exact h.eraseClient addr
  · next c _ =>
      refine SameRouting.pruneReceivers ?_ c
      refine ((h.eraseClient addr).removeSender addr).modifyClient c ?_
      intro cl cl' hcl
      simp only [Client.routing, Prod.mk.injEq] at hcl ⊢
      exact ⟨hcl.1, hcl.2.1, hcl.2.2.1, trivial⟩

/-- Every message of `ClientActor` does the same to the routing of both. -/
theorem SameRouting.handle (h : SameRouting r r')
    (m : ClientActor.Message S) :
    SameRouting (ClientActor.handle r m) (ClientActor.handle r' m) := by
  cases m with
  | dtls addr now => simpa using h.register addr now
  | connected c t => simpa using h.connected c t
  | groupId g addr isSender => simpa using h.groupId g addr isSender
  | mediaAddr addr media now draw => simpa using h.mediaAddr addr media now draw
  | delete addr => simpa using h.delete addr

end Registry

/-- `RtcActor` changes counters, statistics and sessions only. -/
theorem RtcActor.handle_sameRouting {S : Type} (lib : SrtpLib S)
    (r : Registry S) (now : Instant) (sched : List Receiver)
    (message : DataPacket) (addr : SocketAddr) :
    r.SameRouting (handle lib r now sched message addr).registry where
  clientStorage := (clientStorage_handle lib r now sched message addr).symm
  groups := (Server.groups_handleRtc lib r now sched message addr).symm
  next := (handle_sameRoutes lib r now sched message addr).next.symm
  heap c := by
    have hroutes := handle_sameRoutes lib r now sched message addr
    rw [Client.routing, Client.routing, media_handle, hroutes.receivers,
      hroutes.senderAddr, hroutes.isDeleted]

/-- The same tasks in the same phases, over registries that differ in counters
and sessions only. -/
structure Tasks.Agree {S : Type} (s t : Tasks S) : Prop where
  routing : t.registry.SameRouting s.registry
  state : s.state = t.state
  tasks : s.tasks = t.tasks
  mailbox : s.mailbox = t.mailbox

namespace Tasks.Agree

variable {S : Type} {s t : Tasks S}

theorem eq (h : s.Agree t) : s = { t with registry := s.registry } := by
  cases s
  cases t
  cases h.state
  cases h.tasks
  cases h.mailbox
  rfl

/-- How tasks go on is not up to the registry. -/
theorem polled (h : s.Agree t) (i : Nat) (x : Ready S) :
    s.polled i x = t.polled i x := by
  rw [h.eq]
  rfl

theorem step (h : s.Agree t) (e : TaskEvent S) : (s.step e).Agree (t.step e) := by
  cases e with
  | datagram addr now =>
      refine ⟨h.routing.handle _, h.state, ?_, h.mailbox⟩
      have hclient : s.registry.clientFor addr = t.registry.clientFor addr := by
        rw [Registry.clientFor, Registry.clientFor, h.routing.clientAt,
          h.routing.next]
      show s.tasks ++ _ = t.tasks ++ _
      rw [h.tasks, hclient]
  | poll i x =>
      rw [Tasks.step, Tasks.step, h.polled]
      cases t.polled i x with
      | none => exact h
      | some out =>
          obtain ⟨task, res⟩ := out
          refine ⟨?_, ?_, ?_, ?_⟩
          · cases hres : res.srtp with
            | none =>
                simp only [Tasks.resumed, hres]
                exact h.routing
            | some tr =>
                simp only [Tasks.resumed, hres]
                exact h.routing.handle _
          · show Function.update s.state _ _ = Function.update t.state _ _
            rw [h.state]
          · show s.tasks.set _ _ = t.tasks.set _ _
            rw [h.tasks]
          · show (if res.sends then s.mailbox ++ _ else s.mailbox) =
              if res.sends then t.mailbox ++ _ else t.mailbox
            rw [h.mailbox]
  | delete =>
      rw [Tasks.step, Tasks.step, h.mailbox]
      cases t.mailbox with
      | nil => exact h
      | cons m rest => exact ⟨h.routing.handle _, h.state, h.tasks, rfl⟩
  | groupId g addr isSender =>
      exact ⟨h.routing.handle _, h.state, h.tasks, h.mailbox⟩
  | mediaAddr addr media now draw =>
      exact ⟨h.routing.handle _, h.state, h.tasks, h.mailbox⟩

end Tasks.Agree

/-- What `ClientActor` handles at an event of its tasks. -/
def Tasks.messages {S : Type} (s : Tasks S) :
    TaskEvent S → List (ClientActor.Message S)
  | .datagram addr now => [.dtls addr now]
  | .poll i x =>
      match s.polled i x with
      | none => []
      | some (t, res) => (res.srtp.map (.connected t.client)).toList
  | .delete => (s.mailbox.head?.map fun m => .delete m.addr).toList
  | .groupId g addr isSender => [.groupId g addr isSender]
  | .mediaAddr addr media now draw => [.mediaAddr addr media now draw]

theorem Tasks.registry_step {S : Type} (s : Tasks S) (e : TaskEvent S) :
    (s.step e).registry =
      Machine.run ClientActor.handle s.registry (s.messages e) := by
  cases e with
  | poll i x =>
      rw [step, messages]
      cases s.polled i x with
      | none => rfl
      | some out =>
          obtain ⟨t, res⟩ := out
          cases hres : res.srtp with
          | none =>
              simp only [resumed, hres]
              rfl
          | some tr =>
              simp only [resumed, hres]
              rfl
  | delete =>
      rw [step, messages]
      cases s.mailbox <;> rfl
  | datagram addr now => rfl
  | groupId g addr isSender => rfl
  | mediaAddr addr media now draw => rfl

/-- The media `RtcActor` sends at an event. -/
def System.emits {S : Type} (lib : SrtpLib S) (s : System S) :
    Event S → List (SocketAddr × DataPacket)
  | .rtc message addr now sched =>
      (RtcActor.handle lib s.registry now sched message addr).sent.map fun e =>
        (e.addr, e.packet)
  | _ => []

/-- The media among the messages to `UdpSend`. -/
def WebRtcRequest.media : WebRtcRequest → Option (SocketAddr × DataPacket)
  | .rtc message addr => some (addr, message)
  | _ => none

namespace Server

variable {S M : Type}

/-! ## The events of the parts -/

def taskEvent (s : Server S) : ServerEvent S → Option (TaskEvent S)
  | .client i now draw =>
      match s.toClients[i]? with
      | some (.dtls _ addr) => some (.datagram addr now)
      | some (.groupId g addr isSender) =>
          match ClientActor.handle? s.clients.registry
              (.groupId g addr isSender) with
          | none => none
          | some _ => some (.groupId g addr isSender)
      | some (.mediaAddr addr media) => some (.mediaAddr addr media now draw)
      | _ => none
  | .poll i x => some (.poll i x)
  | .delete => some .delete
  | _ => none

def taskEvents (s : Server S) (e : ServerEvent S) : List (TaskEvent S) :=
  (s.taskEvent e).toList

/-- The packet `RtcActor` handles at an event. -/
def packetEvent (s : Server S) : ServerEvent S → Option (Event S)
  | .rtc i now sched => s.toRtc[i]?.map fun m => .rtc m.2 m.1 now sched
  | _ => none

def systemEvents (s : Server S) (e : ServerEvent S) : List (Event S) :=
  ((s.taskEvents e).flatMap s.clients.messages).map .client ++
    (s.packetEvent e).toList

def stageEvents (s : Server S) : ServerEvent S → List StageEvent
  | .datagram buf addr =>
      match WebRtcRequest.fromDatagram buf addr with
      | .ok (.rtc message addr) => [.receive addr message]
      | _ => []
  | .jitter now => [.jitter now]
  | .delay i now =>
      match s.toJitter[i]? with
      | some (.increase addr) => [.increase addr now]
      | some (.decrease addr) => [.decrease addr]
      | _ => []
  | .forward i => [.forward i]
  | .giveUp i => [.giveUp i]
  | _ => []

/-- Only a tick looks at the clock. -/
def sessionEvents (s : Server S) : ServerEvent S → List SessionEvent
  | .recv i =>
      match s.toRecv[i]? with
      | some (.session session item) => [.session session item 0]
      | some (.mediaUser userName media) => [.mediaUser userName media 0]
      | none => []
  | .datagram buf addr =>
      match WebRtcRequest.fromDatagram buf addr with
      | .ok (.stun req addr) => [.stun req addr 0]
      | _ => []
  | .clearData now => [.clearData now]
  | _ => []

/-! ## Each part plays its events -/

section Parts

variable (host : Host S M) (s : Server S)

theorem clients_client (i : Nat) (now : Instant) (draw : UInt32 → RuntimeDraw) :
    (s.act host (.client i now draw)).clients =
      Machine.run Tasks.step s.clients (s.taskEvents (.client i now draw)) := by
  rw [act, deliver, taskEvents, taskEvent]
  cases s.toClients[i]? with
  | none => rfl
  | some m =>
      cases m with
      | groupId g addr isSender =>
          simp only [handleClient]
          cases ClientActor.handle? s.clients.registry
            (.groupId g addr isSender) <;> rfl
      | dtls message addr => rfl
      | mediaAddr addr media => rfl
      | outgoing message addr => rfl

/-- The tasks, but for packets. -/
theorem clients_act (e : ServerEvent S) (h : ∀ i now sched, e ≠ .rtc i now sched) :
    (s.act host e).clients =
      Machine.run Tasks.step s.clients (s.taskEvents e) := by
  cases e with
  | rtc i now sched => exact absurd rfl (h i now sched)
  | client i now draw => exact clients_client host s i now draw
  | datagram buf addr =>
      rw [act]
      cases WebRtcRequest.fromDatagram buf addr with
      | error e => rfl
      | ok req => cases req <;> rfl
  | recv i =>
      obtain ⟨_, _, heq⟩ := act_recv host s i
      rw [heq]
      rfl
  | delay i now =>
      obtain ⟨_, _, heq⟩ := act_delay host s i now
      rw [heq]
      rfl
  | sslRead c =>
      obtain ⟨_, heq⟩ := act_sslRead host s c
      rw [heq]
      rfl
  | sslWrite c message =>
      obtain ⟨_, heq⟩ := act_sslWrite host s c message
      rw [heq]
      rfl
  | outgoing c =>
      obtain ⟨_, _, heq⟩ := act_outgoing host s c
      rw [heq]
      rfl
  | send i buf =>
      obtain ⟨_, _, heq⟩ := act_send host s i buf
      rw [heq]
      rfl
  | offer sdp groupId world => rfl
  | clearData now => rfl
  | poll i x => rfl
  | delete => rfl
  | jitter now => rfl
  | forward i => rfl
  | giveUp i => rfl

theorem stage_act (e : ServerEvent S) : (s.act host e).stage =
    Machine.run JitterStage.step s.stage (s.stageEvents e) := by
  cases e with
  | datagram buf addr =>
      rw [act, stageEvents]
      cases WebRtcRequest.fromDatagram buf addr with
      | error e => rfl
      | ok req => cases req <;> rfl
  | delay i now =>
      rw [act, deliver, stageEvents]
      cases s.toJitter[i]? with
      | none => rfl
      | some m => cases m <;> rfl
  | client i now draw =>
      obtain ⟨_, _, _, _, _, _, heq⟩ := act_client host s i now draw
      rw [heq]
      rfl
  | recv i =>
      obtain ⟨_, _, heq⟩ := act_recv host s i
      rw [heq]
      rfl
  | rtc i now sched =>
      rw [act, deliver]
      cases s.toRtc[i]? <;> rfl
  | sslRead c =>
      obtain ⟨_, heq⟩ := act_sslRead host s c
      rw [heq]
      rfl
  | sslWrite c message =>
      obtain ⟨_, heq⟩ := act_sslWrite host s c message
      rw [heq]
      rfl
  | outgoing c =>
      obtain ⟨_, _, heq⟩ := act_outgoing host s c
      rw [heq]
      rfl
  | send i buf =>
      obtain ⟨_, _, heq⟩ := act_send host s i buf
      rw [heq]
      rfl
  | offer sdp groupId world => rfl
  | clearData now => rfl
  | poll i x => rfl
  | delete => rfl
  | jitter now => rfl
  | forward i => rfl
  | giveUp i => rfl

theorem recv_act (e : ServerEvent S) : (s.act host e).recv =
    Machine.run UdpRecv.step s.recv (s.sessionEvents e) := by
  cases e with
  | datagram buf addr =>
      rw [act, sessionEvents]
      cases WebRtcRequest.fromDatagram buf addr with
      | error e => rfl
      | ok req => cases req <;> rfl
  | recv i =>
      rw [act, deliver, sessionEvents]
      cases s.toRecv[i]? with
      | none => rfl
      | some m => cases m <;> rfl
  | client i now draw =>
      obtain ⟨_, _, _, _, _, _, heq⟩ := act_client host s i now draw
      rw [heq]
      rfl
  | delay i now =>
      obtain ⟨_, _, heq⟩ := act_delay host s i now
      rw [heq]
      rfl
  | rtc i now sched =>
      rw [act, deliver]
      cases s.toRtc[i]? <;> rfl
  | sslRead c =>
      obtain ⟨_, heq⟩ := act_sslRead host s c
      rw [heq]
      rfl
  | sslWrite c message =>
      obtain ⟨_, heq⟩ := act_sslWrite host s c message
      rw [heq]
      rfl
  | outgoing c =>
      obtain ⟨_, _, heq⟩ := act_outgoing host s c
      rw [heq]
      rfl
  | send i buf =>
      obtain ⟨_, _, heq⟩ := act_send host s i buf
      rw [heq]
      rfl
  | offer sdp groupId world => rfl
  | clearData now => rfl
  | poll i x => rfl
  | delete => rfl
  | jitter now => rfl
  | forward i => rfl
  | giveUp i => rfl

/-- A packet changes the registry of the tasks and nothing else of them. -/
theorem clients_rtc (i : Nat) (now : Instant) (sched : List Receiver) :
    (s.act host (.rtc i now sched)).clients =
      match s.toRtc[i]? with
      | none => s.clients
      | some m => { s.clients with registry := (RtcActor.handle host.srtp
          s.clients.registry now sched m.2 m.1).registry } := by
  rw [act, deliver]
  cases s.toRtc[i]? <;> rfl

end Parts

/-! ## Simulation -/

/-- One step, whatever is known of an event that happens. -/
theorem simulates_step {τ φ : Type} {host : Host S M} {step' : τ → φ → τ}
    {events : Server S → ServerEvent S → List φ} {R : Server S → τ → Prop}
    (h : ∀ s t e, R s t → R (s.act host e) (Machine.run step' t (events s e)))
    (s : Server S) (t : τ) (e : ServerEvent S) (hR : R s t) :
    R (s.step host e) (Machine.run step' t (whenAllowed events s e)) := by
  rw [step, whenAllowed]
  split
  · exact h s t e hR
  · exact hR

theorem agree_act (host : Host S M) (s : Server S) (t : Tasks S)
    (e : ServerEvent S) (h : s.clients.Agree t) :
    (s.act host e).clients.Agree (Machine.run Tasks.step t (s.taskEvents e)) := by
  have hrun : ∀ (es : List (TaskEvent S)) {c t : Tasks S}, c.Agree t →
      (Machine.run Tasks.step c es).Agree (Machine.run Tasks.step t es) := by
    intro es
    induction es with
    | nil => intro c t h; exact h
    | cons e es ih => intro c t h; exact ih (h.step e)
  cases e with
  | rtc i now sched =>
      rw [clients_rtc]
      cases s.toRtc[i]? with
      | none => exact h
      | some m => exact { h with
          routing := h.routing.trans (RtcActor.handle_sameRouting ..) }
  | _ =>
      rw [clients_act host s _ (by simp)]
      exact hrun _ h

theorem registry_clientEvents (lib : SrtpLib S) (t : System S)
    (ms : List (ClientActor.Message S)) :
    (Machine.run (System.step lib) t (ms.map .client)).registry =
      Machine.run ClientActor.handle t.registry ms := by
  induction ms generalizing t with
  | nil => rfl
  | cons m ms ih => exact ih _

theorem registry_act (host : Host S M) (s : Server S) (t : System S)
    (e : ServerEvent S) (h : s.clients.registry = t.registry) :
    (s.act host e).clients.registry =
      (Machine.run (System.step host.srtp) t (s.systemEvents e)).registry := by
  have htasks : (Machine.run Tasks.step s.clients (s.taskEvents e)).registry =
      (Machine.run (System.step host.srtp) t
        (((s.taskEvents e).flatMap s.clients.messages).map .client)).registry := by
    rw [registry_clientEvents, ← h, taskEvents]
    cases s.taskEvent e with
    | none => rfl
    | some te =>
        simp only [Option.toList_some, List.flatMap_singleton]
        exact s.clients.registry_step te
  cases e with
  | rtc i now sched =>
      rw [clients_rtc, systemEvents, packetEvent]
      cases s.toRtc[i]? with
      | none => exact h
      | some m =>
          show (RtcActor.handle host.srtp s.clients.registry now sched m.2
            m.1).registry = (RtcActor.handle host.srtp t.registry now sched m.2
              m.1).registry
          rw [h]
  | _ =>
      rw [clients_act host s _ (by simp), htasks, systemEvents]
      exact (congrArg (fun es => (Machine.run _ t es).registry)
        (List.append_nil _)).symm

theorem media_stunEffects (effects : List StunEffect) :
    (effects.filterMap StunEffect.toSend).filterMap WebRtcRequest.media = [] := by
  rw [List.filterMap_filterMap, List.filterMap_eq_nil_iff]
  intro eff _
  cases eff <;> rfl

theorem trace_emits_clientEvents (lib : SrtpLib S)
    (ms : List (ClientActor.Message S)) : ∀ t : System S,
      Machine.trace (System.step lib) (System.emits lib) t (ms.map .client) =
        [] := by
  induction ms with
  | nil => intro t; rfl
  | cons m ms ih => intro t; exact ih _

/-- Media is given to `UdpSend` where `System` sends it. -/
theorem media_queues (host : Host S M) (s : Server S) (t : System S)
    (e : ServerEvent S) (h : s.clients.registry = t.registry) :
    (s.queues host e).filterMap WebRtcRequest.media =
      Machine.trace (System.step host.srtp) (System.emits host.srtp) t
        (s.systemEvents e) := by
  rw [systemEvents, Machine.trace_append, trace_emits_clientEvents,
    List.nil_append]
  cases e with
  | rtc i now sched =>
      rw [queues, packetEvent]
      cases s.toRtc[i]? with
      | none => rfl
      | some m =>
          show _ = ((RtcActor.handle host.srtp t.registry now sched m.2
            m.1).sent.map fun e => (e.addr, e.packet)) ++ []
          rw [List.append_nil, ← h, List.filterMap_map,
            ← List.filterMap_eq_map]
          rfl
  | datagram buf addr =>
      show _ = []
      rw [queues]
      split
      · exact media_stunEffects _
      · rfl
  | client i now draw =>
      show _ = []
      rw [queues]
      split <;> rfl
  | _ => rfl

/-- The events of a part in a run of the server. -/
def history {β : Type} (host : Host S M)
    (events : Server S → ServerEvent S → List β) (es : List (ServerEvent S)) :
    List β :=
  Machine.trace (step host) (whenAllowed events) init es

theorem stage_after (host : Host S M) (es : List (ServerEvent S)) :
    (after host es).stage = JitterStage.after (history host stageEvents es) :=
  Machine.run_simulates (simulates_step (R := fun (s : Server S) t =>
    s.stage = t) fun s _ e h => h ▸ stage_act host s e) es rfl

theorem agree_after (host : Host S M) (es : List (ServerEvent S)) :
    (after host es).clients.Agree (Tasks.after (history host taskEvents es)) :=
  Machine.run_simulates (simulates_step (R := fun (s : Server S) t =>
    s.clients.Agree t) (agree_act host)) es ⟨.refl _, rfl, rfl, rfl⟩

/-- A run of the server is a run of each of its parts: of the registry that the
two client actors share, with the media they send, of the tasks of `ClientActor`,
of the jitter stage and of the sessions. -/
theorem components_of_run (host : Host S M) (es : List (ServerEvent S)) :
    ((after host es).clients.registry =
        (System.after host.srtp (history host systemEvents es)).registry ∧
      (Machine.trace (step host) (queued host) init es).filterMap
          WebRtcRequest.media =
        Machine.trace (System.step host.srtp) (System.emits host.srtp)
          System.init (history host systemEvents es)) ∧
    (after host es).clients.Agree (Tasks.after (history host taskEvents es)) ∧
    (after host es).stage =
      JitterStage.after (history host stageEvents es) ∧
    (after host es).recv =
      UdpRecv.after (history host sessionEvents es) := by
  have hsystem := simulates_step (R := fun (s : Server S) (t : System S) =>
    s.clients.registry = t.registry) (registry_act host)
  refine ⟨⟨?_, ?_⟩, ?_, ?_, ?_⟩
  · exact Machine.run_simulates hsystem es rfl
  · rw [Machine.filterMap_trace]
    refine Machine.trace_simulates hsystem ?_ es rfl
    intro s t e h
    rw [queued, whenAllowed, whenAllowed]
    split
    · exact media_queues host s t e h
    · rfl
  · exact agree_after host es
  · exact stage_after host es
  · exact Machine.run_simulates (simulates_step (R := fun (s : Server S) t =>
      s.recv = t) fun s t e h => h ▸ recv_act host s e) es rfl

end Server

end RStreamer
