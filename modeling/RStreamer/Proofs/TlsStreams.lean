import RStreamer.Proofs.Components

/-!
# What the TLS library reads

A DTLS datagram goes from `UdpRecv` through the mailbox of `ClientActor` to a task,
and the task pushes it into the channel of a client, for the TLS library to read.
Tasks go on in any order and may find the channel closed, so a datagram may be late
or lost. But it is read once at most, by the session of one client, and that
client is the one whose stream has the address the datagram came from: no address
can put anything into the handshake of another one (`Server.tls_reads_received`).

The way of a datagram is counted in two parts, since it is only when `ClientActor`
handles it that its client is known. Up to there it has an address, and from there
a client.
-/

namespace RStreamer

/-- A task that goes on is past its push, and only a push waits for the
writer. -/
theorem push_of_resume {S : Type} {near : Surroundings} {state : ClientState}
    {c : ClientRef} {phase : Phase} {x : Ready S} {res : Resumed S}
    (h : resume near state c phase x = some res) :
    res.phase ≠ .push ∧ (x = .writer → phase = .push) := by
  unfold resume at h
  split at h
  · split at h
    · cases h
      refine ⟨?_, fun _ => rfl⟩
      split <;> simp
    · cases h
  · cases h
    simp
  · split at h
    · next cause _ => cases h; cases cause <;> simp [Cause.next]
    · cases h
  · split at h
    · cases h
      refine ⟨?_, by simp⟩
      cases state <;> simp [statusNext, ClientState.getStatus]
    · cases h
  · next setup =>
      split at h
      · cases h
        refine ⟨?_, by simp⟩
        cases setup <;> cases state <;>
          simp [resumeConnect, enterConnect, takesStream]
      · cases h
  · next hs =>
      cases h
      refine ⟨?_, by simp⟩
      cases hs <;> simp [resumeHandshake, Handshake.result]
  · split at h
    · cases h
      refine ⟨?_, by simp⟩
      split <;> simp
    · cases h
  · cases h
    simp
  · cases h
    simp
  · cases h
    refine ⟨?_, by simp⟩
    split <;> simp
  · cases h

namespace Server

variable {S M : Type}

/-! ## The way of a datagram -/

/-- The DTLS datagram an event brings, with its address. -/
def greetings : ServerEvent S → List (SocketAddr × DataPacket)
  | .datagram buf addr =>
      match WebRtcRequest.fromDatagram buf addr with
      | .ok (.dtls message addr) => [(addr, message)]
      | _ => []
  | _ => []

/-- The datagram `ClientActor` spawns a task with at an event, and the client of
the task. -/
def spawns (s : Server S) :
    ServerEvent S → List (ClientRef × SocketAddr × DataPacket)
  | .client i _ _ =>
      match s.toClients[i]? with
      | some (.dtls message addr) =>
          [(s.clients.registry.clientFor addr, addr, message)]
      | _ => []
  | _ => []

/-- The datagram the TLS library reads at an event, and the client whose stream
it reads from. -/
def reads (s : Server S) : ServerEvent S → List (ClientRef × DataPacket)
  | .sslRead c =>
      if s.clients.streamAlive c then
        ((s.channels c).incoming.head?.map fun m => (c, m)).toList
      else []
  | _ => []

/-- Whether a task is of client `c` and has datagram `m` still to push. -/
def pushes (c : ClientRef) (m : DataPacket) (x : Task × DataPacket) : Bool :=
  x.1.client = c ∧ x.1.phase = .push ∧ x.2 = m

/-- How often datagram `m` is on its way to the stream of client `c`. -/
def onItsWay (c : ClientRef) (m : DataPacket) (s : Server S) : Nat :=
  (s.channels c).incoming.count m +
    (s.clients.tasks.zip s.messages).countP (pushes c m)

/-- Every task has its datagram. -/
def Laden (s : Server S) : Prop := s.messages.length = s.clients.tasks.length

section OnItsWay

variable {c : ClientRef} {m : DataPacket} {s s' : Server S}

theorem onItsWay_of_eq (htasks : s'.clients.tasks = s.clients.tasks)
    (hmessages : s'.messages = s.messages)
    (hincoming : (s'.channels c).incoming = (s.channels c).incoming) :
    s'.onItsWay c m = s.onItsWay c m := by
  rw [onItsWay, onItsWay, htasks, hmessages, hincoming]

theorem onItsWay_spawn (h : s.Laden) (t : Task) (message : DataPacket)
    (ht : t.phase = .push) (htasks : s'.clients.tasks = s.clients.tasks ++ [t])
    (hmessages : s'.messages = s.messages ++ [message])
    (hchannels : s'.channels = s.channels) :
    s'.onItsWay c m = s.onItsWay c m +
      [(t.client, message)].count (c, m) := by
  have hone : [(t, message)].countP (pushes c m) =
      [(t.client, message)].count (c, m) := by
    rw [List.countP_singleton, List.count_singleton, pushes, ht]
    simp
  rw [onItsWay, onItsWay, htasks, hmessages, hchannels,
    List.zip_append h.symm, List.countP_append, Nat.add_assoc]
  congr 2

theorem zip_set {α β : Type} {xs : List α} {ys : List β} {i : Nat} {y : β}
    (hy : ys[i]? = some y) (x : α) :
    (xs.set i x).zip ys = (xs.zip ys).set i (x, y) := by
  obtain ⟨hi, rfl⟩ := List.getElem?_eq_some_iff.mp hy
  refine List.ext_getElem (by simp) fun j _ _ => ?_
  rw [List.getElem_zip, List.getElem_set, List.getElem_set, List.getElem_zip]
  split
  · next hij => subst hij; rfl
  · rfl

/-- What a task pushes is its own datagram. -/
theorem count_pushed {i : Nat} {x : Ready S} {t : Task} {res : Resumed S}
    (hpoll : s.clients.polled i x = some (t, res)) {message : DataPacket}
    (hmessage : s.messages[i]? = some message) :
    (s.pushed i x c).incoming.count m ≤ (s.channels c).incoming.count m +
      if pushes c m (t, message) then 1 else 0 := by
  have hwriter := (push_of_resume (Tasks.polled_eq_some.mp hpoll).2).2
  have hshape : s.pushed i x = s.channels ∨ x = .writer ∧
      s.pushed i x = Function.update s.channels t.client
        { s.channels t.client with
          incoming := (s.channels t.client).incoming ++ [message] } := by
    unfold pushed
    rw [hpoll, hmessage]
    split
    · next t' res' heq =>
        cases heq
        split
        · exact .inr ⟨rfl, rfl⟩
        · exact .inl rfl
    · exact .inl rfl
  rcases hshape with heq | ⟨rfl, heq⟩
  · rw [heq]
    exact Nat.le_add_right _ _
  · rw [heq, Function.update_apply]
    split
    · next hc =>
        subst hc
        rw [List.count_append, List.count_singleton, pushes, hwriter rfl]
        simp
    · exact Nat.le_add_right _ _

/-- A task that goes on: its datagram has left it, for the channel if it pushed
it. -/
theorem onItsWay_poll (h : s.Laden) (i : Nat) (x : Ready S) :
    onItsWay c m { s with
      clients := s.clients.step (.poll i x), channels := s.pushed i x } ≤
      s.onItsWay c m := by
  cases hpoll : s.clients.polled i x with
  | none =>
      refine Nat.le_of_eq (onItsWay_of_eq ?_ rfl ?_)
      · simp only [Tasks.step, hpoll]
      · simp only [pushed, hpoll]
  | some out =>
      obtain ⟨t, res⟩ := out
      obtain ⟨hget, hres⟩ := Tasks.polled_eq_some.mp hpoll
      have hpush := (push_of_resume hres).1
      obtain ⟨hi, rfl⟩ := List.getElem?_eq_some_iff.mp hget
      have hi' : i < s.messages.length := h.symm ▸ hi
      have hzip : i < (s.clients.tasks.zip s.messages).length := by
        rw [List.length_zip]
        omega
      have hmessage := List.getElem?_eq_getElem hi'
      have hpushed := count_pushed (c := c) (m := m) hpoll hmessage
      have hdone : pushes c m ({ s.clients.tasks[i] with phase := res.phase },
          s.messages[i]) = false := by
        simp [pushes, hpush]
      have hle : (if pushes c m (s.clients.tasks[i], s.messages[i]) then 1
          else 0) ≤ (s.clients.tasks.zip s.messages).countP (pushes c m) := by
        split
        · next hp =>
            refine List.one_le_countP_iff.mpr ⟨_, List.getElem_mem hzip, ?_⟩
            rwa [List.getElem_zip]
        · exact Nat.zero_le _
      have htasks : (s.clients.step (.poll i x)).tasks = s.clients.tasks.set i
          { s.clients.tasks[i] with phase := res.phase } := by
        rw [Tasks.step_poll hpoll]
        rfl
      rw [onItsWay, onItsWay, htasks, zip_set hmessage, List.countP_set hzip,
        hdone, List.getElem_zip]
      simp only [Bool.false_eq_true, if_false]
      omega

theorem onItsWay_sslRead (s : Server S) (d : ClientRef) :
    (s.reads (.sslRead d)).count (c, m) + (s.sslRead d).onItsWay c m =
      s.onItsWay c m := by
  rw [reads, sslRead]
  split
  · by_cases hd : c = d
    · subst hd
      cases hbox : (s.channels c).incoming with
      | nil => simp [onItsWay, hbox]
      | cons m' rest =>
          simp only [onItsWay, hbox, Function.update_self, List.head?_cons,
            Option.map_some, Option.toList_some, List.tail_cons,
            List.count_nil, List.count_cons, Prod.mk.injEq, beq_iff_eq,
            true_and]
          omega
    · have hnone : (((s.channels d).incoming.head?.map
          fun m => (d, m)).toList).count (c, m) = 0 := by
        rw [List.count_eq_zero]
        intro hmem
        obtain ⟨m', -, heq⟩ := Option.map_eq_some_iff.mp
          (Option.mem_toList.mp hmem)
        exact hd (congrArg Prod.fst heq).symm
      rw [hnone, Nat.zero_add]
      refine onItsWay_of_eq rfl rfl ?_
      show (Function.update s.channels d _ c).incoming = _
      rw [Function.update_of_ne hd]
  · exact Nat.zero_add _

end OnItsWay

/-! ## From `ClientActor` on -/

section Steps

variable {s : Server S}

/-- What an event does to the datagrams that have a client. -/
theorem act_cases (host : Host S M) (s : Server S) (e : ServerEvent S) :
    (∃ i now draw message addr, e = .client i now draw ∧
      s.toClients[i]? = some (.dtls message addr) ∧
      (s.act host e).clients.tasks = s.clients.tasks ++
        [⟨s.clients.registry.clientFor addr, addr, .push⟩] ∧
      (s.act host e).messages = s.messages ++ [message] ∧
      (s.act host e).channels = s.channels) ∨
    (∃ i x, e = .poll i x) ∨ (∃ d, e = .sslRead d) ∨
    ((s.act host e).clients.tasks = s.clients.tasks ∧
      (s.act host e).messages = s.messages ∧
      (∀ d, ((s.act host e).channels d).incoming =
        (s.channels d).incoming) ∧ s.reads e = []) := by
  cases e with
  | poll i x => exact .inr (.inl ⟨i, x, rfl⟩)
  | sslRead d => exact .inr (.inr (.inl ⟨d, rfl⟩))
  | client i now draw =>
      rw [act, deliver]
      cases hbox : s.toClients[i]? with
      | none => exact .inr (.inr (.inr ⟨rfl, rfl, fun _ => rfl, rfl⟩))
      | some m =>
          cases m with
          | dtls message addr =>
              exact .inl ⟨i, now, draw, message, addr, rfl, hbox, rfl, rfl, rfl⟩
          | groupId g addr isSender =>
              refine .inr (.inr (.inr ?_))
              simp only [handleClient]
              split <;> exact ⟨rfl, rfl, fun _ => rfl, rfl⟩
          | mediaAddr addr media =>
              exact .inr (.inr (.inr ⟨rfl, rfl, fun _ => rfl, rfl⟩))
          | outgoing message addr =>
              exact .inr (.inr (.inr ⟨rfl, rfl, fun _ => rfl, rfl⟩))
  | sslWrite d message =>
      refine .inr (.inr (.inr ?_))
      rw [act, sslWrite]
      split
      · refine ⟨rfl, rfl, fun d' => ?_, rfl⟩
        simp only [Function.update_apply]
        split
        · next hd => rw [hd]
        · rfl
      · exact ⟨rfl, rfl, fun _ => rfl, rfl⟩
  | outgoing d =>
      refine .inr (.inr (.inr ?_))
      rw [act, outgoing]
      split
      · refine ⟨rfl, rfl, fun d' => ?_, rfl⟩
        simp only [Function.update_apply]
        split
        · next hd => rw [hd]
        · rfl
      · exact ⟨rfl, rfl, fun _ => rfl, rfl⟩
  | datagram buf addr =>
      refine .inr (.inr (.inr ?_))
      rw [act]
      split
      · exact ⟨rfl, rfl, fun _ => rfl, rfl⟩
      · next req _ => cases req <;> exact ⟨rfl, rfl, fun _ => rfl, rfl⟩
  | delete =>
      refine .inr (.inr (.inr ⟨?_, rfl, fun _ => rfl, rfl⟩))
      show (s.clients.step .delete).tasks = s.clients.tasks
      rw [Tasks.step]
      split <;> rfl
  | recv i =>
      obtain ⟨_, _, heq⟩ := act_recv host s i
      rw [heq]
      exact .inr (.inr (.inr ⟨rfl, rfl, fun _ => rfl, rfl⟩))
  | delay i now =>
      obtain ⟨_, _, heq⟩ := act_delay host s i now
      rw [heq]
      exact .inr (.inr (.inr ⟨rfl, rfl, fun _ => rfl, rfl⟩))
  | send i buf =>
      obtain ⟨_, _, heq⟩ := act_send host s i buf
      rw [heq]
      exact .inr (.inr (.inr ⟨rfl, rfl, fun _ => rfl, rfl⟩))
  | rtc i now sched =>
      refine .inr (.inr (.inr ?_))
      rw [act, deliver]
      split <;> exact ⟨rfl, rfl, fun _ => rfl, rfl⟩
  | offer sdp groupId world =>
      exact .inr (.inr (.inr ⟨rfl, rfl, fun _ => rfl, rfl⟩))
  | clearData now => exact .inr (.inr (.inr ⟨rfl, rfl, fun _ => rfl, rfl⟩))
  | jitter now => exact .inr (.inr (.inr ⟨rfl, rfl, fun _ => rfl, rfl⟩))
  | forward i => exact .inr (.inr (.inr ⟨rfl, rfl, fun _ => rfl, rfl⟩))
  | giveUp i => exact .inr (.inr (.inr ⟨rfl, rfl, fun _ => rfl, rfl⟩))

theorem Laden.act (h : s.Laden) (host : Host S M) (e : ServerEvent S) :
    (s.act host e).Laden := by
  rw [Laden] at h ⊢
  rcases act_cases host s e with ⟨i, now, draw, message, addr, rfl, -, htasks,
    hmessages, -⟩ | ⟨i, x, rfl⟩ | ⟨d, rfl⟩ | ⟨htasks, hmessages, -⟩
  · rw [htasks, hmessages, List.length_append, List.length_append, h]
    rfl
  · show s.messages.length = (s.clients.step (.poll i x)).tasks.length
    rw [Tasks.step]
    split
    · exact h
    · rw [Tasks.resumed, List.length_set]
      exact h
  · obtain ⟨_, heq⟩ := act_sslRead host s d
    rw [heq]
    exact h
  · rw [htasks, hmessages]
    exact h

/-- No datagram gets to a client more often than a task was spawned with it. -/
theorem onItsWay_act (h : s.Laden) (host : Host S M) (e : ServerEvent S)
    (c : ClientRef) (m : DataPacket) :
    (s.reads e).count (c, m) + (s.act host e).onItsWay c m ≤
      s.onItsWay c m + (s.spawns e).countP fun x => x.1 = c ∧ x.2.2 = m := by
  rcases act_cases host s e with ⟨i, now, draw, message, addr, rfl, hbox,
    htasks, hmessages, hchannels⟩ | ⟨i, x, rfl⟩ | ⟨d, rfl⟩ |
    ⟨htasks, hmessages, hincoming, hreads⟩
  · have hspawn := onItsWay_spawn (c := c) (m := m) h _ message rfl htasks
      hmessages hchannels
    rw [hspawn, spawns, hbox, List.count_singleton, List.countP_singleton]
    simp [reads]
  · have hpoll := onItsWay_poll (c := c) (m := m) h i x
    exact (Nat.zero_add _).trans_le (hpoll.trans (Nat.le_add_right _ _))
  · exact (onItsWay_sslRead s d).trans_le (Nat.le_add_right _ _)
  · rw [hreads, onItsWay_of_eq htasks hmessages (hincoming c)]
    exact (Nat.zero_add _).trans_le (Nat.le_add_right _ _)

end Steps

/-! ## Up to `ClientActor` -/

def ClientMessage.greeting : ClientMessage → Option (SocketAddr × DataPacket)
  | .dtls message addr => some (addr, message)
  | _ => none

/-- The DTLS datagrams in the mailbox of `ClientActor`. -/
def waiting (s : Server S) : List (SocketAddr × DataPacket) :=
  s.toClients.filterMap ClientMessage.greeting

theorem greeting_stunEffects (effects : List StunEffect) :
    (effects.filterMap StunEffect.toClients).filterMap
      ClientMessage.greeting = [] := by
  rw [List.filterMap_filterMap, List.filterMap_eq_nil_iff]
  intro eff _
  cases eff <;> rfl

theorem toClients_handleClient (s : Server S) (now : Instant)
    (draw : UInt32 → RuntimeDraw) (m : ClientMessage) :
    (s.handleClient now draw m).toClients = s.toClients := by
  cases m with
  | groupId g addr isSender =>
      rw [handleClient]
      split <;> rfl
  | _ => rfl

theorem waiting_client (host : Host S M) (s : Server S) (i : Nat)
    (now : Instant) (draw : UInt32 → RuntimeDraw) :
    ((s.spawns (.client i now draw)).map Prod.snd ++
      (s.act host (.client i now draw)).waiting).Subperm s.waiting := by
  rw [spawns, act, deliver]
  cases hbox : s.toClients[i]? with
  | none => exact .refl _
  | some m =>
      obtain ⟨hi, rfl⟩ := List.getElem?_eq_some_iff.mp hbox
      have htaken := (List.getElem_cons_eraseIdx_perm hi).filterMap
        ClientMessage.greeting
      simp only []
      rw [waiting, toClients_handleClient]
      refine List.Subperm.trans ?_ htaken.subperm
      cases s.toClients[i] with
      | dtls message addr => exact .refl _
      | groupId g addr isSender => exact .refl _
      | mediaAddr addr media => exact .refl _
      | outgoing message addr => exact .refl _

theorem waiting_datagram (host : Host S M) (s : Server S) (buf : DataPacket)
    (addr : SocketAddr) :
    (s.act host (.datagram buf addr)).waiting =
      s.waiting ++ greetings (.datagram buf addr : ServerEvent S) := by
  rw [act, greetings]
  cases WebRtcRequest.fromDatagram buf addr with
  | error e => exact (List.append_nil _).symm
  | ok req =>
      cases req with
      | stun req addr =>
          show List.filterMap _ (s.toClients ++ _) = s.waiting ++ []
          rw [List.filterMap_append, greeting_stunEffects]
          rfl
      | dtls message addr =>
          show List.filterMap _ (s.toClients ++ _) = _
          rw [List.filterMap_append]
          rfl
      | rtc message addr => exact (List.append_nil _).symm
      | unknown => exact (List.append_nil _).symm

theorem waiting_outgoing (s : Server S) (c : ClientRef) :
    (s.outgoing c).waiting = s.waiting := by
  rw [outgoing]
  split
  · show List.filterMap _ (s.toClients ++ _) = s.waiting
    rw [List.filterMap_append]
    exact List.append_nil _
  · rfl

/-- A task is spawned with a datagram that came in, and with none twice. -/
theorem waiting_act (host : Host S M) (s : Server S) (e : ServerEvent S) :
    ((s.spawns e).map Prod.snd ++ (s.act host e).waiting).Subperm
      (s.waiting ++ greetings e) := by
  have hsame : ∀ {l : List (SocketAddr × DataPacket)}, l = s.waiting →
      l.Subperm (s.waiting ++ []) := by
    intro l hl
    rw [hl, List.append_nil]
  cases e with
  | client i now draw =>
      exact (waiting_client host s i now draw).trans (hsame rfl)
  | datagram buf addr =>
      exact (List.Perm.of_eq (waiting_datagram host s buf addr)).subperm
  | outgoing c => exact hsame (waiting_outgoing s c)
  | recv i =>
      obtain ⟨_, _, heq⟩ := act_recv host s i
      rw [heq]
      exact hsame rfl
  | delay i now =>
      obtain ⟨_, _, heq⟩ := act_delay host s i now
      rw [heq]
      exact hsame rfl
  | sslRead d =>
      obtain ⟨_, heq⟩ := act_sslRead host s d
      rw [heq]
      exact hsame rfl
  | sslWrite d message =>
      obtain ⟨_, heq⟩ := act_sslWrite host s d message
      rw [heq]
      exact hsame rfl
  | send i buf =>
      obtain ⟨_, _, heq⟩ := act_send host s i buf
      rw [heq]
      exact hsame rfl
  | rtc i now sched =>
      rw [act, deliver]
      split <;> exact hsame rfl
  | offer sdp groupId world => exact hsame rfl
  | clearData now => exact hsame rfl
  | poll i x => exact hsame rfl
  | delete => exact hsame rfl
  | jitter now => exact hsame rfl
  | forward i => exact hsame rfl
  | giveUp i => exact hsame rfl

/-! ## Runs -/

/-- The client a task is spawned for has its stream at the address the datagram
came from. -/
theorem streams_spawn {host : Host S M} {past : List (ServerEvent S)}
    {s : Server S} (h : Accounted host past s) {e : ServerEvent S}
    {x : ClientRef × SocketAddr × DataPacket} (hx : x ∈ s.spawns e) :
    (s.act host e).streams x.1 = some x.2.1 := by
  cases e with
  | client i now draw =>
      rw [spawns] at hx
      split at hx
      · next message addr hbox =>
          cases List.mem_singleton.mp hx
          rw [act, deliver, hbox]
          show s.connectStream (s.clients.registry.clientFor addr) addr
            (s.clients.registry.clientFor addr) = some addr
          rcases connectStream_cases h addr with ⟨c, hat, heq⟩ | ⟨hat, heq⟩
          · rw [heq, Registry.clientFor, hat]
            exact h.grouped.stored hat
          · rw [heq, Registry.clientFor, hat]
            exact Function.update_self ..
      · cases hx
  | _ => cases hx

/-- The tasks spawned so far are at their addresses. -/
structure Settled (host : Host S M) (past : List (ServerEvent S))
    (log : List (ClientRef × SocketAddr × DataPacket)) (s : Server S) :
    Prop where
  accounted : Accounted host past s
  streams : ∀ x ∈ log, s.streams x.1 = some x.2.1

theorem Settled.step {host : Host S M} {past : List (ServerEvent S)}
    {log : List (ClientRef × SocketAddr × DataPacket)} {s : Server S}
    (h : Settled host past log s) (e : ServerEvent S) :
    Settled host (past ++ [e]) (log ++ whenAllowed spawns s e)
      (s.step host e) := by
  refine ⟨accounted_step h.accounted e, ?_⟩
  intro x hx
  rw [whenAllowed] at hx
  rw [Server.step]
  split
  · next hgo =>
      rw [if_pos hgo] at hx
      rcases List.mem_append.mp hx with hold | hnew
      · exact streams_act (h.streams x hold) e
      · exact streams_spawn h.accounted hnew
  · next hdown =>
      rw [if_neg hdown, List.append_nil] at hx
      exact h.streams x hx

theorem settled_after (host : Host S M) (es : List (ServerEvent S)) :
    Settled host es (history host spawns es) (after host es) :=
  Machine.trace_invariant ⟨accounted_init host, nofun⟩
    (fun _ _ _ e h => h.step e) es

theorem laden_step (host : Host S M) (s : Server S) (e : ServerEvent S)
    (h : s.Laden) : (s.step host e).Laden := by
  rw [step]
  split
  · exact h.act host e
  · exact h

theorem onItsWay_step (host : Host S M) (c : ClientRef) (m : DataPacket)
    (s : Server S) (e : ServerEvent S) (h : s.Laden) :
    (whenAllowed reads s e).countP (· == (c, m)) +
        (s.step host e).onItsWay c m ≤
      s.onItsWay c m +
        (whenAllowed spawns s e).countP fun x => x.1 = c ∧ x.2.2 = m := by
  rw [step, whenAllowed, whenAllowed]
  split
  · exact onItsWay_act h host e c m
  · exact Nat.le_of_eq (Nat.zero_add _)

/-- What is read was spawned with, by the same client and no more often. -/
theorem reads_subperm_spawns (host : Host S M) (es : List (ServerEvent S)) :
    (history host reads es).Subperm
      ((history host spawns es).map fun x => (x.1, x.2.2)) := by
  rw [List.subperm_ext_iff]
  rintro ⟨c, m⟩ -
  have hladen : (init : Server S).Laden := rfl
  have hcount := Machine.countP_trace_le_source (laden_step host)
    (onItsWay_step host c m) es hladen
  refine (Nat.le_add_right _ _).trans (hcount.trans ?_)
  rw [show onItsWay c m (init : Server S) = 0 from rfl, Nat.zero_add,
    List.count, List.countP_map]
  refine List.countP_mono_left fun x _ hx => ?_
  simpa using hx

theorem waiting_step (host : Host S M) (s : Server S) (e : ServerEvent S) :
    ((whenAllowed spawns s e).map Prod.snd ++ (s.step host e).waiting).Subperm
      (s.waiting ++ greetings e) := by
  rw [step, whenAllowed]
  split
  · exact waiting_act host s e
  · exact (List.sublist_append_left _ _).subperm

theorem spawns_subperm_greetings (host : Host S M)
    (es : List (ServerEvent S)) :
    ((history host spawns es).map Prod.snd).Subperm (es.flatMap greetings) := by
  have hrun := Machine.trace_subperm (waiting_step host) es init
  rw [Machine.trace_of_event] at hrun
  rw [history, Machine.map_trace]
  exact (List.sublist_append_left _ _).subperm.trans hrun

theorem subperm_map {α β : Type} {xs ys : List α} (h : xs.Subperm ys)
    (f : α → β) : (xs.map f).Subperm (ys.map f) := by
  obtain ⟨zs, hperm, hsub⟩ := h
  exact ⟨zs.map f, hperm.map f, hsub.map f⟩

/-- In every run: the datagrams the TLS library reads, each with the address of
the stream it is read from, are DTLS datagrams the server received from that
address, and none of them is read twice, neither for one client nor for two. -/
theorem tls_reads_received (host : Host S M) (es : List (ServerEvent S)) :
    ((history host reads es).map fun x =>
        ((after host es).streams x.1, x.2)).Subperm
      ((es.flatMap greetings).map fun x => (some x.1, x.2)) := by
  have hreads := subperm_map (reads_subperm_spawns host es) fun x =>
    ((after host es).streams x.1, x.2)
  have hspawns := subperm_map (spawns_subperm_greetings host es) fun x =>
    (some x.1, x.2)
  refine hreads.trans (List.Subperm.trans ?_ hspawns)
  rw [List.map_map, List.map_map]
  refine (List.Perm.of_eq (List.map_congr_left fun x hx => ?_)).subperm
  rw [Function.comp_apply, Function.comp_apply, (settled_after host es).streams x hx]

example : history plainHost reads [.datagram clientHello (.host 1),
    .client 0 0 fun _ => .least, .poll 0 .writer, .sslRead 0, .sslRead 0] =
      [(0, clientHello)] := by
  decide +kernel

end Server

end RStreamer
