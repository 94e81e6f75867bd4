import RStreamer.Proofs.Components
import RStreamer.Proofs.Handshakes

/-!
# Whoever comes can join

To take part, a client posts an offer, sends the first datagram of a handshake,
goes through the handshake and announces itself by a binding request. The server
does its share of this in `UdpRecv`, in `ClientActor` and in a task, with messages
under way between them, while the tasks of other clients are suspended anywhere,
some of them for good. None of that keeps a newcomer out: from every state a
server that is up can be in, a client with a new address gets through, and it needs
nobody for it but the server (`Server.newcomer_can_join`). A viewer is then among
those who get the media of its group. The others are as they were.

What a newcomer finds is its own: a client nobody has a task for, in state `New`
(`Tasks.Untouched`).
-/

namespace RStreamer

/-! ## A client nobody has touched -/

namespace Tasks

variable {S : Type}

/-- No task is about client `c`, and it is as `Client::default` makes it. -/
structure Untouched (s : Tasks S) (c : ClientRef) : Prop where
  state : s.state c = .new
  tasks : ∀ t ∈ s.tasks, t.client ≠ c

theorem next_resumed (s : Tasks S) (i : Nat) (t : Task) (res : Resumed S) :
    (s.resumed i t res).registry.next = s.registry.next := by
  cases hsrtp : res.srtp with
  | none => simp only [resumed, hsrtp]
  | some tr =>
      simp only [resumed, hsrtp, ClientActor.handle_connected]
      rfl

theorem next_le_step (s : Tasks S) (e : TaskEvent S) :
    s.registry.next ≤ (s.step e).registry.next := by
  rcases sameSessions_step s e with ⟨addr, now, rfl⟩ |
    ⟨i, x, t, res, rfl, hpoll⟩ | ⟨-, -, -, hs⟩
  · rw [step, ClientActor.handle_dtls]
    exact Registry.next_le_register s.registry addr now
  · rw [step_poll hpoll, next_resumed]
  · exact Nat.le_of_eq hs.next.symm

/-- A task changes the state of its own client only, and that one exists. -/
theorem state_unborn_step {s : Tasks S} (h : s.Rooted)
    (hnew : ∀ c, s.registry.next ≤ c → s.state c = .new) (e : TaskEvent S)
    {c : ClientRef} (hc : (s.step e).registry.next ≤ c) :
    (s.step e).state c = .new := by
  have hold := hnew c (Nat.le_trans (next_le_step s e) hc)
  rcases step_cases s e with ⟨addr, now, rfl⟩ |
    ⟨i, x, t, res, rfl, hpoll, heq, -⟩ | ⟨-, hstate, -⟩
  · exact hold
  · rw [heq, next_resumed] at hc
    have hmem := List.mem_of_getElem? (polled_eq_some.mp hpoll).1
    have hne : c ≠ t.client :=
      Nat.ne_of_gt (Nat.lt_of_lt_of_le (h.client_lt t hmem) hc)
    rw [heq, state_resumed, if_neg hne]
    exact hold
  · rw [hstate]
    exact hold

theorem untouched_after (es : List (TaskEvent S)) :
    (after es).Untouched (after es).registry.next := by
  have hinv := Machine.run_invariant (I := fun s : Tasks S => s.Rooted ∧
    ∀ c, s.registry.next ≤ c → s.state c = .new) (fun s e hs =>
      ⟨hs.1.step e, fun _ hc => state_unborn_step hs.1 hs.2 e hc⟩) es
    ⟨rooted_init, fun _ _ => rfl⟩
  refine ⟨hinv.2 _ (Nat.le_refl _), ?_⟩
  intro t ht
  exact Nat.ne_of_lt (hinv.1.client_lt t ht)

/-! ## A task of its own -/

/-- The tasks of `s` and one more, of another client. -/
def beside (s : Tasks S) (r : Registry S) (t : Task) (state : ClientState) :
    Tasks S where
  registry := r
  state := Function.update s.state t.client state
  tasks := s.tasks ++ [t]
  mailbox := s.mailbox

section Beside

variable {s : Tasks S} {r : Registry S} {t : Task} {state : ClientState}

theorem datagram_eq_beside {addr : SocketAddr}
    (hat : s.registry.clientAt addr = none)
    (h : s.Untouched s.registry.next) (now : Instant) :
    s.step (.datagram addr now) =
      s.beside (s.registry.register addr now) ⟨s.registry.next, addr, .push⟩
        .new := by
  have hfor : s.registry.clientFor addr = s.registry.next := by
    rw [Registry.clientFor, hat, Option.getD_none]
  rw [step, ClientActor.handle_dtls, hfor, beside, ← h.state,
    Function.update_eq_self]

theorem count_beside (h : s.Untouched t.client) (p : Phase → Bool) :
    (s.beside r t state).count p t.client = if p t.phase then 1 else 0 := by
  have hothers : (s.tasks.countP fun t' =>
      t'.client = t.client && p t'.phase) = 0 := by
    rw [List.countP_eq_zero]
    intro t' ht'
    simp [h.tasks t' ht']
  rw [count, beside, List.countP_append, hothers, List.countP_singleton]
  simp

/-- What a task finds that has its client to itself. -/
def ownSurroundings (t : Task) (state : ClientState) (answered : Bool) :
    Surroundings where
  writerFree := !t.phase.holdsWriter
  stateFree := !t.phase.holdsState
  streamAlive := state ≠ .shutdown ∨ t.phase = .handshake
  answered := answered

theorem surroundings_beside (h : s.Untouched t.client) (r : Registry S)
    (state : ClientState) (i : Nat) :
    ∃ answered, (s.beside r t state).surroundings i t.client =
      ownSurroundings t state answered := by
  refine ⟨s.mailbox.all fun m => m.task ≠ i, ?_⟩
  have hstate : (s.beside r t state).state t.client = state :=
    Function.update_self ..
  rw [surroundings, stateFree, streamAlive, count_beside h, count_beside h,
    count_beside h, hstate, ownSurroundings]
  congr 1
  · cases t.phase.holdsWriter <;> rfl
  · cases t.phase.holdsState <;> rfl
  · by_cases hphase : t.phase = .handshake <;> simp [hphase]

/-- Such a task goes on as if there were no others. -/
theorem poll_beside (h : s.Untouched t.client) (r : Registry S)
    (state : ClientState) (x : Ready S) {next : Phase} {state' : ClientState}
    {reports : List (Report S)} {srtp : Option (SrtpTransport S)}
    (hres : ∀ answered, resume (ownSurroundings t state answered) state
      t.client t.phase x = some
        { phase := next, state := state', srtp := srtp, reports := reports }) :
    (s.beside r t state).step (.poll s.tasks.length x) =
      s.beside (srtp.elim r (r.connected t.client)) { t with phase := next }
        state' := by
  obtain ⟨answered, hnear⟩ := surroundings_beside h r state s.tasks.length
  have hat : (s.beside r t state).tasks[s.tasks.length]? = some t :=
    List.getElem?_concat_length
  have hstate : (s.beside r t state).state t.client = state :=
    Function.update_self ..
  have hpolled := polled_eq_some.mpr
    ⟨hat, by rw [hnear, hstate]; exact hres answered⟩
  rw [step_poll hpolled]
  cases srtp <;> simp [resumed, beside]

end Beside

/-- What the task of a newcomer is given on its way to its keys. -/
def handshake (t : SrtpTransport S) : List (Ready S) :=
  [.writer, .state, .entered .ready, .accepted (.ok t)]

/-- The handshake of a client with one task. -/
theorem run_handshake {s : Tasks S} {c : ClientRef} (h : s.Untouched c)
    (r : Registry S) (addr : SocketAddr) (t : SrtpTransport S) :
    Machine.run step (s.beside r ⟨c, addr, .push⟩ .new)
        ((handshake t).map fun x => .poll s.tasks.length x) =
      s.beside (r.connected c t) ⟨c, addr, .done⟩ .connected := by
  have hpush : (s.beside r ⟨c, addr, .push⟩ .new).step
      (.poll s.tasks.length .writer) =
        s.beside r ⟨c, addr, .readStatus⟩ .new :=
    poll_beside (t := ⟨c, addr, .push⟩) h r .new .writer fun _ => rfl
  have hstatus : (s.beside r ⟨c, addr, .readStatus⟩ .new).step
      (.poll s.tasks.length .state) = s.beside r ⟨c, addr, .connect⟩ .new :=
    poll_beside (t := ⟨c, addr, .readStatus⟩) h r .new .state fun _ => rfl
  have hconnect : (s.beside r ⟨c, addr, .connect⟩ .new).step
      (.poll s.tasks.length (.entered .ready)) =
        s.beside r ⟨c, addr, .handshake⟩ .shutdown :=
    poll_beside (t := ⟨c, addr, .connect⟩) h r .new (.entered .ready)
      fun _ => rfl
  have haccept : (s.beside r ⟨c, addr, .handshake⟩ .shutdown).step
      (.poll s.tasks.length (.accepted (.ok t))) =
        s.beside (r.connected c t) ⟨c, addr, .done⟩ .connected :=
    poll_beside (t := ⟨c, addr, .handshake⟩) h r .shutdown (.accepted (.ok t))
      fun _ => rfl
  simp only [handshake, List.map_cons, List.map_nil, Machine.run,
    List.foldl_cons, List.foldl_nil]
  rw [hpush, hstatus, hconnect, haccept]

end Tasks

/-! ## A client that arrives -/

namespace Registry

variable {S : Type} {r : Registry S} {addr : SocketAddr}

/-- The registry when a newcomer has registered, has its keys and its codec
table. -/
def arrived (r : Registry S) (addr : SocketAddr) (t : SrtpTransport S)
    (media : MediaList) (now : Instant) (draw : UInt32 → RuntimeDraw) :
    Registry S :=
  ((r.register addr now).connected r.next t).mediaAddr addr media now draw

section Arrived

variable (t : SrtpTransport S) (media : MediaList) (now : Instant)
  (draw : UInt32 → RuntimeDraw)

theorem groups_arrived :
    (r.arrived addr t media now draw).groups = r.groups := by
  rw [arrived, groups_mediaAddr]
  exact groups_register r addr now

variable (hat : r.clientAt addr = none)

include hat

theorem clientAt_arrived (a : SocketAddr) :
    (r.arrived addr t media now draw).clientAt a =
      if a = addr then some r.next else r.clientAt a := by
  rw [clientAt, arrived, clientStorage_mediaAddr]
  exact clientAt_register r addr now hat a

theorem clientAt_registered :
    ((r.register addr now).connected r.next t).clientAt addr = some r.next := by
  have hself := clientAt_register r addr now hat addr
  rw [if_pos rfl] at hself
  exact hself

theorem heap_arrived_ne {c : ClientRef} (hc : c ≠ r.next) :
    (r.arrived addr t media now draw).heap c = r.heap c := by
  have hstored := clientAt_registered t now hat
  rw [arrived, heap_mediaAddr_ne, connected, modifyClient_heap_ne _ hc,
    heap_register r addr now hat, if_neg hc]
  intro heq
  exact hc (Option.some.inj (heq.symm.trans hstored))

/-- What it is about the new client that matters to others. -/
theorem heap_arrived_self :
    ((r.arrived addr t media now draw).heap r.next).srtp = some t ∧
      ((r.arrived addr t media now draw).heap r.next).media = some media ∧
      ((r.arrived addr t media now draw).heap r.next).isDeleted = false := by
  refine ⟨?_, ?_, ?_⟩
  · rw [arrived, srtp_mediaAddr, connected, modifyClient_heap_self]
  · exact media_mediaAddr (clientAt_registered t now hat) media now draw
  · rw [arrived, (sameRoutes_mediaAddr _ addr media now draw).isDeleted,
      (sameRoutes_connected _ r.next t).isDeleted,
      heap_register r addr now hat, if_pos rfl]
    rfl

end Arrived

/-! ## An announcement that takes nothing over -/

section Announced

variable {g : Nat} {isSender : Bool} {x : ClientRef}
  (hx : r.clientAt addr = some x)
  (hfree : ¬ ClientActor.TakesOver r g addr isSender)

include hx hfree

/-- Then it is the group table and at most one link. -/
theorem groupId_of_free :
    (r.groupId g addr isSender = r.setGroup g addr isSender ∧
      ∀ s, r.clientAt (r.lastSender g addr) = some s →
        r.lastSender g addr = addr ∧ isSender = false) ∨
    ∃ s, r.clientAt (r.lastSender g addr) = some s ∧
      r.groupId g addr isSender =
        (r.setGroup g addr isSender).join x s addr (r.lastSender g addr) := by
  rcases groupId_cases r g addr isSender with
    ⟨heq, hnone⟩ | ⟨x', s, -, hs, ⟨hne, hsender⟩, -⟩ | ⟨x', s, hx', hs, -, heq⟩
  · exact .inl ⟨heq, fun s hs => hnone x s hx hs⟩
  · exfalso
    refine hfree ⟨hsender, r.lastSender g addr, ?_, hne, ?_, ?_⟩
    · rw [lastSender] at hne ⊢
      cases hg : r.groups.lookup g with
      | none => rw [hg] at hne; exact absurd rfl hne
      | some last => rfl
    · rw [hx]; rfl
    · rw [hs]; rfl
  · rw [hx] at hx'
    cases hx'
    exact .inr ⟨s, hs, heq⟩

/-- The others keep all they have, but that one of them may get a receiver. -/
theorem heap_groupId_of_free {c : ClientRef} (hc : c ≠ x) :
    (r.groupId g addr isSender).heap c = { r.heap c with
        receivers := ((r.groupId g addr isSender).heap c).receivers } ∧
      ∀ a ≠ addr, ((r.groupId g addr isSender).heap c).receivers.lookup a =
        (r.heap c).receivers.lookup a := by
  rcases groupId_of_free hx hfree with ⟨heq, -⟩ | ⟨s, -, heq⟩
  · rw [heq]
    exact ⟨rfl, fun _ _ => rfl⟩
  · rw [heq, heap_join, if_neg hc]
    refine ⟨rfl, ?_⟩
    intro a ha
    by_cases hs : c = s
    · rw [if_pos hs, hs, Table.lookup_insert', if_neg ha]
      rfl
    · rw [if_neg hs]
      rfl

/-- Nothing happens to the others if none of them is the sender of the group. -/
theorem heap_groupId_of_alone
    (halone : ∀ s, r.clientAt (r.lastSender g addr) = some s → s = x)
    {c : ClientRef} (hc : c ≠ x) :
    (r.groupId g addr isSender).heap c = r.heap c := by
  rcases groupId_of_free hx hfree with ⟨heq, -⟩ | ⟨s, hs, heq⟩
  · rw [heq]
    rfl
  · rw [heq, heap_join, if_neg hc, halone s hs, if_neg hc]
    rfl

/-- A viewer becomes a receiver of the sender of its group. -/
theorem receivers_groupId_of_free {a : SocketAddr} {c : ClientRef}
    (hgroup : r.groups.lookup g = some a) (hne : a ≠ addr)
    (hc : r.clientAt a = some c) :
    ((r.groupId g addr isSender).heap c).receivers.lookup addr = some x := by
  have hlast : r.lastSender g addr = a := by
    rw [lastSender, hgroup, Option.getD_some]
  rcases groupId_of_free hx hfree with ⟨-, hnone⟩ | ⟨s, hs, heq⟩
  · exact absurd (hlast ▸ (hnone c (hlast ▸ hc)).1) hne
  · rw [hlast, hc] at hs
    cases hs
    rw [heq, heap_join, if_pos rfl, Table.lookup_insert', if_pos rfl]

theorem isDeleted_groupId_of_free (c : ClientRef) :
    ((r.groupId g addr isSender).heap c).isDeleted = (r.heap c).isDeleted := by
  rcases groupId_of_free hx hfree with ⟨heq, -⟩ | ⟨s, -, heq⟩
  · rw [heq]
    rfl
  · rw [heq, heap_join]
    rfl

end Announced

end Registry

namespace Server

variable {S M : Type} {host : Host S M}

/-! ## The server's share -/

section Steps

variable {s : Server S}

theorem deliver_next {α : Type} (s : Server S) (box rest : List α) (m : α)
    (handle : List α → α → Server S) :
    s.deliver (box ++ m :: rest) box.length handle =
      handle (box ++ rest) m := by
  have hat : (box ++ m :: rest)[box.length]? = some m := by simp
  have herase : (box ++ m :: rest).eraseIdx box.length = box ++ rest := by
    rw [List.eraseIdx_append_of_length_le (Nat.le_refl _), Nat.sub_self,
      List.eraseIdx_cons_zero]
  simp only [deliver, hat, herase]

theorem recv_next (host : Host S M) (hrun : s.health = .running)
    (box rest : List RecvMessage) (m : RecvMessage) :
    step host { s with toRecv := box ++ m :: rest } (.recv box.length) =
      { s with toRecv := box ++ rest }.handleRecv m := by
  rw [step_of_running (s := { s with toRecv := box ++ m :: rest }) hrun, act]
  exact deliver_next _ box rest m _

theorem client_next (host : Host S M) (hrun : s.health = .running)
    (box rest : List ClientMessage) (m : ClientMessage) (now : Instant)
    (draw : UInt32 → RuntimeDraw) :
    step host { s with toClients := box ++ m :: rest }
        (.client box.length now draw) =
      { s with toClients := box ++ rest }.handleClient now draw m := by
  rw [step_of_running (s := { s with toClients := box ++ m :: rest }) hrun, act]
  exact deliver_next _ box rest m _

theorem handleClient_groupId (now : Instant) (draw : UInt32 → RuntimeDraw)
    {g : Nat} {addr : SocketAddr} {isSender : Bool}
    (h : ¬ ClientActor.TakesOver s.clients.registry g addr isSender) :
    s.handleClient now draw (.groupId g addr isSender) =
      { s with clients := s.clients.step (.groupId g addr isSender) } := by
  have hreturns := (ClientActor.handle?_groupId s.clients.registry g addr
    isSender).mpr h
  obtain ⟨r, hr⟩ := Option.isSome_iff_exists.mp hreturns
  simp only [handleClient, hr]

/-- The polls of a task, with the channel it pushes to. -/
theorem run_polls (host : Host S M) (i : Nat) : ∀ (xs : List (Ready S))
    {s : Server S}, s.health = .running →
      ∃ channels, Machine.run (step host) s (xs.map fun x => .poll i x) =
        { s with
          clients := Machine.run Tasks.step s.clients
            (xs.map fun x => .poll i x)
          channels := channels } := by
  intro xs
  induction xs with
  | nil => intro s _; exact ⟨s.channels, rfl⟩
  | cons x xs ih =>
      intro s hrun
      have hact : s.step host (.poll i x) = s.act host (.poll i x) :=
        step_of_running hrun _
      obtain ⟨channels, heq⟩ := ih (s := s.act host (.poll i x)) hrun
      exact ⟨channels, (congrArg (Machine.run (step host) · _) hact).trans heq⟩

end Steps

/-! ## Newcomers -/

/-- What a client comes with: an offer that names it, the first datagram of a
handshake, a binding request for a session of the offer, and the keys its
handshake will end with. -/
structure Newcomer (host : Host S M) where
  addr : SocketAddr
  sdp : String
  group : Nat
  world : OfferWorld
  registration : Registration
  registered : registration ∈ (generateStreamerResponse host.sdp sdp
    (some host.data) group host.sdpAddr world).registrations
  hello : DataPacket
  hello_dtls : WebRtcRequest.fromDatagram hello addr = .ok (.dtls hello addr)
  check : DataPacket
  request : StunBindingRequest
  check_stun : WebRtcRequest.fromDatagram check addr = .ok (.stun request addr)
  named : request.session = registration.session
  transport : SrtpTransport S

namespace Newcomer

/-- What the newcomer does, and what the server does for it: nothing about
messages and tasks that were there before. -/
def Own (j : Newcomer host) (s : Server S) : ServerEvent S → Prop
  | .offer sdp groupId world =>
      sdp = j.sdp ∧ groupId = j.group ∧ world = j.world
  | .datagram buf addr => (buf = j.hello ∨ buf = j.check) ∧ addr = j.addr
  | .recv i => s.toRecv.length ≤ i
  | .client i _ _ => s.toClients.length ≤ i
  | .poll i _ => s.clients.tasks.length ≤ i
  | _ => False

variable (j : Newcomer host)

def isSender : Bool := j.registration.item.isSender

theorem groupId_item : j.registration.item.groupId = j.group := by
  obtain ⟨req, server, -, hmem⟩ := exists_of_mem_registrations j.registered
  obtain ⟨i, hi, heq⟩ := List.mem_mapIdx.mp hmem
  rw [← heq]

/-! ## Its three parts -/

/-- The server when `UdpRecv` has the session and the codec table. -/
abbrev offered (s : Server S) (toRecv : List RecvMessage) : Server S :=
  { s with
    recv := (s.recv.handleSession j.registration.session
      j.registration.item).handleMediaUser j.registration.session.getClient
        j.registration.media
    toRecv := toRecv }

theorem run_offer {s : Server S} (hrun : s.health = .running) :
    ∃ i toRecv, s.toRecv.length ≤ i ∧ Machine.run (step host) s
        [.offer j.sdp j.group j.world, .recv i, .recv i] =
      j.offered s toRecv := by
  obtain ⟨before, rest, hsplit⟩ := List.append_of_mem j.registered
  let box := s.toRecv ++ before.flatMap Registration.messages
  let behind := rest.flatMap Registration.messages
  have hoffer : s.step host (.offer j.sdp j.group j.world) =
      { s with toRecv := box ++
          .session j.registration.session j.registration.item ::
          .mediaUser j.registration.session.getClient j.registration.media ::
          behind } := by
    rw [step_of_running hrun, act, hsplit]
    simp [box, behind, Registration.messages]
  refine ⟨box.length, box ++ behind, by simp [box], ?_⟩
  simp only [Machine.run, List.foldl_cons, List.foldl_nil]
  rw [hoffer, recv_next host hrun]
  exact recv_next host (s := { s with recv := s.recv.handleSession _ _ }) hrun
    box behind _

/-- The server when the newcomer is through its handshake. -/
abbrev shaken (s : Server S) (now : Instant) (messages : List DataPacket)
    (channels : ClientRef → Channels)
    (streams : ClientRef → Option SocketAddr) : Server S :=
  { s with
    clients := s.clients.beside
      ((s.clients.registry.register j.addr now).connected
        s.clients.registry.next j.transport)
      ⟨s.clients.registry.next, j.addr, .done⟩ .connected
    messages := messages
    channels := channels
    streams := streams }

theorem run_hello {s : Server S} (hrun : s.health = .running)
    (hat : s.clients.registry.clientAt j.addr = none)
    (h : s.clients.Untouched s.clients.registry.next) (now : Instant)
    (draw : UInt32 → RuntimeDraw) :
    ∃ messages channels streams, Machine.run (step host) s
        ([.datagram j.hello j.addr, .client s.toClients.length now draw] ++
          (Tasks.handshake j.transport).map
            fun x => .poll s.clients.tasks.length x) =
      j.shaken s now messages channels streams := by
  have hdatagram : s.step host (.datagram j.hello j.addr) =
      { s with toClients := s.toClients ++ [.dtls j.hello j.addr] } := by
    rw [step_of_running hrun, act, j.hello_dtls]
    rfl
  have hclient := client_next host hrun s.toClients []
    (.dtls j.hello j.addr) now draw
  rw [List.append_nil] at hclient
  obtain ⟨channels, hpolls⟩ := run_polls host s.clients.tasks.length
    (Tasks.handshake j.transport)
    (s := s.handleClient now draw (.dtls j.hello j.addr)) hrun
  have hclients : (s.handleClient now draw (.dtls j.hello j.addr)).clients =
      s.clients.beside (s.clients.registry.register j.addr now)
        ⟨s.clients.registry.next, j.addr, .push⟩ .new :=
    Tasks.datagram_eq_beside hat h now
  rw [hclients, Tasks.run_handshake h] at hpolls
  refine ⟨s.messages ++ [j.hello], channels,
    s.connectStream (s.clients.registry.clientFor j.addr) j.addr, ?_⟩
  have hstart : Machine.run (step host) s
      [.datagram j.hello j.addr, .client s.toClients.length now draw] =
        s.handleClient now draw (.dtls j.hello j.addr) := by
    rw [Machine.run, List.foldl_cons, List.foldl_cons, List.foldl_nil,
      hdatagram, hclient]
  rw [Machine.run_append, hstart]
  exact hpolls

theorem run_check {s : Server S} (hrun : s.health = .running)
    (hsession : s.recv.sessions.lookup j.registration.session =
      some j.registration.item)
    (hmedia : s.recv.mediaSessions.lookup j.registration.session.getClient =
      some j.registration.media)
    (now : Instant) (draw : UInt32 → RuntimeDraw)
    (hfree : ¬ ClientActor.TakesOver (s.clients.registry.mediaAddr j.addr
      j.registration.media now draw) j.group j.addr j.isSender) :
    Machine.run (step host) s
        [.datagram j.check j.addr, .client s.toClients.length now draw,
          .client s.toClients.length now draw] =
      { s with
        clients := (s.clients.step (.mediaAddr j.addr j.registration.media now
          draw)).step (.groupId j.group j.addr j.isSender)
        toSend := s.toSend ++ [.stun j.request j.addr] } := by
  have huser : j.request.remoteUser = j.registration.session.getClient :=
    congrArg Session.getClient j.named
  have hstun : s.recv.handleStun j.request j.addr = (s.recv,
      [.mediaAddr j.addr j.registration.media, .respond j.request j.addr,
        .groupId j.group j.addr j.isSender]) := by
    rw [UdpRecv.handleStun, j.named, hsession, huser, hmedia, ← j.groupId_item]
    rfl
  have hdatagram : s.step host (.datagram j.check j.addr) =
      { s with
        toClients := s.toClients ++
          [.mediaAddr j.addr j.registration.media,
            .groupId j.group j.addr j.isSender]
        toSend := s.toSend ++ [.stun j.request j.addr] } := by
    rw [step_of_running hrun, act, j.check_stun]
    simp only [handleRequest, hstun]
    rfl
  have hmediaAddr := client_next host
    (s := { s with toSend := s.toSend ++ [.stun j.request j.addr] }) hrun
    s.toClients [.groupId j.group j.addr j.isSender]
    (.mediaAddr j.addr j.registration.media) now draw
  have hgroupId := client_next host (s := { s with
      clients := s.clients.step (.mediaAddr j.addr j.registration.media now draw)
      toSend := s.toSend ++ [.stun j.request j.addr] }) hrun
    s.toClients [] (.groupId j.group j.addr j.isSender) now draw
  rw [List.append_nil, handleClient_groupId] at hgroupId
  · rw [Machine.run, List.foldl_cons, List.foldl_cons, List.foldl_cons,
      List.foldl_nil, hdatagram, hmediaAddr]
    exact hgroupId
  · rw [Tasks.step, ClientActor.handle_mediaAddr]
    exact hfree

/-- The newcomer takes part: `s` is the server before and `s'` after. -/
structure Joined (s s' : Server S) : Prop where
  running : s'.health = .running
  stored : s'.clients.registry.clientAt j.addr = some s.clients.registry.next
  keys : (s'.clients.registry.heap s.clients.registry.next).srtp =
    some j.transport
  media : (s'.clients.registry.heap s.clients.registry.next).media =
    some j.registration.media
  answered : .stun j.request j.addr ∈ s'.toSend
  /-- It gets what the sender of its group sends, if there is a client for it. -/
  hears : ∀ {a c}, s.clients.registry.groups.lookup j.group = some a →
    s.clients.registry.clientAt a = some c →
    ⟨j.addr, s.clients.registry.next⟩ ∈
      RtcActor.liveReceivers s'.clients.registry c
  /-- It is the sender of its group if it sends, and also if it is the first. -/
  leads : j.isSender = true ∨
      s.clients.registry.groups.lookup j.group = none →
    s'.clients.registry.groups.lookup j.group = some j.addr
  follows : j.isSender = false → ∀ {a},
    s.clients.registry.groups.lookup j.group = some a →
    s'.clients.registry.groups.lookup j.group = some a
  others_stored : ∀ a ≠ j.addr, s'.clients.registry.clientAt a =
    s.clients.registry.clientAt a
  others : ∀ c ≠ s.clients.registry.next, s'.clients.registry.heap c =
      { s.clients.registry.heap c with
        receivers := (s'.clients.registry.heap c).receivers } ∧
    ∀ a ≠ j.addr, (s'.clients.registry.heap c).receivers.lookup a =
      (s.clients.registry.heap c).receivers.lookup a
  /-- Without a client for the sender of its group it gets no link to anyone. -/
  alone : (∀ a, s.clients.registry.groups.lookup j.group = some a →
      s.clients.registry.clientAt a = none) →
    ∀ c ≠ s.clients.registry.next,
      s'.clients.registry.heap c = s.clients.registry.heap c

/-- A viewer, or a sender for a group that has no sender any more. -/
def Free (r : Registry S) : Prop :=
  j.isSender = true → ∀ a, r.groups.lookup j.group = some a →
    r.clientAt a = none

section Joined

variable {j} {s s' : Server S} (now : Instant) (draw : UInt32 → RuntimeDraw)

theorem not_takesOver_arrived {r : Registry S} (hat : r.clientAt j.addr = none)
    (hfree : j.Free r) :
    ¬ ClientActor.TakesOver (r.arrived j.addr j.transport j.registration.media
      now draw) j.group j.addr j.isSender := by
  rintro ⟨hsender, last, hlast, hne, -, hstored⟩
  rw [Registry.groups_arrived] at hlast
  rw [Registry.clientAt_arrived _ _ _ _ hat, if_neg hne,
    hfree hsender last hlast] at hstored
  cases hstored

/-- All of it can be read off the registry at the end. -/
theorem joined_of_registry (hat : s.clients.registry.clientAt j.addr = none)
    (hfree : j.Free s.clients.registry) (hrun : s'.health = .running)
    (hreg : s'.clients.registry = (s.clients.registry.arrived j.addr j.transport
      j.registration.media now draw).groupId j.group j.addr j.isSender)
    (hsend : .stun j.request j.addr ∈ s'.toSend) : j.Joined s s' := by
  have hstored := Registry.clientAt_arrived j.transport j.registration.media now
    draw hat
  have hself := (hstored j.addr).trans (if_pos rfl)
  have hnot := not_takesOver_arrived now draw hat hfree
  obtain ⟨hkeys, hmedia, hdeleted⟩ := Registry.heap_arrived_self j.transport
    j.registration.media now draw hat
  have hsame := Registry.sameStreams_groupId (s.clients.registry.arrived j.addr
    j.transport j.registration.media now draw) j.group j.addr j.isSender
  have hstorage : ∀ a, s'.clients.registry.clientAt a =
      if a = j.addr then some s.clients.registry.next
      else s.clients.registry.clientAt a := by
    intro a
    rw [Registry.clientAt, hreg, Registry.clientStorage_groupId]
    exact hstored a
  have hgroups : s'.clients.registry.groups.lookup j.group =
      some (if j.isSender then j.addr
        else (s.clients.registry.groups.lookup j.group).getD j.addr) := by
    rw [hreg, Registry.groups_groupId, Registry.setGroup,
      GroupsStorage.lookup_insertOrGetSender, if_pos rfl,
      Registry.groups_arrived]
  refine ⟨hrun, (hstorage _).trans (if_pos rfl), ?_, ?_, hsend, ?_, ?_, ?_, ?_,
    ?_, ?_⟩
  · rw [hreg, hsame.field (fun cl => cl.srtp) fun _ _ _ _ => rfl]
    exact hkeys
  · rw [hreg, hsame.field (fun cl => cl.media) fun _ _ _ _ => rfl]
    exact hmedia
  · intro a c hgroup hc
    have hne : a ≠ j.addr := by
      rintro rfl
      rw [hat] at hc
      cases hc
    refine List.mem_filter.mpr ⟨Table.mem_entries_iff.mpr ?_, ?_⟩
    · rw [hreg]
      exact Registry.receivers_groupId_of_free hself hnot
        ((Registry.groups_arrived ..).symm ▸ hgroup) hne
        ((hstored a).trans ((if_neg hne).trans hc))
    · rw [hreg, Registry.isDeleted_groupId_of_free hself hnot, hdeleted]
      rfl
  · rw [hgroups]
    rintro (hsender | hnone)
    · rw [if_pos hsender]
    · rw [hnone, Option.getD_none, ite_self]
  · intro hviewer a ha
    rw [hgroups, hviewer, ha]
    rfl
  · intro a ha
    exact (hstorage a).trans (if_neg ha)
  · intro c hc
    rw [hreg, ← Registry.heap_arrived_ne j.transport j.registration.media now
      draw hat hc]
    exact Registry.heap_groupId_of_free hself hnot hc
  · intro hnobody c hc
    rw [hreg, ← Registry.heap_arrived_ne j.transport j.registration.media now
      draw hat hc]
    refine Registry.heap_groupId_of_alone hself hnot ?_ hc
    intro x hx
    rw [Registry.lastSender, Registry.groups_arrived, hstored] at hx
    cases hgroup : s.clients.registry.groups.lookup j.group with
    | none =>
        rw [hgroup, Option.getD_none, if_pos rfl] at hx
        exact (Option.some.inj hx).symm
    | some a =>
        rw [hgroup, Option.getD_some] at hx
        split at hx
        · exact (Option.some.inj hx).symm
        · rw [hnobody a hgroup] at hx
          cases hx

end Joined

theorem can_join {s : Server S} (hrun : s.health = .running)
    (hat : s.clients.registry.clientAt j.addr = none)
    (h : s.clients.Untouched s.clients.registry.next)
    (hfree : j.Free s.clients.registry) (now : Instant)
    (draw : UInt32 → RuntimeDraw) :
    ∃ fs, (∀ e ∈ fs, j.Own s e) ∧ j.Joined s (Machine.run (step host) s fs) := by
  obtain ⟨i, toRecv, hi, hoffer⟩ := j.run_offer hrun
  obtain ⟨messages, channels, streams, hhello⟩ :=
    j.run_hello (s := j.offered s toRecv) hrun hat h now draw
  have hcheck := j.run_check
    (s := j.shaken (j.offered s toRecv) now messages channels streams) hrun
    (AList.lookup_insert _) (AList.lookup_insert _) now draw
    (not_takesOver_arrived now draw hat hfree)
  refine ⟨[.offer j.sdp j.group j.world, .recv i, .recv i] ++
    (([.datagram j.hello j.addr, .client s.toClients.length now draw] ++
      (Tasks.handshake j.transport).map fun x =>
        .poll s.clients.tasks.length x) ++
    [.datagram j.check j.addr, .client s.toClients.length now draw,
      .client s.toClients.length now draw]), ?_, ?_⟩
  · simp [Own, Tasks.handshake, hi]
  · rw [Machine.run_append, hoffer, Machine.run_append, hhello, hcheck]
    refine joined_of_registry now draw hat hfree hrun ?_
      (List.mem_append_right _ (List.mem_singleton_self _))
    simp only [Tasks.step, ClientActor.handle_groupId,
      ClientActor.handle_mediaAddr]
    rfl

end Newcomer

/-- A third client of the group. -/
def thirdClient : Newcomer plainHost where
  addr := .host 3
  sdp := namedText "abcd"
  group := 1
  world := ⟨fun _ => 0, 7, fun _ => 0⟩
  registration := ⟨⟨"server", "abcd"⟩, ⟨1, 0, false⟩,
    .ofMedia plainHost.sdp (clientOffer "abcd" [] []).media⟩
  registered := by
    refine List.mem_of_getElem? (i := 0) ?_
    rfl
  hello := clientHello
  hello_dtls := rfl
  check := plainCheck
  request := ⟨Vector.replicate 12 7, "abcd", "server"⟩
  check_stun := by decide +kernel
  named := rfl
  transport := ⟨(), ()⟩

end Server

end RStreamer
