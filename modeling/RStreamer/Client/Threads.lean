import RStreamer.Client.Counters
import RStreamer.Client.Metered
import RStreamer.Client.RtcLocks

/-!
# The threads of the server

`ClientActor` and the ends of its handshakes run on one thread, `RtcActor` on
any number of others. `threads` is what they run: a list of messages on the one,
a list of packets on each of the others.

What they may rely on each other for is written down as two protocols. Only
`ClientActor` changes routing (the storage, the groups, who receives from whom,
who is deleted, the codec tables), so `ClientActor` can rely on all of it
without holding a lock. The counters of a client are changed by both, and by
either only under their lock, so a thread can rely on the counters of a client
as long as it holds that lock. The requests each thread makes under its guards
are listed one by one.

`Serial` is the invariant the threads keep in common. The numbers written into
the packets of one client at one frequency are those its counters give to these
packets one after another, in the order in which they were given out.
-/

namespace RStreamer

open Lock Lock.Prog

open ClientLock (rd wr)

variable {S : Type}

/-! ## What runs on the threads -/

/-- A media packet for `RtcActor`, when it is handled and the order of its
fan-out. -/
structure MediaJob where
  message : DataPacket
  addr : SocketAddr
  now : Instant
  sched : List Receiver

def ClientActor.thread (ms : List (ClientActor.Message S)) :
    Prog ClientLock (Shared S) Unit :=
  forEach (fun m =>
    (ClientActor.handler m).zoom Shared.registry Shared.onRegistry) ms

def RtcActor.thread (lib : SrtpLib S) (jobs : List MediaJob) :
    Prog ClientLock (Shared S) Unit :=
  forEach (fun job =>
    (RtcActor.handler lib job.now job.sched job.message job.addr).bind
      fun _ => ret ()) jobs

/-- The server with `ClientActor` about to handle `ms` and one thread of
`RtcActor` for each list of packets. -/
def threads (lib : SrtpLib S) (r : Registry S)
    (ms : List (ClientActor.Message S)) (jobs : List (List MediaJob)) :
    Pool ClientLock (Shared S) :=
  ⟨⟨r, [], [], []⟩,
    (ClientActor.thread ms :: jobs.map (RtcActor.thread lib)).map
      fun p => ⟨[], p⟩⟩

/-! ## Routing -/

/-- What routing reads of a client. -/
def Client.routing (cl : Client S) :
    Option MediaList × Table SocketAddr ClientRef × Option SocketAddr × Bool :=
  (cl.media, cl.receivers, cl.senderAddr, cl.isDeleted)

namespace Registry

/-- Two registries that differ in counters, statistics and SRTP sessions
only. -/
structure SameRouting (r r' : Registry S) : Prop where
  clientStorage : r.clientStorage = r'.clientStorage
  groups : r.groups = r'.groups
  next : r.next = r'.next
  heap : ∀ c, (r.heap c).routing = (r'.heap c).routing

theorem SameRouting.refl (r : Registry S) : SameRouting r r :=
  ⟨rfl, rfl, rfl, fun _ => rfl⟩

theorem SameRouting.trans {r r' r'' : Registry S} (h : SameRouting r r')
    (h' : SameRouting r' r'') : SameRouting r r'' where
  clientStorage := h.clientStorage.trans h'.clientStorage
  groups := h.groups.trans h'.groups
  next := h.next.trans h'.next
  heap c := (h.heap c).trans (h'.heap c)

theorem SameRouting.clientAt {r r' : Registry S} (h : SameRouting r r')
    (addr : SocketAddr) : r.clientAt addr = r'.clientAt addr := by
  rw [Registry.clientAt, h.clientStorage]
  rfl

theorem SameRouting.receivers {r r' : Registry S} (h : SameRouting r r')
    (c : ClientRef) : (r.heap c).receivers = (r'.heap c).receivers :=
  congrArg (fun x => x.2.1) (h.heap c)

theorem SameRouting.isDeleted {r r' : Registry S} (h : SameRouting r r')
    (c : ClientRef) : (r.heap c).isDeleted = (r'.heap c).isDeleted :=
  congrArg (fun x => x.2.2.2) (h.heap c)

/-- An update of a client that does the same to the routing of both. -/
theorem SameRouting.modifyClient {r r' : Registry S} (h : SameRouting r r')
    (c : ClientRef) {f g : Client S → Client S}
    (hf : ∀ cl cl', cl.routing = cl'.routing →
      (f cl).routing = (g cl').routing) :
    SameRouting (r.modifyClient c f) (r'.modifyClient c g) where
  clientStorage := h.clientStorage
  groups := h.groups
  next := h.next
  heap d := by
    rw [modifyClient_heap, modifyClient_heap]
    split
    · exact hf _ _ (h.heap c)
    · exact h.heap d

theorem sameRouting_modifyClient (r : Registry S) (c : ClientRef)
    {f : Client S → Client S} (hf : ∀ cl, (f cl).routing = cl.routing) :
    SameRouting r (r.modifyClient c f) where
  clientStorage := rfl
  groups := rfl
  next := rfl
  heap d := (modifyClient_heap_field Client.routing hf r c d).symm

theorem SameRouting.register {r r' : Registry S} (h : SameRouting r r')
    (addr : SocketAddr) (now : Instant) :
    SameRouting (r.register addr now) (r'.register addr now) := by
  rw [Registry.register, Registry.register, h.clientAt addr]
  cases r'.clientAt addr with
  | some c => exact h
  | none =>
      refine ⟨?_, h.groups, congrArg (· + 1) h.next, fun c => ?_⟩
      · show r.clientStorage.insert addr r.next =
          r'.clientStorage.insert addr r'.next
        rw [h.clientStorage, h.next]
      · show (Function.update r.heap r.next _ c).routing =
          (Function.update r'.heap r'.next _ c).routing
        rw [h.next, Function.update_apply, Function.update_apply]
        split
        · rfl
        · exact h.heap c

theorem SameRouting.setReceivers {r r' : Registry S} (h : SameRouting r r')
    (c : ClientRef) (receivers : Table SocketAddr ClientRef) :
    SameRouting (r.setReceivers c receivers) (r'.setReceivers c receivers) := by
  refine h.modifyClient c fun cl cl' hcl => ?_
  simp only [Client.routing, Prod.mk.injEq] at hcl ⊢
  exact ⟨hcl.1, trivial, hcl.2.2⟩

theorem SameRouting.setSenderAddr {r r' : Registry S} (h : SameRouting r r')
    (c : ClientRef) (addr : SocketAddr) :
    SameRouting (r.setSenderAddr c addr) (r'.setSenderAddr c addr) := by
  refine h.modifyClient c fun cl cl' hcl => ?_
  simp only [Client.routing, Prod.mk.injEq] at hcl ⊢
  exact ⟨hcl.1, hcl.2.1, trivial, hcl.2.2.2⟩

theorem SameRouting.pruneReceivers {r r' : Registry S} (h : SameRouting r r')
    (c : ClientRef) :
    SameRouting (r.pruneReceivers c) (r'.pruneReceivers c) := by
  have hdel : (fun (_ : SocketAddr) recv => !(r.heap recv).isDeleted) =
      fun (_ : SocketAddr) recv => !(r'.heap recv).isDeleted := by
    funext _ recv
    rw [h.isDeleted recv]
  rw [Registry.pruneReceivers, Registry.pruneReceivers, hdel]
  refine h.modifyClient c fun cl cl' hcl => ?_
  simp only [Client.routing, Prod.mk.injEq] at hcl ⊢
  exact ⟨hcl.1, by rw [hcl.2.1], hcl.2.2⟩

theorem SameRouting.setGroup {r r' : Registry S} (h : SameRouting r r')
    (g : Nat) (addr : SocketAddr) (isSender : Bool) :
    SameRouting (r.setGroup g addr isSender) (r'.setGroup g addr isSender) where
  clientStorage := h.clientStorage
  groups := by
    show (r.groups.insertOrGetSender g addr isSender).2 = _
    rw [h.groups]
    rfl
  next := h.next
  heap := h.heap

theorem SameRouting.removeSender {r r' : Registry S} (h : SameRouting r r')
    (addr : SocketAddr) :
    SameRouting { r with groups := r.groups.removeSender addr }
      { r' with groups := r'.groups.removeSender addr } :=
  ⟨h.clientStorage, congrArg (·.removeSender addr) h.groups, h.next, h.heap⟩

theorem SameRouting.eraseClient {r r' : Registry S} (h : SameRouting r r')
    (addr : SocketAddr) :
    SameRouting { r with clientStorage := r.clientStorage.erase addr }
      { r' with clientStorage := r'.clientStorage.erase addr } :=
  ⟨congrArg (AList.erase addr) h.clientStorage, h.groups, h.next, h.heap⟩

theorem SameRouting.join {r r' : Registry S} (h : SameRouting r r')
    (x s : ClientRef) (addr last : SocketAddr) :
    SameRouting (r.join x s addr last) (r'.join x s addr last) := by
  have hset := h.setSenderAddr x last
  rw [Registry.join, Registry.join]
  simp only [hset.receivers s]
  exact hset.setReceivers s _

theorem SameRouting.takeover {r r' : Registry S} (h : SameRouting r r')
    (s : ClientRef) (addr : SocketAddr) :
    SameRouting (r.takeover s addr) (r'.takeover s addr) := by
  have hkept : r.receiversExcept s addr = r'.receiversExcept s addr := by
    rw [receiversExcept, receiversExcept, h.receivers s]
  rw [Registry.takeover, Registry.takeover, hkept]
  refine SameRouting.setReceivers ?_ s _
  generalize (r'.receiversExcept s addr).entries = entries
  clear hkept
  induction entries generalizing r r' with
  | nil => exact h
  | cons e entries ih => exact ih (h.setSenderAddr e.2 addr)

end Registry

/-! ## The counters -/

/-- The numbers a log has of one client at one frequency. -/
def numbersOf (c : ClientRef) (f : UInt32) (log : List Written) :
    List Written :=
  log.filter fun w => w.client = c ∧ w.frequency = f

/-- The counters `rt` gave out the numbers of `log`, and `rt'` is where they
stand now. -/
inductive Replays : ClientRtpRuntime → List Written → ClientRtpRuntime → Prop
  | nil (rt : ClientRtpRuntime) : Replays rt [] rt
  | concat {rt rt' : ClientRtpRuntime} {log : List Written} (w : Written) :
      Replays rt log rt' →
      w.sequence = (rt'.rewrite w.header w.now).runtime.serverSequence →
      w.timestamp = (rt'.rewrite w.header w.now).runtime.serverTs →
      Replays rt (log ++ [w]) (rt'.rewrite w.header w.now).runtime

/-- What the counters of `c` at `f` start from: what is in the registry, or what
a codec table makes. -/
def StartsFrom (r : Registry S) (ms : List (ClientActor.Message S))
    (c : ClientRef) (f : UInt32) (rt : ClientRtpRuntime) : Prop :=
  r.counters c f = some rt ∨
    r.counters c f = none ∧ ∃ addr media now draw,
      .mediaAddr addr media now draw ∈ ms ∧
        rt = ClientRtpRuntime.default now (draw f)

/-- Every number was given out by the counters, one packet after another. -/
structure Serial (r : Registry S) (ms : List (ClientActor.Message S))
    (s : Shared S) : Prop where
  stored_lt : ∀ {a c}, s.registry.clientAt a = some c → c < s.registry.next
  logged_lt : ∀ w ∈ s.written, w.client < s.registry.next
  replays : ∀ c f rt, s.registry.counters c f = some rt →
    ∃ rt₀, StartsFrom r ms c f rt₀ ∧ Replays rt₀ (numbersOf c f s.written) rt
  fresh : ∀ c f, s.registry.counters c f = none →
    r.counters c f = none ∧ numbersOf c f s.written = []
  unmade : ∀ {c}, s.registry.next ≤ c → ∀ f, s.registry.counters c f = none

/-! ## The protocols -/

/-- What `ClientActor` requests under which guards, apart from a takeover. -/
inductive ClientActor.Requests :
    List (Guard ClientLock) → Guard ClientLock → Prop
  | storage : Requests [] (wr .clientStorage)
  | lookup : Requests [] (rd .clientStorage)
  | prune (c : ClientRef) : Requests [] (wr (.receivers c))
  | connected (c : ClientRef) : Requests [] (wr (.srtp c))
  | link (s : ClientRef) : Requests [rd .clientStorage] (wr (.receivers s))
  | senderAddr (s c : ClientRef) :
      Requests [wr (.receivers s), rd .clientStorage] (wr (.senderAddr c))
  | runtimes (c : ClientRef) :
      Requests [rd .clientStorage] (wr (.rtpRuntimeStorage c))
  | media (c : ClientRef) :
      Requests [wr (.rtpRuntimeStorage c), rd .clientStorage] (wr (.media c))

/-- What a thread of `RtcActor` requests under which guards. -/
inductive RtcActor.Requests :
    List (Guard ClientLock) → Guard ClientLock → Prop
  | lookup : Requests [] (rd .clientStorage)
  | codec (c : ClientRef) : Requests [] (rd (.media c))
  | decrypt (c : ClientRef) : Requests [] (wr (.srtp c))
  | counters (c : ClientRef) : Requests [] (wr (.rtpRuntimeStorage c))
  | stats (c : ClientRef) :
      Requests [wr (.rtpRuntimeStorage c)] (wr (.jitterStats c))
  | receivers (c : ClientRef) : Requests [] (rd (.receivers c))
  | encrypt (c d : ClientRef) : Requests [rd (.receivers c)] (wr (.srtp d))
  | payload (c d : ClientRef) : Requests [rd (.receivers c)] (rd (.media d))
  | senderAddr (c : ClientRef) :
      Requests [rd (.receivers c)] (rd (.senderAddr c))
  | sender (c : ClientRef) :
      Requests [rd (.senderAddr c), rd (.receivers c)] (rd .clientStorage)
  | feedback (c d : ClientRef) :
      Requests [rd (.senderAddr c), rd (.receivers c)] (wr (.srtp d))

/-- The counters of `c` are the same. -/
def SameCounters (s s' : Shared S) (c : ClientRef) : Prop :=
  (s'.registry.heap c).rtpRuntimeStorage = (s.registry.heap c).rtpRuntimeStorage

/-- `ClientActor` relies on routing, and touches the counters of the clients it
has made only under their locks. -/
def ClientActor.protocol : Protocol ClientLock (Shared S) where
  may := ClientActor.Requests
  rely _ s s' := s.registry.SameRouting s'.registry
  guar held s s' := s.registry.next ≤ s'.registry.next ∧
    ∀ c, c < s.registry.next → wr (.rtpRuntimeStorage c) ∉ held →
      SameCounters s s' c
  rely_refl _ s := .refl s.registry
  rely_trans h h' := h.trans h'
  rely_mono h := h

/-- `RtcActor` relies on counters it has locked and leaves routing alone. -/
def RtcActor.protocol : Protocol ClientLock (Shared S) where
  may := RtcActor.Requests
  rely held s s' := s.registry.next ≤ s'.registry.next ∧
    ∀ c, c < s.registry.next → wr (.rtpRuntimeStorage c) ∈ held →
      SameCounters s s' c
  guar held s s' := s.registry.SameRouting s'.registry ∧
    ∀ c, wr (.rtpRuntimeStorage c) ∉ held → SameCounters s s' c
  rely_refl _ _ := ⟨Nat.le_refl _, fun _ _ _ => rfl⟩
  rely_trans h h' := ⟨h.1.trans h'.1, fun c hc hheld =>
    (h'.2 c (hc.trans_le h.1) hheld).trans (h.2 c hc hheld)⟩
  rely_mono h := ⟨h.1, fun c hc hheld =>
    h.2 c hc (List.mem_cons_of_mem _ hheld)⟩

/-- The protocol of each thread. -/
def protocols : Nat → Protocol ClientLock (Shared S)
  | 0 => ClientActor.protocol
  | _ + 1 => RtcActor.protocol

theorem compatible_protocols : Pool.Compatible (protocols (S := S)) := by
  intro i j held held' s s' hij hfree hguar
  have hlocked : ∀ c, wr (.rtpRuntimeStorage c) ∈ held →
      wr (.rtpRuntimeStorage c) ∉ held' :=
    fun c h h' => hfree _ h _ h' ⟨rfl, .inl rfl⟩
  cases i with
  | zero =>
      cases j with
      | zero => exact absurd rfl hij
      | succ j => exact hguar.1
  | succ i =>
      cases j with
      | zero =>
          exact ⟨hguar.1, fun c hc hheld => hguar.2 c hc (hlocked c hheld)⟩
      | succ j =>
          exact ⟨Nat.le_of_eq hguar.1.next,
            fun c _ hheld => hguar.2 c (hlocked c hheld)⟩

end RStreamer
