import RStreamer.Client.Routes
import RStreamer.Lib.Trace

/-!
# The tasks of `ClientActor` (`client/actor.rs`, `dtls/connector.rs`)

Every DTLS datagram spawns a task. It pushes the datagram into the client's
channel, reads the client's status, and then takes part in the handshake, reads
from the connection, or stops; when something fails it asks for the client's
deletion and waits for the answer. Tasks are interleaved at their awaits, so a
task here is the await it is suspended at (`Phase`), and one step resumes one
task and runs it up to its next await (`resume`).

Two locks are held across awaits. `connect` keeps the state locked during the
handshake and `extract_dtls` during the read; a task that could not push keeps
the channel's writer locked until its deletion is answered. Who holds a lock can
be read off the phases, so there is no second record of it. The state is *not*
locked between the status a task reads and the `connect` it calls for it.

`DeleteMessage` names an address. The clients it is meant for and the task that
waits for the answer are kept beside it; the handler reads neither.
-/

namespace RStreamer

/-- `ClientState`, without the streams its variants own. -/
inductive ClientState where
  | new
  | connected
  | shutdown
  deriving DecidableEq, Repr

/-- `ClientStateStatus` -/
inductive ClientStateStatus where
  | new
  | connected
  | shutdown
  deriving DecidableEq, Repr

/-- `ClientState::get_status` -/
def ClientState.getStatus : ClientState → ClientStateStatus
  | .new => .new
  | .connected => .connected
  | .shutdown => .shutdown

/-- `ClientError`, as far as `connect` returns it. -/
inductive ClientError where
  | alreadyConnected
  | wouldBlock
  | timedOut
  | srtpParseError
  | sslErrorStack
  | sslError
  deriving DecidableEq, Repr

/-! ## `connect` -/

/-- How far OpenSSL gets before the handshake: `Ssl::new` and `SslStream::new`
may fail. -/
inductive SslSetup where
  | noSsl
  | noStream
  | ready
  deriving DecidableEq, Repr

/-- How a handshake ends, the export of its keys included. -/
inductive Handshake (S : Type) where
  | timedOut
  | sslError
  | srtpError
  | ok (t : SrtpTransport S)

def Handshake.result {S : Type} : Handshake S →
    Except ClientError (SrtpTransport S)
  | .timedOut => .error .timedOut
  | .sslError => .error .sslError
  | .srtpError => .error .srtpParseError
  | .ok t => .ok t

/-- `connect` from the lock to the handshake: the state it leaves, and the
error if it returns with one. The state is swapped out before it is looked at. -/
def enterConnect (setup : SslSetup) (state : ClientState) :
    ClientState × Option ClientError :=
  if setup = .noSsl then (state, some .sslErrorStack)
  else
    match state with
    | .new =>
        (.shutdown, if setup = .noStream then some .sslErrorStack else none)
    | .connected => (.shutdown, some .alreadyConnected)
    | .shutdown => (.shutdown, some .wouldBlock)

/-- Whether `connect` takes the stream out of the state. -/
def takesStream (setup : SslSetup) (state : ClientState) : Bool :=
  setup ≠ .noSsl ∧ state = .new

/-! ## Tasks -/

/-- Why a task asks for a deletion. -/
inductive Cause where
  | push
  | connect (e : ClientError)
  | zeroRead
  deriving DecidableEq, Repr

/-- The await a task is suspended at. -/
inductive Phase where
  /-- `incoming_writer.lock()`; the channel behind it never makes a task wait. -/
  | push
  /-- `self_addr.send(DeleteMessage(addr))`, before the mailbox takes it. -/
  | deleting (cause : Cause)
  /-- The same, before the answer. -/
  | awaiting (cause : Cause)
  /-- `get_state().lock()`, for the status. -/
  | readStatus
  /-- `get_state().lock()` in `connect`. -/
  | connect
  | handshake
  /-- `get_state().lock()` in `extract_dtls`. -/
  | extract
  | reading
  | done
  deriving DecidableEq, Repr

def Phase.holdsState : Phase → Bool
  | .handshake | .reading => true
  | _ => false

def Phase.holdsWriter : Phase → Bool
  | .deleting .push | .awaiting .push => true
  | _ => false

structure Task where
  client : ClientRef
  addr : SocketAddr
  phase : Phase
  deriving DecidableEq, Repr

/-- What the await of a task gives it. -/
inductive Ready (S : Type) where
  /-- The writer's lock. -/
  | writer
  /-- Room in the mailbox of `ClientActor`. -/
  | sent
  /-- The answer to its `DeleteMessage`. -/
  | answered
  /-- The state's lock, for the status or for a read. -/
  | state
  /-- The state's lock, in `connect`. -/
  | entered (setup : SslSetup)
  | accepted (h : Handshake S)
  /-- The ten milliseconds of a read are over. -/
  | elapsed
  /-- The number of bytes read, or an error. -/
  | read (n : Option Nat)

/-- What a run of tasks tells an observer. -/
inductive Report (S : Type) where
  /-- A `connect` took the stream of a client out of its state. -/
  | tookStream (c : ClientRef)
  | connectReturned (c : ClientRef)
      (result : Except ClientError (SrtpTransport S))
  | deleteSent (c : ClientRef) (cause : Cause)

/-- The client a report is about. -/
def Report.client {S : Type} : Report S → ClientRef
  | .tookStream c => c
  | .connectReturned c _ => c
  | .deleteSent c _ => c

/-- What a resumed task does before its next await. -/
structure Resumed (S : Type) where
  phase : Phase
  state : ClientState
  srtp : Option (SrtpTransport S) := none
  sends : Bool := false
  reports : List (Report S) := []

/-- What a task may find when it is resumed. -/
structure Surroundings where
  writerFree : Bool
  stateFree : Bool
  streamAlive : Bool
  answered : Bool

/-- Where a task goes on when its deletion has been answered. -/
def Cause.next : Cause → Phase
  | .push => .readStatus
  | _ => .done

def statusNext : ClientStateStatus → Phase
  | .new => .connect
  | .connected => .extract
  | .shutdown => .done

variable {S : Type}

/-- `connect`, from its lock to its next await. -/
def resumeConnect (c : ClientRef) (state : ClientState) (setup : SslSetup) :
    Resumed S :=
  let taken := if takesStream setup state then [.tookStream c] else []
  match enterConnect setup state with
  | (state', none) =>
      { phase := .handshake, state := state', reports := taken }
  | (state', some e) =>
      { phase := .deleting (.connect e)
        state := state'
        reports := taken ++ [.connectReturned c (.error e)] }

/-- `connect`, from the end of the handshake, and the code behind it. -/
def resumeHandshake (c : ClientRef) (state : ClientState) (h : Handshake S) :
    Resumed S :=
  match h.result with
  | .ok t =>
      { phase := .done
        state := .connected
        srtp := some t
        reports := [.connectReturned c (.ok t)] }
  | .error e =>
      { phase := .deleting (.connect e)
        state := state
        reports := [.connectReturned c (.error e)] }

/-- One task from one await to the next; `none` while it has to wait. -/
def resume (near : Surroundings) (state : ClientState) (c : ClientRef) :
    Phase → Ready S → Option (Resumed S)
  | .push, .writer =>
      if near.writerFree then
        some {
          phase := if near.streamAlive then .readStatus else .deleting .push
          state := state }
      else none
  | .deleting cause, .sent =>
      some {
        phase := .awaiting cause
        state := state
        sends := true
        reports := [.deleteSent c cause] }
  | .awaiting cause, .answered =>
      if near.answered then some { phase := cause.next, state := state }
      else none
  | .readStatus, .state =>
      if near.stateFree then
        some { phase := statusNext state.getStatus, state := state }
      else none
  | .connect, .entered setup =>
      if near.stateFree then some (resumeConnect c state setup) else none
  | .handshake, .accepted h => some (resumeHandshake c state h)
  | .extract, .state =>
      if near.stateFree then
        some {
          phase := if state = .connected then .reading else .done
          state := state }
      else none
  | .extract, .elapsed => some { phase := .done, state := state }
  | .reading, .elapsed => some { phase := .done, state := state }
  | .reading, .read n =>
      some {
        phase := if n = some 0 then .deleting .zeroRead else .done
        state := state }
  | _, _ => none

/-! ## All tasks together -/

/-- A `DeleteMessage` in the mailbox of `ClientActor`, with the task that waits
for its answer and the client that task works on. -/
structure PendingDelete where
  addr : SocketAddr
  task : Nat
  client : ClientRef
  deriving DecidableEq, Repr

structure Tasks (S : Type) where
  registry : Registry S
  state : ClientRef → ClientState
  tasks : List Task
  mailbox : List PendingDelete

namespace Tasks

/-- A client nobody has made yet is as `Client::default` makes it. -/
def init : Tasks S := ⟨Registry.init, fun _ => .new, [], []⟩

/-- How many tasks of client `c` are in a phase with `p`. -/
def count (s : Tasks S) (p : Phase → Bool) (c : ClientRef) : Nat :=
  s.tasks.countP fun t => t.client = c && p t.phase

def stateFree (s : Tasks S) (c : ClientRef) : Bool :=
  s.count Phase.holdsState c = 0

/-- The receiving end of a client's channel is in its state or in the hands of
its handshake. -/
def streamAlive (s : Tasks S) (c : ClientRef) : Bool :=
  s.state c ≠ .shutdown ∨ s.count (· = .handshake) c ≠ 0

def surroundings (s : Tasks S) (i : Nat) (c : ClientRef) : Surroundings where
  writerFree := s.count Phase.holdsWriter c = 0
  stateFree := s.stateFree c
  streamAlive := s.streamAlive c
  answered := s.mailbox.all fun m => m.task ≠ i

def polled (s : Tasks S) (i : Nat) (x : Ready S) :
    Option (Task × Resumed S) :=
  s.tasks[i]?.bind fun t =>
    (resume (s.surroundings i t.client) (s.state t.client) t.client t.phase
      x).map fun res => (t, res)

/-- The state after task `i`, which was `t`, has been resumed. -/
def resumed (s : Tasks S) (i : Nat) (t : Task) (res : Resumed S) :
    Tasks S where
  registry :=
    match res.srtp with
    | none => s.registry
    | some tr => ClientActor.handle s.registry (.connected t.client tr)
  state := Function.update s.state t.client res.state
  tasks := s.tasks.set i { t with phase := res.phase }
  mailbox :=
    if res.sends then s.mailbox ++ [⟨t.addr, i, t.client⟩] else s.mailbox

end Tasks

/-- The client stored at an address, or the one made for it. -/
def Registry.clientFor (r : Registry S) (addr : SocketAddr) : ClientRef :=
  (r.clientAt addr).getD r.next

/-- What happens next: `ClientActor` handles a message, or one of its tasks is
resumed. -/
inductive TaskEvent (S : Type) where
  | datagram (addr : SocketAddr) (now : Instant)
  | poll (i : Nat) (x : Ready S)
  /-- `ClientActor` handles its next `DeleteMessage`. -/
  | delete
  | groupId (groupId : Nat) (addr : SocketAddr) (isSender : Bool)
  | mediaAddr (addr : SocketAddr) (media : MediaList) (now : Instant)
      (draw : UInt32 → RuntimeDraw)

namespace Tasks

def step (s : Tasks S) : TaskEvent S → Tasks S
  | .datagram addr now =>
      { s with
        registry := ClientActor.handle s.registry (.dtls addr now)
        tasks := s.tasks ++ [⟨s.registry.clientFor addr, addr, .push⟩] }
  | .poll i x =>
      match s.polled i x with
      | none => s
      | some (t, res) => s.resumed i t res
  | .delete =>
      match s.mailbox with
      | [] => s
      | m :: rest =>
          { s with
            registry := ClientActor.handle s.registry (.delete m.addr)
            mailbox := rest }
  | .groupId g addr isSender =>
      { s with
        registry := ClientActor.handle s.registry (.groupId g addr isSender) }
  | .mediaAddr addr media now draw =>
      { s with
        registry :=
          ClientActor.handle s.registry (.mediaAddr addr media now draw) }

def reports (s : Tasks S) : TaskEvent S → List (Report S)
  | .poll i x =>
      match s.polled i x with
      | none => []
      | some (_, res) => res.reports
  | _ => []

def after (es : List (TaskEvent S)) : Tasks S := Machine.run step init es

/-- Everything a run of tasks reports. -/
def log (es : List (TaskEvent S)) : List (Report S) :=
  Machine.trace step reports init es

end Tasks

/-! ## What a step can do -/

/-- A resumed task that is neither at the lock of `connect` nor in its
handshake: what it leaves alone, and how it can get to the phases that
matter. -/
structure Quiet (near : Surroundings) (state : ClientState) (c : ClientRef)
    (phase : Phase) (x : Ready S) (res : Resumed S) : Prop where
  state_eq : res.state = state
  srtp_eq : res.srtp = none
  outside : phase ≠ .connect ∧ phase ≠ .handshake
  no_handshake : res.phase ≠ .handshake
  to_connect : res.phase = .connect → x = .state ∧ phase = .readStatus ∧
    state = .new ∧ near.stateFree = true
  to_reading : res.phase = .reading → near.stateFree = true
  to_deleting : ∀ e, res.phase ≠ .deleting (.connect e)
  to_awaiting : ∀ cause, res.phase = .awaiting cause → phase = .deleting cause
  to_mailbox : res.sends = true → x = .sent ∧ ∃ cause, phase = .deleting cause
  reports_eq : ∀ report ∈ res.reports,
    ∃ cause, phase = .deleting cause ∧ report = .deleteSent c cause

theorem quiet_of_next {near : Surroundings} {state : ClientState}
    {c : ClientRef} {phase next : Phase} {x : Ready S}
    (hphase : phase ≠ .connect ∧ phase ≠ .handshake)
    (hnext : next ∈ [.readStatus, .extract, .done, .deleting .push,
        .deleting .zeroRead] ∨
      next = .connect ∧ x = .state ∧ phase = .readStatus ∧ state = .new ∧
        near.stateFree = true ∨
      next = .reading ∧ near.stateFree = true) :
    Quiet near state c phase x { phase := next, state := state } where
  state_eq := rfl
  srtp_eq := rfl
  outside := hphase
  no_handshake := by
    rintro rfl
    simp at hnext
  to_connect := by
    rintro rfl
    simpa using hnext
  to_reading := by
    rintro rfl
    simpa using hnext
  to_deleting := by
    rintro e rfl
    simp at hnext
  to_awaiting := by
    rintro cause rfl
    simp at hnext
  to_mailbox := by simp
  reports_eq := by simp

/-- The three ways a task goes on. -/
theorem resume_cases {near : Surroundings} {state : ClientState}
    {c : ClientRef} {phase : Phase} {x : Ready S} {res : Resumed S}
    (h : resume near state c phase x = some res) :
    (phase = .connect ∧ near.stateFree = true ∧
      ∃ setup, res = resumeConnect c state setup) ∨
    (phase = .handshake ∧ ∃ hs, res = resumeHandshake c state hs) ∨
    Quiet near state c phase x res := by
  revert h
  fun_cases resume near state c phase x with
  | case1 =>
      rintro ⟨⟩
      refine .inr (.inr (quiet_of_next (by simp) (.inl ?_)))
      split <;> simp
  | case3 cause =>
      rintro ⟨⟩
      exact .inr (.inr ⟨rfl, rfl, by simp, by simp, by simp, by simp, by simp,
        by simp, by simp, by simp⟩)
  | case4 cause =>
      rintro ⟨⟩
      refine .inr (.inr (quiet_of_next (by simp) (.inl ?_)))
      cases cause <;> simp [Cause.next]
  | case6 hfree =>
      rintro ⟨⟩
      refine .inr (.inr (quiet_of_next (by simp) ?_))
      cases state <;> simp [ClientState.getStatus, statusNext, hfree]
  | case8 setup hfree =>
      rintro ⟨⟩
      exact .inl ⟨rfl, hfree, setup, rfl⟩
  | case10 hs =>
      rintro ⟨⟩
      exact .inr (.inl ⟨rfl, hs, rfl⟩)
  | case11 hfree =>
      rintro ⟨⟩
      refine .inr (.inr (quiet_of_next (by simp) ?_))
      split <;> simp [hfree]
  | case13 =>
      rintro ⟨⟩
      exact .inr (.inr (quiet_of_next (by simp) (.inl (by simp))))
  | case14 =>
      rintro ⟨⟩
      exact .inr (.inr (quiet_of_next (by simp) (.inl (by simp))))
  | case15 n =>
      rintro ⟨⟩
      refine .inr (.inr (quiet_of_next (by simp) (.inl ?_)))
      split <;> simp
  | _ => rintro ⟨⟩

/-- A task reports about its own client. -/
theorem client_reports {near : Surroundings} {state : ClientState}
    {c : ClientRef} {phase : Phase} {x : Ready S} {res : Resumed S}
    (h : resume near state c phase x = some res) :
    ∀ report ∈ res.reports, report.client = c := by
  rcases resume_cases h with ⟨-, -, setup, rfl⟩ | ⟨-, hs, rfl⟩ | hq
  · cases setup <;> cases state <;>
      simp [resumeConnect, enterConnect, takesStream, Report.client]
  · cases hs <;> simp [resumeHandshake, Handshake.result, Report.client]
  · intro report hmem
    obtain ⟨cause, -, rfl⟩ := hq.reports_eq report hmem
    rfl

theorem sends_resume {near : Surroundings} {state : ClientState}
    {c : ClientRef} {phase : Phase} {x : Ready S} {res : Resumed S}
    (h : resume near state c phase x = some res) (hsends : res.sends = true) :
    x = .sent ∧ ∃ cause, phase = .deleting cause := by
  rcases resume_cases h with ⟨-, -, setup, rfl⟩ | ⟨-, hs, rfl⟩ | hq
  · cases setup <;> cases state <;> cases hsends
  · cases hs <;> cases hsends
  · exact hq.to_mailbox hsends

namespace Tasks

theorem polled_eq_some {s : Tasks S} {i : Nat} {x : Ready S} {t : Task}
    {res : Resumed S} : s.polled i x = some (t, res) ↔
      s.tasks[i]? = some t ∧
        resume (s.surroundings i t.client) (s.state t.client) t.client t.phase
          x = some res := by
  rw [polled, Option.bind_eq_some_iff]
  refine ⟨?_, ?_⟩
  · rintro ⟨t', ht', hx⟩
    obtain ⟨res', hres, heq⟩ := Option.map_eq_some_iff.mp hx
    cases heq
    exact ⟨ht', hres⟩
  · rintro ⟨ht, hres⟩
    exact ⟨t, ht, by rw [hres]; rfl⟩

/-- An event spawns a task, resumes one, or leaves the tasks and the states
alone and reports nothing. -/
theorem step_cases (s : Tasks S) (e : TaskEvent S) :
    (∃ addr now, e = .datagram addr now) ∨
    (∃ i x t res, e = .poll i x ∧ s.polled i x = some (t, res) ∧
      step s e = s.resumed i t res ∧ reports s e = res.reports) ∨
    ((step s e).tasks = s.tasks ∧ (step s e).state = s.state ∧
      reports s e = []) := by
  cases e with
  | datagram addr now => exact .inl ⟨addr, now, rfl⟩
  | poll i x =>
      cases h : s.polled i x with
      | none => exact .inr (.inr (by simp [step, reports, h]))
      | some p =>
          obtain ⟨t, res⟩ := p
          exact .inr (.inl ⟨i, x, t, res, rfl, h, by simp [step, h],
            by simp [reports, h]⟩)
  | delete =>
      refine .inr (.inr ?_)
      simp only [step]
      cases s.mailbox <;> exact ⟨rfl, rfl, rfl⟩
  | groupId g addr isSender => exact .inr (.inr ⟨rfl, rfl, rfl⟩)
  | mediaAddr addr media now draw => exact .inr (.inr ⟨rfl, rfl, rfl⟩)

theorem step_poll {s : Tasks S} {i : Nat} {x : Ready S} {t : Task}
    {res : Resumed S} (h : s.polled i x = some (t, res)) :
    step s (.poll i x) = s.resumed i t res := by
  simp only [step, h]

theorem state_resumed (s : Tasks S) (i : Nat) (t : Task) (res : Resumed S)
    (c : ClientRef) : (s.resumed i t res).state c =
      if c = t.client then res.state else s.state c := by
  simp only [resumed, Function.update_apply]

theorem getElem?_resumed_self {s : Tasks S} {i : Nat} {t : Task}
    (ht : s.tasks[i]? = some t) (res : Resumed S) :
    (s.resumed i t res).tasks[i]? = some { t with phase := res.phase } := by
  obtain ⟨hi, -⟩ := List.getElem?_eq_some_iff.mp ht
  exact List.getElem?_set_self hi

theorem getElem?_resumed_ne {s : Tasks S} {i j : Nat} (h : i ≠ j) (t : Task)
    (res : Resumed S) : (s.resumed i t res).tasks[j]? = s.tasks[j]? :=
  List.getElem?_set_ne h

/-- Resuming a task takes it out of one phase and into another. -/
theorem count_resumed {s : Tasks S} {i : Nat} {t : Task}
    (ht : s.tasks[i]? = some t) (res : Resumed S) (p : Phase → Bool)
    (c : ClientRef) :
    (s.resumed i t res).count p c +
        (if t.client = c ∧ p t.phase = true then 1 else 0) =
      s.count p c +
        (if t.client = c ∧ p res.phase = true then 1 else 0) := by
  obtain ⟨hi, rfl⟩ := List.getElem?_eq_some_iff.mp ht
  have hle : (if s.tasks[i].client = c ∧ p s.tasks[i].phase = true then 1
      else 0) ≤ s.count p c := by
    split
    · next h =>
        refine List.one_le_countP_iff.mpr ⟨_, List.getElem_mem hi, ?_⟩
        simpa using h
    · omega
  rw [count] at hle
  simp only [count, resumed, List.countP_set hi, Bool.and_eq_true,
    decide_eq_true_eq]
  omega

theorem count_datagram (s : Tasks S) (addr : SocketAddr) (now : Instant)
    {p : Phase → Bool} (hp : p .push = false) (c : ClientRef) :
    (step s (.datagram addr now)).count p c = s.count p c := by
  simp [step, count, List.countP_append, hp]

theorem count_of_tasks {s s' : Tasks S} (h : s'.tasks = s.tasks)
    (p : Phase → Bool) (c : ClientRef) : s'.count p c = s.count p c := by
  rw [count, h, count]

end Tasks

end RStreamer
