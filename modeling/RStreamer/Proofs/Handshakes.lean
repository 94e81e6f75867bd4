import RStreamer.Client.Metered
import RStreamer.Client.Tasks

/-!
# One handshake per client

Any number of tasks may have read the status `New` of a client before the first
of them gets to `connect`. `connect` takes the stream out of the state it finds
and leaves `Shutdown` there, so whoever comes later finds no stream, and no
code ever puts one back. The argument is a balance: an untouched client is worth
one handshake, so is a handshake under way, and every `connect` that takes a
stream or returns `Ok` has to be paid for (`at_most_one_handshake`).
-/

namespace RStreamer

variable {S : Type}

/-! ## Reports -/

def Report.tookFrom (c : ClientRef) : Report S → Bool
  | .tookStream d => d = c
  | _ => false

/-- The transport of a `connect` of client `c` that returned `Ok`. -/
def Report.transport (c : ClientRef) : Report S → Option (SrtpTransport S)
  | .connectReturned d (.ok t) => if d = c then some t else none
  | _ => none

/-! ## The balance -/

/-- What a state is worth: one handshake, as long as its stream is there. -/
def ClientState.unspent (state : ClientState) : Nat :=
  if state = .new then 1 else 0

def Phase.underWay (phase : Phase) : Nat := if phase = .handshake then 1 else 0

/-- The share of client `c` in what a task of client `d` spends. -/
def share (c d : ClientRef) (n : Nat) : Nat := if c = d then n else 0

theorem Quiet.countP_reports {near : Surroundings} {state : ClientState}
    {c : ClientRef} {phase : Phase} {x : Ready S} {res : Resumed S}
    (h : Quiet near state c phase x res) {p : Report S → Bool}
    (hp : ∀ cause, p (.deleteSent c cause) = false) :
    res.reports.countP p = 0 := by
  rw [List.countP_eq_zero]
  intro report hmem
  obtain ⟨cause, -, rfl⟩ := h.reports_eq report hmem
  rw [hp cause]
  exact Bool.false_ne_true

theorem took_resumeConnect (c d : ClientRef) (state : ClientState)
    (setup : SslSetup) :
    (resumeConnect (S := S) d state setup).reports.countP (Report.tookFrom c) +
        share c d (resumeConnect (S := S) d state setup).state.unspent ≤
      share c d state.unspent := by
  by_cases hcd : c = d <;> cases setup <;> cases state <;>
    simp [resumeConnect, enterConnect, takesStream, share, Report.tookFrom,
      ClientState.unspent, hcd, eq_comm]

theorem took_resume {near : Surroundings} {state : ClientState}
    {d : ClientRef} {phase : Phase} {x : Ready S} {res : Resumed S}
    (h : resume near state d phase x = some res) (c : ClientRef) :
    res.reports.countP (Report.tookFrom c) + share c d res.state.unspent ≤
      share c d state.unspent := by
  rcases resume_cases h with ⟨-, -, setup, rfl⟩ | ⟨-, hs, rfl⟩ | hq
  · exact took_resumeConnect c d state setup
  · cases hs <;> cases state <;>
      simp [resumeHandshake, Handshake.result, Report.tookFrom,
        ClientState.unspent, share]
  · rw [hq.countP_reports fun _ => rfl, hq.state_eq, Nat.zero_add]

theorem ok_resumeConnect (c d : ClientRef) (state : ClientState)
    (setup : SslSetup) :
    (resumeConnect (S := S) d state setup).reports.countP
          (fun r => (r.transport c).isSome) +
        share c d ((resumeConnect (S := S) d state setup).state.unspent +
          (resumeConnect (S := S) d state setup).phase.underWay) ≤
      share c d state.unspent := by
  by_cases hcd : c = d <;> cases setup <;> cases state <;>
    simp [resumeConnect, enterConnect, takesStream, share, Report.transport,
      ClientState.unspent, Phase.underWay, hcd]

theorem ok_resume {near : Surroundings} {state : ClientState}
    {d : ClientRef} {phase : Phase} {x : Ready S} {res : Resumed S}
    (h : resume near state d phase x = some res) (c : ClientRef) :
    res.reports.countP (fun r => (r.transport c).isSome) +
        share c d (res.state.unspent + res.phase.underWay) ≤
      share c d (state.unspent + phase.underWay) := by
  rcases resume_cases h with ⟨rfl, -, setup, rfl⟩ | ⟨rfl, hs, rfl⟩ | hq
  · exact ok_resumeConnect c d state setup
  · by_cases hcd : c = d <;> cases hs <;> cases state <;>
      simp [resumeHandshake, Handshake.result, Report.transport,
        ClientState.unspent, Phase.underWay, share, hcd, eq_comm]
  · rw [hq.countP_reports fun _ => rfl, hq.state_eq, Nat.zero_add,
      Phase.underWay, if_neg hq.no_handshake, Phase.underWay,
      if_neg hq.outside.2]

namespace Tasks

/-- The handshakes client `c` may still begin. -/
def unspent (s : Tasks S) (c : ClientRef) : Nat := (s.state c).unspent

/-- The handshakes client `c` may still end well. -/
def promised (s : Tasks S) (c : ClientRef) : Nat :=
  s.unspent c + s.count (· = .handshake) c

theorem took_step (c : ClientRef) (s : Tasks S) (e : TaskEvent S) :
    (reports s e).countP (Report.tookFrom c) + (step s e).unspent c ≤
      s.unspent c := by
  rcases step_cases s e with ⟨addr, now, rfl⟩ |
    ⟨i, x, t, res, rfl, hpoll, hstep, hrep⟩ | ⟨-, hstate, hrep⟩
  · exact Nat.le_of_eq (Nat.zero_add _)
  · have hres := took_resume (polled_eq_some.mp hpoll).2 c
    rw [hstep, hrep, unspent, unspent, state_resumed]
    by_cases hc : c = t.client
    · simp only [share, hc, if_true] at hres ⊢
      exact hres
    · simp only [share, hc, if_false] at hres ⊢
      omega
  · rw [unspent, unspent, hstate, hrep]
    exact Nat.le_of_eq (Nat.zero_add _)

theorem promised_step (c : ClientRef) (s : Tasks S) (e : TaskEvent S) :
    (reports s e).countP (fun r => (r.transport c).isSome) +
      (step s e).promised c ≤ s.promised c := by
  rcases step_cases s e with ⟨addr, now, rfl⟩ |
    ⟨i, x, t, res, rfl, hpoll, hstep, hrep⟩ | ⟨htasks, hstate, hrep⟩
  · rw [promised, count_datagram s addr now (by rfl)]
    exact Nat.le_of_eq (Nat.zero_add _)
  · obtain ⟨hget, hres⟩ := polled_eq_some.mp hpoll
    have hok := ok_resume hres c
    have hcount := count_resumed hget res (· = .handshake) c
    rw [hstep, hrep, promised, promised, unspent, unspent, state_resumed]
    simp only [decide_eq_true_eq, eq_comm (a := t.client)] at hcount
    by_cases hc : c = t.client
    · simp only [share, Phase.underWay, hc, if_true, true_and] at hok hcount ⊢
      omega
    · simp only [share, hc, if_false, false_and] at hok hcount ⊢
      omega
  · rw [promised, promised, unspent, unspent, hstate, hrep,
      count_of_tasks htasks]
    exact Nat.le_of_eq (Nat.zero_add _)

/-- A stream that has left the state never comes back. -/
theorem new_of_step {s : Tasks S} {e : TaskEvent S} {c : ClientRef}
    (h : (step s e).state c = .new) : s.state c = .new := by
  have hstep := took_step c s e
  simp only [unspent, ClientState.unspent, h, if_true] at hstep
  by_contra hne
  rw [if_neg hne] at hstep
  omega

end Tasks

/-! ## The SRTP context -/

namespace Registry

/-- Two registries with the same clients and the same SRTP contexts. -/
structure SameSessions (r r' : Registry S) : Prop where
  next : r'.next = r.next
  srtp : ∀ c, (r'.heap c).srtp = (r.heap c).srtp

theorem SameStreams.sameSessions {r r' : Registry S} (h : SameStreams r r') :
    SameSessions r r' :=
  ⟨h.next, h.field (fun cl => cl.srtp) fun _ _ _ _ => rfl⟩

theorem sameSessions_mediaAddr (r : Registry S) (addr : SocketAddr)
    (media : MediaList) (now : Instant) (draw : UInt32 → RuntimeDraw) :
    SameSessions r (r.mediaAddr addr media now draw) :=
  ⟨next_mediaAddr r addr media now draw, srtp_mediaAddr r addr media now draw⟩

theorem clientAt_clientFor (r : Registry S) (addr : SocketAddr)
    (now : Instant) :
    (r.register addr now).clientAt addr = some (r.clientFor addr) := by
  rw [clientFor]
  cases h : r.clientAt addr with
  | none => rw [clientAt_register r addr now h, if_pos rfl]; rfl
  | some c => rw [register_of_stored h]; exact h

end Registry

namespace Tasks

open Registry

/-- A task works on a client that exists, and a client that does not exist yet
has no SRTP context. -/
structure Rooted (s : Tasks S) : Prop where
  wf : s.registry.WF
  client_lt : ∀ t ∈ s.tasks, t.client < s.registry.next
  unborn : ∀ c, s.registry.next ≤ c → (s.registry.heap c).srtp = none

theorem rooted_init : Rooted (init : Tasks S) where
  wf := wf_init
  client_lt t h := by cases h
  unborn c _ := rfl

/-- What handles neither a datagram nor a task leaves the sessions alone. -/
theorem sameSessions_step (s : Tasks S) (e : TaskEvent S) :
    (∃ addr now, e = .datagram addr now) ∨
    (∃ i x t res, e = .poll i x ∧ s.polled i x = some (t, res)) ∨
    ((s.registry.WF → (step s e).registry.WF) ∧
      (step s e).tasks = s.tasks ∧ reports s e = [] ∧
      SameSessions s.registry (step s e).registry) := by
  have hsame : SameSessions s.registry s.registry := ⟨rfl, fun _ => rfl⟩
  cases e with
  | datagram addr now => exact .inl ⟨addr, now, rfl⟩
  | poll i x =>
      cases h : s.polled i x with
      | none =>
          have hstep : step s (.poll i x) = s := by simp only [step, h]
          refine .inr (.inr ⟨?_, ?_, by simp only [reports, h], ?_⟩)
          · rw [hstep]; exact id
          · rw [hstep]
          · rw [hstep]; exact hsame
      | some p => exact .inr (.inl ⟨i, x, p.1, p.2, rfl, h⟩)
  | delete =>
      refine .inr (.inr ?_)
      simp only [step]
      cases s.mailbox with
      | nil => exact ⟨id, rfl, rfl, hsame⟩
      | cons m rest =>
          refine ⟨fun hw => hw.handle _, rfl, rfl, ?_⟩
          simp only [ClientActor.handle_delete]
          exact (sameStreams_delete _ _).sameSessions
  | groupId g addr isSender =>
      refine .inr (.inr ⟨fun hw => hw.handle _, rfl, rfl, ?_⟩)
      rw [step, ClientActor.handle_groupId]
      exact (sameStreams_groupId _ _ _ _).sameSessions
  | mediaAddr addr media now draw =>
      refine .inr (.inr ⟨fun hw => hw.handle _, rfl, rfl, ?_⟩)
      rw [step, ClientActor.handle_mediaAddr]
      exact sameSessions_mediaAddr _ _ _ _ _

theorem Rooted.of_sameSessions {s s' : Tasks S} (h : s.Rooted)
    (hwf : s'.registry.WF) (htasks : s'.tasks = s.tasks)
    (hs : SameSessions s.registry s'.registry) : s'.Rooted where
  wf := hwf
  client_lt t ht := by
    rw [htasks] at ht
    rw [hs.next]
    exact h.client_lt t ht
  unborn c hc := by
    rw [hs.next] at hc
    rw [hs.srtp]
    exact h.unborn c hc

theorem Rooted.datagram {s : Tasks S} (h : s.Rooted) (addr : SocketAddr)
    (now : Instant) : (step s (.datagram addr now)).Rooted := by
  have hreg : (step s (.datagram addr now)).registry =
      s.registry.register addr now := ClientActor.handle_dtls _ _ _
  have hwf := h.wf.register addr now
  refine ⟨hreg ▸ hwf, ?_, ?_⟩
  · intro t ht
    rw [hreg]
    rcases List.mem_append.mp ht with hold | hnew
    · exact Nat.lt_of_lt_of_le (h.client_lt t hold)
        (next_le_register s.registry addr now)
    · rw [List.mem_singleton.mp hnew]
      exact hwf.stored_lt (clientAt_clientFor s.registry addr now)
  · intro c hc
    rw [hreg] at hc ⊢
    cases hat : s.registry.clientAt addr with
    | some d =>
        rw [register_of_stored hat] at hc ⊢
        exact h.unborn c hc
    | none =>
        rw [next_register _ addr now hat] at hc
        rw [heap_register _ addr now hat,
          if_neg (Nat.ne_of_gt (Nat.lt_of_succ_le hc))]
        exact h.unborn c (Nat.le_of_succ_le hc)

theorem Rooted.resumed {s : Tasks S} (h : s.Rooted) {i : Nat} {t : Task}
    (ht : s.tasks[i]? = some t) (res : Resumed S) :
    (s.resumed i t res).Rooted := by
  have hlt := h.client_lt t (List.mem_of_getElem? ht)
  have hmem : ∀ t' ∈ (s.resumed i t res).tasks,
      t'.client < s.registry.next := by
    intro t' ht'
    rcases List.mem_or_eq_of_mem_set ht' with hold | hnew
    · exact h.client_lt t' hold
    · rw [hnew]
      exact hlt
  cases hsrtp : res.srtp with
  | none =>
      have hreg : (s.resumed i t res).registry = s.registry := by
        simp only [Tasks.resumed, hsrtp]
      exact ⟨hreg ▸ h.wf, hreg ▸ hmem, hreg ▸ h.unborn⟩
  | some tr =>
      have hreg : (s.resumed i t res).registry =
          s.registry.connected t.client tr := by
        simp only [Tasks.resumed, hsrtp, ClientActor.handle_connected]
      refine ⟨?_, ?_, ?_⟩
      · rw [hreg]
        exact h.wf.of_sameRoutes (sameRoutes_connected _ _ _)
      · rw [hreg]
        exact hmem
      · intro c hc
        rw [hreg] at hc ⊢
        have hne : c ≠ t.client := Nat.ne_of_gt (Nat.lt_of_lt_of_le hlt hc)
        rw [connected, modifyClient_heap_ne _ hne]
        exact h.unborn c hc

theorem Rooted.step {s : Tasks S} (h : s.Rooted) (e : TaskEvent S) :
    (Tasks.step s e).Rooted := by
  rcases sameSessions_step s e with ⟨addr, now, rfl⟩ |
    ⟨i, x, t, res, rfl, hpoll⟩ | ⟨hwf, htasks, -, hs⟩
  · exact h.datagram addr now
  · rw [step_poll hpoll]
    exact h.resumed (polled_eq_some.mp hpoll).1 res
  · exact h.of_sameSessions (hwf h.wf) htasks hs

end Tasks

/-- The transports a task reports are those it stores. -/
theorem transports_resume {near : Surroundings} {state : ClientState}
    {d : ClientRef} {phase : Phase} {x : Ready S} {res : Resumed S}
    (h : resume near state d phase x = some res) (c : ClientRef) :
    res.reports.filterMap (Report.transport c) =
      if d = c then res.srtp.toList else [] := by
  rcases resume_cases h with ⟨-, -, setup, rfl⟩ | ⟨-, hs, rfl⟩ | hq
  · cases setup <;> cases state <;>
      simp [resumeConnect, enterConnect, takesStream, Report.transport]
  · by_cases hdc : d = c <;> cases hs <;>
      simp [resumeHandshake, Handshake.result, Report.transport, hdc]
  · rw [hq.srtp_eq]
    have hnil : res.reports.filterMap (Report.transport c) = [] := by
      rw [List.filterMap_eq_nil_iff]
      intro report hmem
      obtain ⟨cause, -, rfl⟩ := hq.reports_eq report hmem
      rfl
    rw [hnil]
    split <;> rfl

namespace Tasks

open Registry

theorem srtp_resumed (s : Tasks S) (i : Nat) (t : Task) (res : Resumed S)
    (c : ClientRef) : ((s.resumed i t res).registry.heap c).srtp =
      (if t.client = c then res.srtp.toList else []).getLast?.or
        (s.registry.heap c).srtp := by
  cases hsrtp : res.srtp with
  | none =>
      simp only [resumed, hsrtp]
      split <;> rfl
  | some tr =>
      simp only [resumed, hsrtp, ClientActor.handle_connected,
        Registry.connected, modifyClient_heap, eq_comm (a := c)]
      split <;> rfl

theorem srtp_step (c : ClientRef) (s : Tasks S) (e : TaskEvent S)
    (h : s.Rooted) : ((step s e).registry.heap c).srtp =
      ((reports s e).filterMap (Report.transport c)).getLast?.or
        (s.registry.heap c).srtp := by
  rcases sameSessions_step s e with ⟨addr, now, rfl⟩ |
    ⟨i, x, t, res, rfl, hpoll⟩ | ⟨-, -, hrep, hs⟩
  · simp only [step, ClientActor.handle_dtls]
    cases hat : s.registry.clientAt addr with
    | some d => rw [register_of_stored hat]; rfl
    | none =>
        rw [heap_register _ addr now hat]
        split
        · next hc => exact (h.unborn c (Nat.le_of_eq hc.symm)).symm
        · rfl
  · rw [step_poll hpoll, srtp_resumed, reports, hpoll]
    exact congrArg (fun ts => (List.getLast? ts).or _)
      (transports_resume (polled_eq_some.mp hpoll).2 c).symm
  · rw [hrep]
    exact hs.srtp c

/-! ## At most once -/

/-- The transports client `c` was given along a run. -/
def transports (es : List (TaskEvent S)) (c : ClientRef) :
    List (SrtpTransport S) :=
  (log es).filterMap (Report.transport c)

theorem length_transports_le (es : List (TaskEvent S)) (c : ClientRef) :
    (transports es c).length ≤ 1 := by
  rw [transports, List.length_filterMap_eq_countP]
  exact Machine.countP_trace_le (φ := fun s : Tasks S => s.promised c)
    (promised_step c) es init

theorem srtp_after (es : List (TaskEvent S)) (c : ClientRef) :
    ((after es).registry.heap c).srtp = (transports es c).getLast? := by
  have h := Machine.run_eq_getLast? (π := fun s : Tasks S =>
    (s.registry.heap c).srtp) (fun s e (hs : s.Rooted) => hs.step e)
    (fun s e hs => srtp_step c s e hs) es rooted_init
  exact h.trans Option.or_none

/-- In every run of any number of tasks: at most one `connect` takes the stream
of a client, at most one returns `Ok`, a client that has left `New` never
returns to it, and its SRTP context is what the one `connect` that returned `Ok`
returned, if there was one. -/
theorem at_most_one_handshake (es fs : List (TaskEvent S)) (c : ClientRef) :
    (log es).countP (Report.tookFrom c) ≤ 1 ∧ (transports es c).length ≤ 1 ∧
      ((after es).state c ≠ .new → (after (es ++ fs)).state c ≠ .new) ∧
      ((after es).registry.heap c).srtp = (transports es c).head? := by
  have hlen := length_transports_le es c
  have htook := Machine.countP_trace_le (φ := fun s : Tasks S => s.unspent c)
    (took_step c) es init
  refine ⟨htook, hlen, ?_, ?_⟩
  · intro hne
    rw [after, Machine.run, List.foldl_append]
    exact Machine.run_invariant (I := fun s : Tasks S => s.state c ≠ .new)
      (fun s e hs hnew => hs (new_of_step hnew)) fs hne
  · rw [srtp_after]
    rcases hts : transports es c with _ | ⟨t, _ | ⟨t', ts⟩⟩
    · rfl
    · rfl
    · rw [hts, List.length_cons, List.length_cons] at hlen
      omega

end Tasks

end RStreamer
