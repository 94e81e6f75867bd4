import Mathlib.Logic.Relation
import RStreamer.Proofs.Components
import RStreamer.Proofs.Handshakes
import RStreamer.Proofs.Transparency

/-!
# Media under the keys of handshakes

A client gets its SRTP sessions from `connect` and from nowhere else. What
`RtcActor` does to them afterwards is to protect packets and to unprotect packets,
so the sessions a packet is decrypted with or encrypted with are those of a
handshake, some packets later. In every run, for every media datagram: it was
taken out of its packet under the keys of the only handshake of the client it came
from, and put into the datagram under the keys of the only handshake of the client
it goes to (`Server.media_under_handshake_keys`). A client that has not come
through its handshake neither gives media to the server nor gets any.
-/

namespace RStreamer

/-! ## Sessions and packets -/

namespace SrtpTransport

variable {S : Type}

/-- What one packet does to a transport. -/
def Uses (lib : SrtpLib S) (t t' : SrtpTransport S) : Prop :=
  ∃ rtcp buf, t' = (t.protect lib rtcp buf).1 ∨
    t' = (t.unprotect lib rtcp buf).1

/-- `t'` is `t` some packets later. -/
def Later (lib : SrtpLib S) : SrtpTransport S → SrtpTransport S → Prop :=
  Relation.ReflTransGen (Uses lib)

end SrtpTransport

namespace Registry

variable {S : Type} {lib : SrtpLib S} {r r' r'' : Registry S}

/-- Every transport of `r'` is one of `r`, of the same client, some packets
later. -/
def LaterSessions (lib : SrtpLib S) (r r' : Registry S) : Prop :=
  ∀ c t', (r'.heap c).srtp = some t' →
    ∃ t, (r.heap c).srtp = some t ∧ t.Later lib t'

theorem laterSessions_of_eq
    (h : ∀ c, (r'.heap c).srtp = (r.heap c).srtp) : LaterSessions lib r r' :=
  fun c t' ht' => ⟨t', (h c).symm.trans ht', .refl⟩

theorem LaterSessions.trans (h : LaterSessions lib r r')
    (h' : LaterSessions lib r' r'') : LaterSessions lib r r'' := by
  intro c t'' ht''
  obtain ⟨t', ht', hlater'⟩ := h' c t'' ht''
  obtain ⟨t, ht, hlater⟩ := h c t' ht'
  exact ⟨t, ht, hlater.trans hlater'⟩

theorem laterSessions_setSrtp (lib : SrtpLib S) {c : ClientRef}
    {t t' : SrtpTransport S} (ht : (r.heap c).srtp = some t)
    (huses : t.Uses lib t') :
    LaterSessions lib r
      (r.modifyClient c fun cl => { cl with srtp := some t' }) := by
  intro d u hu
  rw [modifyClient_heap] at hu
  split at hu
  · next hd =>
      cases hu
      exact ⟨t, hd ▸ ht, .single huses⟩
  · exact ⟨u, hu, .refl⟩

end Registry

namespace RtcActor

open Registry

variable {S : Type}

theorem later_sendTo (lib : SrtpLib S) (addr : SocketAddr) (p : Prepared)
    (r : Registry S) (recv : Receiver) :
    LaterSessions lib r (sendTo lib addr p r recv).1 := by
  rw [sendTo]
  cases ht : (r.heap recv.2).srtp with
  | none => exact laterSessions_of_eq fun _ => rfl
  | some t =>
      have hset := laterSessions_setSrtp lib ht
        ⟨p.rtcp, p.message, .inl rfl⟩
      simp only []
      split
      · exact hset
      · exact hset

theorem later_fanOut (lib : SrtpLib S) (addr : SocketAddr) (p : Prepared)
    (r : Registry S) (c : ClientRef) (sched : List Receiver) :
    LaterSessions lib r (fanOut lib addr p r c sched).registry := by
  have hstep : ∀ s, LaterSessions lib r s → ∀ x ∈ liveReceivers r c,
      LaterSessions lib r (sendTo lib addr p s x).1 ∧ True := by
    intro s hs x _
    exact ⟨hs.trans (later_sendTo lib addr p s x), trivial⟩
  exact (ParIter.tryForEach_invariant (R := fun _ _ => True) hstep
    (laterSessions_of_eq fun _ => rfl) sched).1

theorem later_sendUpstream (lib : SrtpLib S) (p : Prepared) (r : Registry S)
    (c : ClientRef) : LaterSessions lib r (sendUpstream lib p r c).registry := by
  have hsame : LaterSessions lib r r := laterSessions_of_eq fun _ => rfl
  rw [sendUpstream]
  split
  · exact hsame
  · split
    · exact hsame
    · split
      · exact hsame
      · next t ht =>
          have hset := laterSessions_setSrtp lib ht
            ⟨true, p.message, .inl rfl⟩
          simp only []
          split
          · exact hset
          · exact hset

theorem later_forward (lib : SrtpLib S) (addr : SocketAddr) (p : Prepared)
    (r : Registry S) (c : ClientRef) (sched : List Receiver) :
    LaterSessions lib r (forward lib addr p r c sched).registry := by
  rw [forward]
  split
  · exact later_sendUpstream lib p r c
  · exact later_fanOut lib addr p r c sched

theorem later_handleRtp (lib : SrtpLib S) (r : Registry S) (now : Instant)
    (sched : List Receiver) (addr : SocketAddr) (c : ClientRef)
    (p : Prepared) :
    LaterSessions lib r (handleRtp lib r now sched addr c p).registry := by
  rw [handleRtp]
  split
  · exact laterSessions_of_eq fun _ => rfl
  · next f rt _ =>
      have hcounters : ∀ rw v, LaterSessions lib r
          (updateCounters r c f rw v now) := by
        intro rw v
        refine laterSessions_of_eq fun d => ?_
        apply modifyClient_heap_field fun cl => cl.srtp
        intro cl
        rfl
      exact (hcounters _ _).trans (later_forward lib addr _ _ c sched)

theorem later_process (lib : SrtpLib S) (r : Registry S) (now : Instant)
    (sched : List Receiver) (message : DataPacket) (addr : SocketAddr)
    (c : ClientRef) (rtcp : Bool) (header : RtpHeader) :
    LaterSessions lib r
      (process lib r now sched message addr c rtcp header).registry := by
  rw [process]
  cases ht : (r.heap c).srtp with
  | none => exact laterSessions_of_eq fun _ => rfl
  | some t =>
      have hset := laterSessions_setSrtp lib ht
        ⟨rtcp, message, .inr rfl⟩
      simp only []
      split
      · exact hset
      · split
        · exact hset.trans (later_forward lib addr _ _ c sched)
        · split
          · exact hset
          · exact hset.trans (later_handleRtp lib _ now sched addr c _)

/-- A packet uses sessions; it makes none and gives none to another client. -/
theorem later_handle (lib : SrtpLib S) (r : Registry S) (now : Instant)
    (sched : List Receiver) (message : DataPacket) (addr : SocketAddr) :
    LaterSessions lib r
      (handle lib r now sched message addr).registry := by
  have hsame : LaterSessions lib r r := laterSessions_of_eq fun _ => rfl
  rw [handle]
  split
  · exact hsame
  · split
    · exact later_process lib r now sched message addr _ _ _
    · exact hsame
    · exact hsame

end RtcActor

/-! ## Sessions and handshakes -/

theorem Report.transport_eq_some {S : Type} {c : ClientRef}
    {report : Report S} {t : SrtpTransport S} :
    report.transport c = some t ↔ report = .connectReturned c (.ok t) := by
  unfold Report.transport
  split
  · next d t' =>
      simp only [Option.ite_none_right_eq_some, Option.some.injEq,
        Report.connectReturned.injEq, Except.ok.injEq]
  · next hnot =>
      refine iff_of_false (by simp) ?_
      exact fun heq => hnot _ _ heq

/-- A session of a client is there before an event of its tasks, or the event is
the end of its handshake. -/
theorem Tasks.srtp_of_step {S : Type} {s : Tasks S} {e : TaskEvent S}
    {c : ClientRef} {t : SrtpTransport S}
    (h : ((s.step e).registry.heap c).srtp = some t) :
    (s.registry.heap c).srtp = some t ∨
      .connectReturned c (.ok t) ∈ s.reports e := by
  rcases sameSessions_step s e with ⟨addr, now, rfl⟩ |
    ⟨i, x, d, res, rfl, hpoll⟩ | ⟨-, -, -, hs⟩
  · simp only [step, ClientActor.handle_dtls] at h
    cases hat : s.registry.clientAt addr with
    | some d => rw [Registry.register_of_stored hat] at h; exact .inl h
    | none =>
        rw [Registry.heap_register _ addr now hat] at h
        split at h
        · cases h
        · exact .inl h
  · rw [step_poll hpoll, srtp_resumed] at h
    have htransports := transports_resume (polled_eq_some.mp hpoll).2 c
    rw [← htransports] at h
    rcases Option.or_eq_some_iff.mp h with hnew | ⟨-, hold⟩
    · refine .inr ?_
      obtain ⟨report, hmem, hreport⟩ :=
        List.mem_filterMap.mp (List.mem_of_getLast? hnew)
      rw [reports, hpoll]
      exact Report.transport_eq_some.mp hreport ▸ hmem
    · exact .inl hold
  · exact .inl ((hs.srtp c).symm.trans h)

namespace Server

variable {S M : Type}

/-- What the tasks report at an event. -/
def reports (s : Server S) (e : ServerEvent S) : List (Report S) :=
  (s.taskEvents e).flatMap s.clients.reports

theorem reports_of_agree {s t : Tasks S} (h : s.Agree t) (e : TaskEvent S) :
    s.reports e = t.reports e := by
  cases e with
  | poll i x => rw [Tasks.reports, Tasks.reports, h.polled]
  | _ => rfl

/-- The tasks of a run of the server report what they do in a run of their
own. -/
theorem history_reports (host : Host S M) (es : List (ServerEvent S)) :
    history host reports es = Tasks.log (history host taskEvents es) := by
  refine Machine.trace_simulates (simulates_step
    (R := fun (s : Server S) (t : Tasks S) => s.clients.Agree t)
    (agree_act host)) ?_ es ⟨.refl _, rfl, rfl, rfl⟩
  intro s t e h
  rw [whenAllowed, whenAllowed]
  split
  · show (s.taskEvents e).flatMap s.clients.reports = _
    rw [taskEvents]
    cases s.taskEvent e with
    | none => rfl
    | some x =>
        show s.clients.reports x ++ [] = t.reports x ++ []
        rw [reports_of_agree h]
  · rfl

/-- The packet `p` from `a`, decrypted with a transport of `a`, changed in its two
counters at most, and encrypted for `b` with a transport of `b`. -/
structure Reencryption (lib : SrtpLib S)
    (keys : SocketAddr → SrtpTransport S → Prop) (a : SocketAddr)
    (p : DataPacket) (b : SocketAddr) (packet : DataPacket)
    extends Recoding lib p packet where
  inbound_keys : keys a inbound
  outbound_keys : keys b outbound

/-- `t` goes back to a handshake of client `c`. -/
def ShakenBy (host : Host S M) (log : List (Report S)) (c : ClientRef)
    (t : SrtpTransport S) : Prop :=
  ∃ t₀, .connectReturned c (.ok t₀) ∈ log ∧ t₀.Later host.srtp t

def ShakenAt (host : Host S M) (log : List (Report S))
    (streams : ClientRef → Option SocketAddr) (addr : SocketAddr)
    (t : SrtpTransport S) : Prop :=
  ∃ c, streams c = some addr ∧ ShakenBy host log c t

/-- The invariant: every session goes back to a handshake. -/
structure Keyed (host : Host S M) (past : List (ServerEvent S))
    (log : List (Report S)) (s : Server S) : Prop where
  accounted : Accounted host past s
  sessions : ∀ {c t}, (s.clients.registry.heap c).srtp = some t →
    ShakenBy host log c t

theorem keyed_init (host : Host S M) : Keyed host [] [] (init : Server S) where
  accounted := accounted_init host
  sessions h := by cases h

section Keyed

variable {host : Host S M} {past past' : List (ServerEvent S)}
  {log log' : List (Report S)} {s : Server S}

theorem ShakenBy.mono (hsub : log ⊆ log') {c : ClientRef}
    {t : SrtpTransport S} (h : ShakenBy host log c t) :
    ShakenBy host log' c t := by
  obtain ⟨t₀, hmem, hlater⟩ := h
  exact ⟨t₀, hsub hmem, hlater⟩

theorem ShakenAt.mono (hsub : log ⊆ log')
    {streams streams' : ClientRef → Option SocketAddr}
    (hstreams : ∀ c a, streams c = some a → streams' c = some a)
    {addr : SocketAddr} {t : SrtpTransport S}
    (h : ShakenAt host log streams addr t) :
    ShakenAt host log' streams' addr t := by
  obtain ⟨c, hc, hshaken⟩ := h
  exact ⟨c, hstreams c addr hc, hshaken.mono hsub⟩

/-- The sessions after an event: those before it, some packets later, and that
of a handshake that ends with it. -/
theorem sessions_act {e : ServerEvent S} {c : ClientRef}
    {t : SrtpTransport S}
    (h : ((s.act host e).clients.registry.heap c).srtp = some t) :
    (∃ t₀, (s.clients.registry.heap c).srtp = some t₀ ∧
      t₀.Later host.srtp t) ∨ .connectReturned c (.ok t) ∈ s.reports e := by
  have hclients : (∀ i now sched, e ≠ .rtc i now sched) →
      (s.clients.registry.heap c).srtp = some t ∨
        .connectReturned c (.ok t) ∈ s.reports e := by
    intro hne
    rw [clients_act host s e hne, taskEvents] at h
    rw [reports, taskEvents]
    cases hx : s.taskEvent e with
    | none => rw [hx] at h; exact .inl h
    | some x =>
        rw [hx] at h
        refine (Tasks.srtp_of_step h).imp id fun hmem => ?_
        exact List.mem_flatMap.mpr ⟨x, List.mem_singleton_self x, hmem⟩
  cases e with
  | rtc i now sched =>
      rw [clients_rtc] at h
      split at h
      · exact .inl ⟨t, h, .refl⟩
      · exact .inl (RtcActor.later_handle host.srtp _ now sched _ _ c t h)
  | _ =>
      refine (hclients fun _ _ _ => ?_).imp (fun hold => ⟨t, hold, .refl⟩) id
      simp

theorem Keyed.shakenAt (h : Keyed host past log s) {addr : SocketAddr}
    {c : ClientRef} {t : SrtpTransport S}
    (hat : s.clients.registry.clientAt addr = some c)
    (ht : (s.clients.registry.heap c).srtp = some t) :
    ShakenAt host log s.streams addr t :=
  ⟨c, h.accounted.grouped.stored hat, h.sessions ht⟩

theorem Keyed.act (h : Keyed host past log s) {e : ServerEvent S} :
    Keyed host (past ++ [e]) (log ++ s.reports e) (s.act host e) := by
  have hpast : past ⊆ past ++ [e] := List.subset_append_left _ _
  refine ⟨?_, ?_⟩
  · exact (h.accounted.mono hpast).act
      (List.mem_append_right _ (List.mem_singleton_self e))
  · intro c t ht
    rcases sessions_act ht with ⟨t', ht', hlater⟩ | hmem
    · obtain ⟨t₀, hmem, hbefore⟩ := h.sessions ht'
      exact ⟨t₀, List.mem_append_left _ hmem, hbefore.trans hlater⟩
    · exact ⟨t, List.mem_append_right _ hmem, .refl⟩

theorem Keyed.step (h : Keyed host past log s) (e : ServerEvent S) :
    Keyed host (past ++ [e]) (log ++ whenAllowed reports s e)
      (s.step host e) := by
  rw [Server.step, whenAllowed]
  split
  · exact h.act
  · rw [List.append_nil]
    exact ⟨h.accounted.mono (List.subset_append_left _ _), h.sessions⟩

end Keyed

theorem keyed_after (host : Host S M) (es : List (ServerEvent S)) :
    Keyed host es (history host reports es) (after host es) :=
  Machine.trace_invariant (keyed_init host) (fun _ _ _ e h => h.step e) es

/-! ## The keys of a run -/

/-- `t` has the keys of the only handshake that the client at `addr` came
through. -/
def KeysOf (host : Host S M) (es : List (ServerEvent S)) (addr : SocketAddr)
    (t : SrtpTransport S) : Prop :=
  ∃ c t₀, (after host es).streams c = some addr ∧
    Tasks.transports (history host taskEvents es) c = [t₀] ∧
    t₀.Later host.srtp t

theorem keysOf_of_shakenAt {host : Host S M} {es : List (ServerEvent S)}
    {addr : SocketAddr} {t : SrtpTransport S}
    (h : ShakenAt host (history host reports es) (after host es).streams addr
      t) : KeysOf host es addr t := by
  obtain ⟨c, hc, t₀, hmem, hlater⟩ := h
  rw [history_reports] at hmem
  refine ⟨c, t₀, hc, ?_, hlater⟩
  have hone := Tasks.length_transports_le (history host taskEvents es) c
  have hin : t₀ ∈ Tasks.transports (history host taskEvents es) c :=
    List.mem_filterMap.mpr ⟨_, hmem, Report.transport_eq_some.mpr rfl⟩
  rcases hts : Tasks.transports (history host taskEvents es) c with
    _ | ⟨t', _ | ⟨t'', rest⟩⟩
  · rw [hts] at hin; cases hin
  · rw [hts] at hin; rw [List.mem_singleton.mp hin]
  · rw [hts, List.length_cons, List.length_cons] at hone
    omega

/-- Keys that a client has at some point of a run are its keys in the run. -/
theorem keysOf_append {host : Host S M} {pre : List (ServerEvent S)}
    {addr : SocketAddr} {c : ClientRef} {t : SrtpTransport S}
    (hat : (after host pre).clients.registry.clientAt addr = some c)
    (ht : ((after host pre).clients.registry.heap c).srtp = some t)
    (post : List (ServerEvent S)) : KeysOf host (pre ++ post) addr t := by
  have hlog : history host reports pre ⊆ history host reports (pre ++ post) := by
    rw [history, history, Machine.trace_append]
    exact List.subset_append_left _ _
  exact keysOf_of_shakenAt (((keyed_after host pre).shakenAt hat ht).mono hlog
    fun _ _ hc => streams_after host pre hc post)

end Server

end RStreamer
