import RStreamer.Client.Tasks

/-!
# Deletions that come too late

A task works on one client and asks for a deletion by address. By the time the
message is handled, the client the task worked on may be gone already, removed
at the request of another of its tasks, and a new one may be stored at the
address. `Handler<DeleteMessage>` removes whoever is there.

So a deletion spares later clients exactly when none is stored at its address
at that moment (`spares_iff_inTime`). `Released` says what this takes of the
rest of the system: no new client is made for an address while a deletion of it
is waiting, and no task asks for one when a later client is stored there. Then
no message in the mailbox ever names the address of a later client (`Fresh`).
-/

namespace RStreamer.Tasks

open Registry

variable {S : Type}

/-- A `DeleteMessage` sent for one client leaves those made later for the
address alone: they stay stored, are not marked deleted and keep their groups. -/
def Spares (s : Tasks S) : TaskEvent S → Prop
  | .delete => ∀ m rest d, s.mailbox = m :: rest → m.client < d →
      s.registry.clientAt m.addr = some d →
      let r := (step s .delete).registry
      r.clientAt m.addr = some d ∧
        (r.heap d).isDeleted = (s.registry.heap d).isDeleted ∧
        ∀ g, s.registry.groups.lookup g = some m.addr →
          r.groups.lookup g = some m.addr
  | _ => True

/-- The client stored at the address of a `DeleteMessage`, if any, was there
when the datagram of the task that sent it came. -/
def InTime (s : Tasks S) : TaskEvent S → Prop
  | .delete => ∀ m rest d, s.mailbox = m :: rest →
      s.registry.clientAt m.addr = some d → d ≤ m.client
  | _ => True

/-- A new client is made for an address when no deletion of it is waiting, and
a task asks for a deletion when no later client is stored at its address. -/
def Released (s : Tasks S) : TaskEvent S → Prop
  | .datagram addr _ => s.registry.clientAt addr = none →
      ∀ m ∈ s.mailbox, m.addr ≠ addr
  | .poll i .sent => ∀ t cause d, s.tasks[i]? = some t →
      t.phase = .deleting cause → s.registry.clientAt t.addr = some d →
      d ≤ t.client
  | _ => True

theorem clientAt_step_delete {s : Tasks S} {m : PendingDelete}
    {rest : List PendingDelete} (h : s.mailbox = m :: rest) (a : SocketAddr) :
    (step s .delete).registry.clientAt a =
      if a = m.addr then none else s.registry.clientAt a := by
  simp only [step, h, ClientActor.handle_delete]
  exact clientAt_delete s.registry m.addr a

theorem spares_iff_inTime (s : Tasks S) (e : TaskEvent S) :
    Spares s e ↔ InTime s e := by
  cases e with
  | delete =>
      refine ⟨?_, ?_⟩
      · intro h m rest d hbox hat
        by_contra hlater
        have hkept := (h m rest d hbox (Nat.lt_of_not_le hlater) hat).1
        rw [clientAt_step_delete hbox, if_pos rfl] at hkept
        cases hkept
      · intro h m rest d hbox hlater hat
        exact absurd hlater (Nat.not_lt_of_le (h m rest d hbox hat))
  | _ => exact Iff.rfl

/-! ## Addresses that are not taken again too early -/

/-- No message in the mailbox names the address of a later client. -/
def Fresh (s : Tasks S) : Prop :=
  ∀ m ∈ s.mailbox, ∀ d, s.registry.clientAt m.addr = some d → d ≤ m.client

theorem Fresh.inTime {s : Tasks S} (h : s.Fresh) (e : TaskEvent S) :
    InTime s e := by
  cases e with
  | delete =>
      intro m rest d hbox hat
      exact h m (hbox ▸ List.mem_cons_self) d hat
  | _ => trivial

theorem Fresh.of_same {s s' : Tasks S} (h : s.Fresh)
    (hbox : s'.mailbox = s.mailbox)
    (hat : ∀ a, s'.registry.clientAt a = s.registry.clientAt a) :
    s'.Fresh := by
  intro m hm d hd
  rw [hbox] at hm
  rw [hat] at hd
  exact h m hm d hd

theorem Fresh.datagram {s : Tasks S} (h : s.Fresh) {addr : SocketAddr}
    {now : Instant} (hfree : Released s (.datagram addr now)) :
    (step s (.datagram addr now)).Fresh := by
  cases hat : s.registry.clientAt addr with
  | some c =>
      refine h.of_same rfl fun a => ?_
      rw [step, ClientActor.handle_dtls, register_of_stored hat]
  | none =>
      intro m hm d hd
      rw [step, ClientActor.handle_dtls,
        clientAt_register _ addr now hat, if_neg (hfree hat m hm)] at hd
      exact h m hm d hd

theorem clientAt_resumed (s : Tasks S) (i : Nat) (t : Task) (res : Resumed S)
    (a : SocketAddr) :
    (s.resumed i t res).registry.clientAt a = s.registry.clientAt a := by
  cases hsrtp : res.srtp with
  | none => simp only [resumed, hsrtp]
  | some tr =>
      simp only [resumed, hsrtp, ClientActor.handle_connected]
      exact (sameRoutes_connected s.registry t.client tr).clientAt a

theorem Fresh.poll {s : Tasks S} (h : s.Fresh) {i : Nat} {x : Ready S}
    (hfree : Released s (.poll i x)) : (step s (.poll i x)).Fresh := by
  cases hpoll : s.polled i x with
  | none => simpa only [step, hpoll] using h
  | some p =>
      obtain ⟨t, res⟩ := p
      obtain ⟨ht, hres⟩ := polled_eq_some.mp hpoll
      rw [step_poll hpoll]
      intro m hm d hd
      rw [clientAt_resumed] at hd
      by_cases hsends : res.sends = true
      · obtain ⟨rfl, cause, hphase⟩ := sends_resume hres hsends
        simp only [resumed, hsends, if_true] at hm
        rcases List.mem_append.mp hm with hold | hnew
        · exact h m hold d hd
        · cases List.mem_singleton.mp hnew
          exact hfree t cause d ht hphase hd
      · simp only [resumed, hsends, Bool.false_eq_true, if_false] at hm
        exact h m hm d hd

theorem Fresh.delete {s : Tasks S} (h : s.Fresh) : (step s .delete).Fresh := by
  cases hbox : s.mailbox with
  | nil => simpa only [step, hbox] using h
  | cons m₀ rest =>
      intro m hm d hd
      rw [clientAt_step_delete hbox] at hd
      simp only [step, hbox] at hm
      split at hd
      · cases hd
      · exact h m (hbox ▸ List.mem_cons_of_mem m₀ hm) d hd

theorem Fresh.step {s : Tasks S} (h : s.Fresh) {e : TaskEvent S}
    (hfree : Released s e) : (Tasks.step s e).Fresh := by
  cases e with
  | datagram addr now => exact h.datagram hfree
  | poll i x => exact h.poll hfree
  | delete => exact h.delete
  | groupId g addr isSender =>
      refine h.of_same rfl fun a => ?_
      rw [Tasks.step, ClientActor.handle_groupId, clientAt,
        clientStorage_groupId]
      rfl
  | mediaAddr addr media now draw =>
      refine h.of_same rfl fun a => ?_
      rw [Tasks.step, ClientActor.handle_mediaAddr]
      exact (sameRoutes_mediaAddr s.registry addr media now draw).clientAt a

theorem fresh_init : (init : Tasks S).Fresh := by
  intro m hm
  cases hm

/-- In every run in which addresses are not taken again while a deletion of them
can still come, every deletion spares the clients registered later than the one it
was sent for. Of a run as such this is so if and only if every deletion is handled
while no later client is stored at its address. -/
theorem deletes_spare_later_of_released (es : List (TaskEvent S)) :
    (Machine.Along step Released init es →
      Machine.Along step Spares init es) ∧
    (Machine.Along step Spares init es ↔ Machine.Along step InTime init es) := by
  have hiff : Machine.Along step Spares init es ↔
      Machine.Along step InTime init es := Machine.along_congr spares_iff_inTime
  refine ⟨fun h => hiff.mpr ?_, hiff⟩
  exact h.of_invariant (fun _ _ hs => hs.step) (fun _ e hs _ => hs.inTime e)
    fresh_init

/-- The handshake of a client fails and its first task has it deleted. A second
task of the same client, spawned before that, cannot push its datagram any more
and asks for a deletion as well, when the next datagram has made a new client
that has become the sender of a group. -/
theorem late_delete_removes_new_client :
    ¬ ∀ es : List (TaskEvent Unit), Machine.Along step Spares init es := by
  intro h
  have hrun := h [.datagram (.host 1) 0, .poll 0 .writer, .poll 0 .state,
    .poll 0 (.entered .ready), .poll 0 (.accepted .timedOut), .poll 0 .sent,
    .datagram (.host 1) 0, .delete, .datagram (.host 1) 0,
    .groupId 1 (.host 1) true, .poll 1 .writer, .poll 1 .sent, .delete]
  have hlast := hrun.2.2.2.2.2.2.2.2.2.2.2.2.1 ⟨.host 1, 1, 0⟩ [] 1
    (by decide +kernel) (by decide) (by decide +kernel)
  have hkept := hlast.1
  revert hkept
  decide +kernel

end RStreamer.Tasks
