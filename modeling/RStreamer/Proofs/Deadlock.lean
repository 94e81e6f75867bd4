import RStreamer.Client.Actor
import RStreamer.Lib.Machine

/-!
# When a handler of `ClientActor` waits for itself

Every handler takes its locks in nested scopes, so the question is only which
requests meet a guard the same handler still holds. All but one are on locks of
different names. The exception is the takeover branch of `Handler<GroupId>`: it
holds the write guard of the old sender's receivers and, to compute what to
assign through that guard, asks for a read guard of the same lock.

`TakesOver` is the state in which that branch is entered: the message comes
from a sender, the group's sender is another address, and both have a client.
`handle?_isSome` says it is the only way to get stuck, and
`run_returns_iff_no_takeover` lifts this to runs of any length: the actor is
alive at the end of a run exactly when no message of it was a takeover.
-/

namespace RStreamer.ClientActor

open Lock Lock.Prog

variable {S : Type}

/-- The message of a sender to a group whose sender is another client, both of
them registered. -/
def TakesOver (r : Registry S) (groupId : Nat) (addr : SocketAddr)
    (isSender : Bool) : Prop :=
  isSender = true ∧ ∃ last, r.groups.lookup groupId = some last ∧
    last ≠ addr ∧ (r.clientAt addr).isSome = true ∧
    (r.clientAt last).isSome = true

def IsTakeover (r : Registry S) : Message S → Prop
  | .groupId groupId addr isSender => TakesOver r groupId addr isSender
  | _ => False

/-! ## Guards that do not meet

The handlers nest at most two guards. Each of these says that the inner lock
is not the outer one, whoever the clients are. -/

theorem not_conflicts_nil (g : Guard ClientLock) :
    ¬ ∃ h ∈ ([] : List (Guard ClientLock)), g.Conflicts h := by
  rintro ⟨h, hmem, -⟩
  cases hmem

theorem not_conflicts_of_locks {g : Guard ClientLock}
    {held : List (Guard ClientLock)} (h : ∀ x ∈ held, g.lock ≠ x.lock) :
    ¬ ∃ x ∈ held, g.Conflicts x := by
  rintro ⟨x, hmem, hc⟩
  exact h x hmem hc.1

/-! ## The handlers, one by one -/

theorem handle?_dtls (r : Registry S) (addr : SocketAddr) (now : Instant) :
    (handle? r (.dtls addr now)).isSome = true := by
  simp [handle?, handler, handleDtls, exec_withGuard]

theorem handle?_connected (r : Registry S) (c : ClientRef)
    (t : SrtpTransport S) : (handle? r (.connected c t)).isSome = true := by
  simp [handle?, handler, handleConnected, exec_withGuard]

/-- The storage guard is dropped before the receivers are locked. -/
theorem handle?_delete (r : Registry S) (addr : SocketAddr) :
    (handle? r (.delete addr)).isSome = true := by
  have hstorage : ([ClientLock.clientStorage.wr] : List (Guard ClientLock)).erase
      ClientLock.clientStorage.wr = [] := by simp
  rw [handle?, handler, handleDelete]
  simp only [exec_monad_bind, exec_withGuard, not_conflicts_nil, if_false,
    exec_read, exec_write, exec_pure, Option.bind_some, Option.map_some,
    hstorage]
  cases r.clientAt addr with
  | none => rfl
  | some c => simp [exec_withGuard]

theorem handle?_mediaAddr (r : Registry S) (addr : SocketAddr)
    (media : MediaList) (now : Instant) (draw : UInt32 → RuntimeDraw) :
    (handle? r (.mediaAddr addr media now draw)).isSome = true := by
  rw [handle?, handler, handleMediaAddr]
  simp only [exec_withGuard, not_conflicts_nil, if_false, exec_monad_bind,
    exec_read, Option.bind_some]
  cases r.clientAt addr with
  | none => rfl
  | some c =>
      have h₁ : ¬ ∃ x ∈ [ClientLock.clientStorage.rd],
          (ClientLock.rtpRuntimeStorage c).wr.Conflicts x :=
        not_conflicts_of_locks (by simp [ClientLock.rd, ClientLock.wr])
      have h₂ : ¬ ∃ x ∈ [(ClientLock.rtpRuntimeStorage c).wr,
          ClientLock.clientStorage.rd], (ClientLock.media c).wr.Conflicts x :=
        not_conflicts_of_locks (by simp [ClientLock.rd, ClientLock.wr])
      simp only [exec_withGuard, h₁, if_false, exec_monad_bind, exec_write,
        Option.bind_some, h₂, Option.map_some, Option.isSome_some]

/-- The links of a `GroupId` get stuck in the takeover branch, and there
always. -/
theorem exec_link (r : Registry S) (last addr : SocketAddr)
    (isSender : Bool) :
    ((link last addr isSender).exec [] r).isSome = true ↔
      ¬ (isSender = true ∧ last ≠ addr ∧ (r.clientAt addr).isSome = true ∧
        (r.clientAt last).isSome = true) := by
  rw [link]
  split
  · next hearly =>
      have hs : isSender = false := by simpa using hearly.2
      simp [hs]
  · simp only [exec_withGuard, not_conflicts_nil, if_false, exec_monad_bind,
      exec_read, Option.bind_some]
    cases r.clientAt addr with
    | none => simp
    | some receiverRef =>
        cases r.clientAt last with
        | none => simp
        | some senderRef =>
            have hw : ¬ ∃ x ∈ [ClientLock.clientStorage.rd],
                (ClientLock.receivers senderRef).wr.Conflicts x :=
              not_conflicts_of_locks (by simp [ClientLock.rd, ClientLock.wr])
            simp only [exec_withGuard, hw, if_false]
            split
            · next htake =>
                -- the write guard of the very lock is still alive
                have hblock : ∃ x ∈ [(ClientLock.receivers senderRef).wr,
                    ClientLock.clientStorage.rd],
                    (ClientLock.receivers senderRef).rd.Conflicts x :=
                  ⟨_, List.mem_cons_self .., rfl, Or.inr rfl⟩
                rw [exec_withGuard, if_pos hblock]
                simp [htake.1, htake.2]
            · next htake =>
                have hs : ¬ ∃ x ∈ [(ClientLock.receivers senderRef).wr,
                    ClientLock.clientStorage.rd],
                    (ClientLock.senderAddr receiverRef).wr.Conflicts x :=
                  not_conflicts_of_locks (by simp [ClientLock.rd, ClientLock.wr])
                simp only [exec_monad_bind, exec_withGuard, hs, if_false,
                  exec_write, Option.map_some, Option.bind_some,
                  Option.isSome_some, true_iff]
                rintro ⟨hsnd, hne, -⟩
                exact htake ⟨hne, hsnd⟩

theorem handle?_groupId (r : Registry S) (g : Nat) (addr : SocketAddr)
    (isSender : Bool) :
    (handle? r (.groupId g addr isSender)).isSome = true ↔
      ¬ TakesOver r g addr isSender := by
  have hstep : (handle? r (.groupId g addr isSender)).isSome =
      ((link (r.lastSender g addr) addr isSender).exec []
        (r.setGroup g addr isSender)).isSome := by
    simp only [handle?, handler, handleGroupId, exec_monad_bind, exec_read,
      exec_write, Option.bind_some, GroupsStorage.insertOrGetSender_fst,
      Option.isSome_map]
    rfl
  rw [hstep, exec_link, not_iff_not, TakesOver, Registry.lastSender]
  cases hg : r.groups.lookup g with
  | none => simp
  | some last => simp [Registry.clientAt, Registry.setGroup]

theorem handle?_isSome (r : Registry S) (m : Message S) :
    (handle? r m).isSome = true ↔ ¬ IsTakeover r m := by
  cases m with
  | dtls addr now => simp [handle?_dtls, IsTakeover]
  | connected c t => simp [handle?_connected, IsTakeover]
  | groupId g addr isSender => exact handle?_groupId r g addr isSender
  | mediaAddr addr media now draw => simp [handle?_mediaAddr, IsTakeover]
  | delete addr => simp [handle?_delete, IsTakeover]

/-! ## Runs -/

/-- `ClientActor` handles a whole run of messages, whatever their number and
order, exactly when none of them is a takeover in the state it is handled in.
A run that contains one ends there: the handler waits for its own guard. -/
theorem run_returns_iff_no_takeover (ms : List (Message S)) :
    (Machine.run? handle? Registry.init ms).isSome = true ↔
      Machine.Along handle (fun r m => ¬ IsTakeover r m) Registry.init ms :=
  Machine.run?_isSome_iff_along (fun _ _ _ h => handle_of_handle? h)
    handle?_isSome

/-- Two senders, one group: both registered, the first one in the group, then
the second. Three messages are handled, and the fourth is not. -/
theorem second_sender_blocks :
    ¬ ∀ (ms : List (Message Unit)) (g : Nat) (addr : SocketAddr) (s : Bool),
      (Machine.run? handle? Registry.init ms).isSome = true →
      (Machine.run? handle? Registry.init
        (ms ++ [.groupId g addr s])).isSome = true := by
  intro h
  have hstuck := h
    [.dtls (.host 1) 0, .dtls (.host 2) 0, .groupId 1 (.host 1) true]
    1 (.host 2) true (by decide)
  revert hstuck
  decide

end RStreamer.ClientActor
