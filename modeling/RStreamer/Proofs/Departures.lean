import RStreamer.Client.Routes
import RStreamer.Lib.Machine

/-!
# Deleted clients in receivers maps

`Clean` says that the receivers map of a stored client names stored clients
only, each under its own address. `Handler<DeleteMessage>` filters the deleted
clients out of one map, that of the client it has just removed, and that map is
not read again. The maps that may still name the departing client are those of
the clients that stay, and they are left alone.

So a deletion keeps the graph clean exactly when no client that stays has the
departing one among its receivers (`clean_delete_iff`). Every other message
keeps it clean, and a run does exactly when all its deletions were of that kind.
-/

namespace RStreamer.Registry

variable {S : Type}

/-- Every receiver of a stored client is alive and stored under its key. -/
def Clean (r : Registry S) : Prop :=
  ∀ a s b t, r.clientAt a = some s → (r.heap s).receivers.lookup b = some t →
    (r.heap t).isDeleted = false ∧ r.clientAt b = some t

/-- A deletion of `addr` finds the client there in no receivers map of another
stored client. -/
def DepartSafe (r : Registry S) : ClientActor.Message S → Prop
  | .delete addr =>
      ∀ c a s b, r.clientAt addr = some c → r.clientAt a = some s → a ≠ addr →
        (r.heap s).receivers.lookup b ≠ some c
  | _ => True

theorem clean_init : Clean (init : Registry S) := by
  intro a s b t ha
  cases ha

/-! ## One message at a time -/

/-- The stored clients stay as they are and every entry is an old one or that
of a client under its own address. -/
theorem Clean.of_entries {r r' : Registry S} (hw : r.WF) (h : r.Clean)
    (hclient : ∀ a, r'.clientAt a = r.clientAt a)
    (hdel : ∀ c, (r'.heap c).isDeleted = (r.heap c).isDeleted)
    (hentry : ∀ {s b t}, (r'.heap s).receivers.lookup b = some t →
      (r.heap s).receivers.lookup b = some t ∨ r.clientAt b = some t) :
    r'.Clean := by
  intro a s b t ha he
  rw [hclient] at ha
  rw [hclient, hdel]
  rcases hentry he with he' | hb
  · exact h a s b t ha he'
  · exact ⟨hw.stored_live hb, hb⟩

theorem Clean.of_sameRoutes {r r' : Registry S} (hw : r.WF) (h : r.Clean)
    (hs : SameRoutes r r') : r'.Clean := by
  refine h.of_entries hw hs.clientAt hs.isDeleted fun he => ?_
  rw [hs.receivers] at he
  exact .inl he

theorem Clean.register {r : Registry S} (hw : r.WF) (h : r.Clean)
    (addr : SocketAddr) (now : Instant) : (r.register addr now).Clean := by
  cases hat : r.clientAt addr with
  | some c => rw [register_of_stored hat]; exact h
  | none =>
      intro a s b t ha he
      have hheap := heap_register r addr now hat
      rw [hheap] at he
      rcases stored_of_register hat ha with ⟨-, rfl⟩ | ⟨-, ha'⟩
      · -- the map of the new client is empty
        rw [if_pos rfl] at he
        cases he
      · rw [if_neg (Nat.ne_of_lt (hw.stored_lt ha'))] at he
        obtain ⟨hlive, hb⟩ := h a s b t ha' he
        have hba : b ≠ addr := by
          rintro rfl
          rw [hat] at hb
          cases hb
        rw [hheap, if_neg (Nat.ne_of_lt (hw.stored_lt hb)),
          clientAt_register r addr now hat, if_neg hba]
        exact ⟨hlive, hb⟩

theorem Clean.groupId {r : Registry S} (hw : r.WF) (h : r.Clean) (g : Nat)
    (addr : SocketAddr) (isSender : Bool) :
    (r.groupId g addr isSender).Clean := by
  have hset := sameRoutes_setGroup r g addr isSender
  have hw' := hw.of_sameRoutes hset
  have h' := h.of_sameRoutes hw hset
  rcases groupId_cases r g addr isSender with
    ⟨heq, -⟩ | ⟨x, s, -, -, -, heq⟩ | ⟨x, s, hx, -, -, heq⟩
  · rw [heq]; exact h'
  · rw [heq]
    exact h'.of_entries hw' (clientAt_takeover _ s addr)
      (fun c => by rw [heap_takeover]) fun he => .inl (receivers_takeover he)
  · rw [heq]
    exact h'.of_entries hw' (fun _ => rfl) (fun c => by rw [heap_join])
      fun he => receivers_join hx he

theorem clean_delete_iff {r : Registry S} (hw : r.WF) (h : r.Clean)
    (addr : SocketAddr) :
    (r.delete addr).Clean ↔ r.DepartSafe (.delete addr) := by
  refine ⟨?_, ?_⟩
  · intro hclean c a s b hc ha hne he
    have hsc : r.clientAt addr ≠ some s := fun e => hne (hw.stored_inj ha e)
    have hdel := hclean a s b c
      (by rw [clientAt_delete, if_neg hne]; exact ha)
      (by rw [heap_delete_ne hsc]; exact he)
    rw [isDeleted_delete_self hc] at hdel
    cases hdel.1
  · intro hsafe a s b t ha he
    obtain ⟨hne, ha'⟩ := stored_of_delete ha
    have he' := receivers_delete he
    obtain ⟨hlive, hb⟩ := h a s b t ha' he'
    have htc : r.clientAt addr ≠ some t :=
      fun e => hsafe t a s b e ha' hne he'
    have hba : b ≠ addr := by
      rintro rfl
      exact htc hb
    rw [heap_delete_ne htc, clientAt_delete, if_neg hba]
    exact ⟨hlive, hb⟩

theorem clean_handle_iff {r : Registry S} (hw : r.WF) (h : r.Clean)
    (m : ClientActor.Message S) :
    (ClientActor.handle r m).Clean ↔ r.DepartSafe m := by
  cases m with
  | dtls addr now =>
      rw [ClientActor.handle_dtls]
      exact iff_of_true (h.register hw addr now) trivial
  | connected c t =>
      rw [ClientActor.handle_connected]
      exact iff_of_true (h.of_sameRoutes hw (sameRoutes_connected r c t))
        trivial
  | groupId g addr isSender =>
      rw [ClientActor.handle_groupId]
      exact iff_of_true (h.groupId hw g addr isSender) trivial
  | mediaAddr addr media now draw =>
      rw [ClientActor.handle_mediaAddr]
      exact iff_of_true
        (h.of_sameRoutes hw (sameRoutes_mediaAddr r addr media now draw))
        trivial
  | delete addr =>
      rw [ClientActor.handle_delete]
      exact clean_delete_iff hw h addr

/-! ## Runs -/

/-- A run of `ClientActor` keeps the receivers maps clean in every state it
goes through exactly when no client was deleted while another stored client had
it among its receivers. -/
theorem receivers_clean_iff_depart_safe
    (ms : List (ClientActor.Message S)) :
    Machine.Always ClientActor.handle Clean init ms ↔
      Machine.Along ClientActor.handle DepartSafe init ms :=
  Machine.always_iff_along (I := WF) (fun _ m hw => hw.handle m)
    (fun _ m hw h => clean_handle_iff hw h m) wf_init clean_init

/-- A viewer of a group leaves, and its sender still has it. -/
theorem departed_viewer_stays :
    ¬ ∀ ms : List (ClientActor.Message Unit),
      (Machine.run ClientActor.handle init ms).Clean := by
  intro h
  have hclean := h
    [.dtls (.host 1) 0, .dtls (.host 2) 0, .groupId 1 (.host 1) true,
      .groupId 1 (.host 2) false, .delete (.host 2)]
    (.host 1) 0 (.host 2) 1 (by decide) (by decide)
  revert hclean
  decide

end RStreamer.Registry
