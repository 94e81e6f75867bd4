import RStreamer.Client.Routes
import RStreamer.Lib.Machine

/-!
# The two views of who receives from whom

A link from a sender to a receiver is stored twice, as an entry of the sender's
receivers and as the receiver's sender address. `Linked` says the two agree for
any two stored clients of different addresses.

It is not an invariant. `Handler<GroupId>` moves the receivers of a taken-over
group to the new sender in one view only: it rewrites their sender addresses,
and stores the map back into the old sender. A viewer that joins a second group
stays in the map of the first, and a client registered at the address of a
deleted sender starts with no receivers while the old ones still name it.

`LinkSafe` is what must hold before a message for none of this to happen, and
the step lemmas below show it is exactly that: from a linked state, the state
after the message is linked if and only if the message was safe. So a run keeps
the two views together throughout exactly when all its messages were safe.
-/

namespace RStreamer.Registry

variable {S : Type}

/-- The two views agree. -/
def Linked (r : Registry S) : Prop :=
  ∀ a b s t, r.clientAt a = some s → r.clientAt b = some t → a ≠ b →
    ((r.heap s).receivers.lookup b = some t ↔
      (r.heap t).senderAddr = some a)

/-- A datagram that registers `addr` finds no stored client with `addr` as its
sender. -/
def RegisterSafe (r : Registry S) (addr : SocketAddr) : Prop :=
  r.clientAt addr = none →
    ∀ b t, r.clientAt b = some t → (r.heap t).senderAddr ≠ some addr

/-- A sender at `addr` takes over from a client `s` at `last` that has no
stored receiver, except possibly itself with `addr` as its sender already. -/
def TakeoverSafe (r : Registry S) (s : ClientRef) (addr last : SocketAddr) :
    Prop :=
  ∀ b t, (r.heap s).receivers.lookup b = some t → r.clientAt b = some t →
    b = last ∧ (r.heap t).senderAddr = some addr

/-- A client `x` at `addr` joins `last` while no other stored client is its
sender. -/
def JoinSafe (r : Registry S) (x : ClientRef) (addr last : SocketAddr) :
    Prop :=
  ∀ a p, r.clientAt a = some p → a ≠ addr → a ≠ last →
    (r.heap x).senderAddr ≠ some a

/-- The messages that keep the two views together. -/
def LinkSafe (r : Registry S) : ClientActor.Message S → Prop
  | .dtls addr _ => r.RegisterSafe addr
  | .groupId g addr isSender =>
      ∀ x s, r.clientAt addr = some x →
        r.clientAt (r.lastSender g addr) = some s →
        (r.lastSender g addr ≠ addr ∧ isSender = true →
          r.TakeoverSafe s addr (r.lastSender g addr)) ∧
        ((r.lastSender g addr = addr ↔ isSender = true) →
          r.JoinSafe x addr (r.lastSender g addr))
  | _ => True

theorem linked_init : Linked (init : Registry S) := by
  intro a b s t ha
  cases ha

theorem SameRoutes.linked_iff {r r' : Registry S} (h : SameRoutes r r') :
    r'.Linked ↔ r.Linked := by
  simp only [Linked, h.clientAt, h.receivers, h.senderAddr]

/-! ## One message at a time -/

theorem linked_register_iff {r : Registry S} (hw : r.WF) (h : r.Linked)
    (addr : SocketAddr) (now : Instant) :
    (r.register addr now).Linked ↔ r.RegisterSafe addr := by
  cases hat : r.clientAt addr with
  | some c =>
      rw [register_of_stored hat]
      refine ⟨fun _ hnone => ?_, fun _ => h⟩
      rw [hat] at hnone
      cases hnone
  | none =>
      have hclient := clientAt_register r addr now hat
      have hheap := heap_register r addr now hat
      have hne : ∀ {b t}, r.clientAt b = some t → t ≠ r.next :=
        fun hb => Nat.ne_of_lt (hw.stored_lt hb)
      refine ⟨?_, ?_⟩
      · intro hl _ b t hb hsend
        have hba : b ≠ addr := by
          rintro rfl
          rw [hat] at hb
          cases hb
        have hlink := (hl addr b r.next t (by rw [hclient, if_pos rfl])
          (by rw [hclient, if_neg hba]; exact hb) (Ne.symm hba)).mpr
          (by rw [hheap, if_neg (hne hb)]; exact hsend)
        rw [hheap, if_pos rfl] at hlink
        cases hlink
      · intro hsafe a b s t ha hb hab
        rw [hheap, hheap]
        rcases stored_of_register hat ha with ⟨rfl, rfl⟩ | ⟨-, ha'⟩
        · -- the new client as sender: its map is empty
          rcases stored_of_register hat hb with ⟨rfl, -⟩ | ⟨-, hb'⟩
          · exact absurd rfl hab
          rw [if_pos rfl, if_neg (hne hb')]
          exact ⟨fun he => absurd he (by simp [Client.default]),
            fun hs => absurd hs (hsafe hat b t hb')⟩
        · rw [if_neg (hne ha')]
          rcases stored_of_register hat hb with ⟨rfl, rfl⟩ | ⟨-, hb'⟩
          · -- the new client as receiver: its number is in no map
            rw [if_pos rfl]
            exact ⟨fun he => absurd (hw.entry_lt he) (Nat.lt_irrefl _),
              fun hs => absurd hs (by simp [Client.default])⟩
          · rw [if_neg (hne hb')]
            exact h a b s t ha' hb' hab

theorem linked_delete {r : Registry S} (hw : r.WF) (h : r.Linked)
    (addr : SocketAddr) : (r.delete addr).Linked := by
  have hold : ∀ {a c}, (r.delete addr).clientAt a = some c →
      r.clientAt a = some c ∧ (r.delete addr).heap c = r.heap c := by
    intro a c ha
    obtain ⟨hne, ha'⟩ := stored_of_delete ha
    exact ⟨ha', heap_delete_ne fun e => hne (hw.stored_inj ha' e)⟩
  intro a b s t ha hb hab
  obtain ⟨ha', hs⟩ := hold ha
  obtain ⟨hb', ht⟩ := hold hb
  rw [hs, ht]
  exact h a b s t ha' hb' hab

/-- A takeover relinks every entry it keeps to the new sender and leaves it in
the old sender's map, so it must keep no entry of a stored client. -/
theorem linked_takeover_iff {r : Registry S} (hw : r.WF) (h : r.Linked)
    {x s : ClientRef} {addr last : SocketAddr} (hx : r.clientAt addr = some x)
    (hs : r.clientAt last = some s) (hne : last ≠ addr) :
    (r.takeover s addr).Linked ↔ r.TakeoverSafe s addr last := by
  rw [Linked]
  simp only [clientAt_takeover, heap_takeover]
  refine ⟨?_, ?_⟩
  · intro hl b t he hb
    by_cases hbl : b = last
    · subst hbl
      rw [hs] at hb
      obtain rfl := Option.some.inj hb
      refine ⟨rfl, ?_⟩
      have hmem : s ∈ r.relinked s addr := (hw.mem_relinked_stored hs).mpr ⟨he, hne⟩
      have hxs : x ≠ s := fun e => hne (hw.stored_inj hs (e ▸ hx))
      have hlink := hl addr b x s hx hs (Ne.symm hne)
      rw [if_neg hxs, if_pos hmem] at hlink
      exact (h addr b x s hx hs (Ne.symm hne)).mp (hlink.mpr rfl)
    · exfalso
      have hlink := hl last b s t hs hb (Ne.symm hbl)
      rw [if_pos rfl] at hlink
      by_cases hba : b = addr
      · -- the new sender was a receiver: dropped, but still naming `last`
        subst hba
        have hsend := (h last b s t hs hb hne).mp he
        rw [if_neg (fun hmem => ((hw.mem_relinked_stored hb).mp hmem).2 rfl)] at hlink
        exact (lookup_receiversExcept.mp (hlink.mpr hsend)).2 rfl
      · have hmem : t ∈ r.relinked s addr :=
          (hw.mem_relinked_stored hb).mpr ⟨he, hba⟩
        rw [if_pos hmem] at hlink
        have hsend := hlink.mp (lookup_receiversExcept.mpr ⟨he, hba⟩)
        exact hne (Option.some.inj hsend).symm
  · intro hsafe a b p t ha hb hab
    by_cases hmem : t ∈ r.relinked s addr
    · -- the only relinked stored client is the old sender itself
      obtain ⟨he, -⟩ := (hw.mem_relinked_stored hb).mp hmem
      obtain ⟨hbl, hsend⟩ := hsafe b t he hb
      have hps : p ≠ s := by
        rintro rfl
        exact hab ((hw.stored_inj ha hs).trans hbl.symm)
      rw [if_neg hps, if_pos hmem, h a b p t ha hb hab, hsend]
    · rw [if_neg hmem, ← h a b p t ha hb hab]
      split
      · next hps =>
          subst hps
          rw [lookup_receiversExcept]
          refine ⟨And.left, fun he => ⟨he, ?_⟩⟩
          rintro rfl
          exact hne ((hsafe b t he hb).1.symm)
      · rfl

/-- A join moves the receiver in one view only if somebody else still has
it. -/
theorem linked_join_iff {r : Registry S} (hw : r.WF) (h : r.Linked)
    {x s : ClientRef} {addr last : SocketAddr} (hx : r.clientAt addr = some x)
    (hs : r.clientAt last = some s) :
    (r.join x s addr last).Linked ↔ r.JoinSafe x addr last := by
  have hclient : ∀ a, (r.join x s addr last).clientAt a = r.clientAt a :=
    fun _ => rfl
  rw [Linked]
  simp only [hclient, heap_join]
  refine ⟨?_, ?_⟩
  · intro hl a p ha haa hal hsend
    have hps : p ≠ s := fun e => hal (hw.stored_inj (e ▸ ha) hs)
    have hlink := hl a addr p x ha hx haa
    rw [if_neg hps, if_pos rfl] at hlink
    have he := (h a addr p x ha hx haa).mpr hsend
    exact hal (Option.some.inj (hlink.mp he)).symm
  · intro hsafe a b p t ha hb hab
    by_cases htx : t = x
    · subst htx
      obtain rfl : b = addr := hw.stored_inj hb hx
      rw [if_pos rfl]
      by_cases hps : p = s
      · subst hps
        obtain rfl : a = last := hw.stored_inj ha hs
        rw [if_pos rfl, AList.lookup_insert]
        exact ⟨fun _ => rfl, fun _ => rfl⟩
      · have hal : a ≠ last := by
          rintro rfl
          rw [ha] at hs
          exact hps (Option.some.inj hs)
        rw [if_neg hps, h a b p t ha hb hab]
        refine ⟨?_, ?_⟩
        · intro hsend; exact absurd hsend (hsafe a p ha hab hal)
        · intro e; exact absurd (Option.some.inj e).symm hal
    · have hba : b ≠ addr := by
        rintro rfl
        rw [hb] at hx
        exact htx (Option.some.inj hx)
      rw [if_neg htx, ← h a b p t ha hb hab]
      split
      · next hps => subst hps; rw [AList.lookup_insert_ne hba]
      · rfl

theorem linked_groupId_iff {r : Registry S} (hw : r.WF) (h : r.Linked)
    (g : Nat) (addr : SocketAddr) (isSender : Bool) :
    (r.groupId g addr isSender).Linked ↔
      r.LinkSafe (.groupId g addr isSender) := by
  have hset := sameRoutes_setGroup r g addr isSender
  have hw' : (r.setGroup g addr isSender).WF := hw.of_sameRoutes hset
  have h' : (r.setGroup g addr isSender).Linked := hset.linked_iff.mpr h
  rcases groupId_cases r g addr isSender with
    ⟨heq, hno⟩ | ⟨x, s, hx, hs, hcase, heq⟩ | ⟨x, s, hx, hs, hcase, heq⟩
  · rw [heq]
    refine ⟨fun _ x s hx hs => ?_, fun _ => h'⟩
    obtain ⟨hl, hf⟩ := hno x s hx hs
    refine ⟨fun hc => absurd hl hc.1, fun hc => ?_⟩
    rw [hf] at hc
    exact absurd (hc.mp hl) (by decide)
  · rw [heq, linked_takeover_iff hw' h' hx hs hcase.1]
    refine ⟨?_, ?_⟩
    · intro hsafe x' s' hx' hs'
      rw [hs] at hs'
      obtain rfl := Option.some.inj hs'
      exact ⟨fun _ => hsafe, fun hc => absurd (hc.mpr hcase.2) hcase.1⟩
    · exact fun hsafe => (hsafe x s hx hs).1 hcase
  · rw [heq, linked_join_iff hw' h' hx hs]
    refine ⟨?_, ?_⟩
    · intro hsafe x' s' hx' hs'
      rw [hx] at hx'
      obtain rfl := Option.some.inj hx'
      exact ⟨fun hc => absurd (hcase.mpr hc.2) hc.1, fun _ => hsafe⟩
    · exact fun hsafe => (hsafe x s hx hs).2 hcase

theorem linked_handle_iff {r : Registry S} (hw : r.WF) (h : r.Linked)
    (m : ClientActor.Message S) :
    (ClientActor.handle r m).Linked ↔ r.LinkSafe m := by
  cases m with
  | dtls addr now =>
      rw [ClientActor.handle_dtls]; exact linked_register_iff hw h addr now
  | connected c t =>
      rw [ClientActor.handle_connected, (sameRoutes_connected r c t).linked_iff]
      exact ⟨fun _ => trivial, fun _ => h⟩
  | groupId g addr isSender =>
      rw [ClientActor.handle_groupId]
      exact linked_groupId_iff hw h g addr isSender
  | mediaAddr addr media now draw =>
      rw [ClientActor.handle_mediaAddr,
        (sameRoutes_mediaAddr r addr media now draw).linked_iff]
      exact ⟨fun _ => trivial, fun _ => h⟩
  | delete addr =>
      rw [ClientActor.handle_delete]
      exact ⟨fun _ => trivial, fun _ => linked_delete hw h addr⟩

/-! ## Runs -/

/-- A run of `ClientActor` keeps the two views together in every state it goes
through exactly when each of its messages was safe where it was handled. -/
theorem links_agree_iff_safe_run (ms : List (ClientActor.Message S)) :
    Machine.Always ClientActor.handle Linked init ms ↔
      Machine.Along ClientActor.handle LinkSafe init ms :=
  Machine.always_iff_along (I := WF) (fun _ m hw => hw.handle m)
    (fun _ m hw h => linked_handle_iff hw h m) wf_init linked_init

/-- A sender, a viewer of its group, and a second sender that takes the group
over: the viewer names the second sender, and is still in the first one's
map. -/
theorem takeover_leaves_receivers :
    ¬ ∀ ms : List (ClientActor.Message Unit),
      (Machine.run ClientActor.handle init ms).Linked := by
  intro h
  have hl := h
    [.dtls (.host 1) 0, .dtls (.host 2) 0, .dtls (.host 3) 0,
      .groupId 1 (.host 1) true, .groupId 1 (.host 2) false,
      .groupId 1 (.host 3) true]
    (.host 1) (.host 2) 0 1
    (by decide) (by decide) (by decide)
  revert hl
  decide

end RStreamer.Registry
