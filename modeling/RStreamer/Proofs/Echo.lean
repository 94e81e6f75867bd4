import RStreamer.Proofs.Delivery

/-!
# Whether a client is linked to itself

A sender that joins a group without a sender, or repeats its join, finds its own
address where the group's last sender should be. For a viewer
`Handler<GroupId>` returns early in this case; for a sender it goes on, the two
lookups give the same client, and since nothing is taken over the client is
made a receiver of itself.

`SelfLinkSafe` is the condition under which a message does not do this, and from
a registry without self links it is exact. What the links are for follows: as
long as no client is linked to itself, no packet goes back to where it came from.
-/

namespace RStreamer

namespace Registry

variable {S : Type}

/-- No stored client is among its own receivers or is its own sender. -/
def NoSelfLink (r : Registry S) : Prop :=
  ∀ a c, r.clientAt a = some c →
    (r.heap c).receivers.lookup a = none ∧ (r.heap c).senderAddr ≠ some a

/-- A sender's `GroupId` comes from an address without a client, or finds
another address as the sender of its group. -/
def SelfLinkSafe (r : Registry S) : ClientActor.Message S → Prop
  | .groupId g addr true =>
      r.clientAt addr = none ∨ ∃ last, r.groups.lookup g = some last ∧ last ≠ addr
  | _ => True

theorem noSelfLink_init : NoSelfLink (init : Registry S) := by
  intro a c ha
  cases ha

theorem SameRoutes.noSelfLink_iff {r r' : Registry S} (h : SameRoutes r r') :
    r'.NoSelfLink ↔ r.NoSelfLink := by
  simp only [NoSelfLink, h.clientAt, h.receivers, h.senderAddr]

theorem lastSender_ne_iff {r : Registry S} {g : Nat} {addr : SocketAddr} :
    r.lastSender g addr ≠ addr ↔
      ∃ last, r.groups.lookup g = some last ∧ last ≠ addr := by
  rw [lastSender]
  cases r.groups.lookup g with
  | none => simp
  | some last => simp

/-! ## One message at a time -/

theorem NoSelfLink.register {r : Registry S} (hw : r.WF) (h : r.NoSelfLink)
    (addr : SocketAddr) (now : Instant) :
    (r.register addr now).NoSelfLink := by
  cases hat : r.clientAt addr with
  | some c => rw [register_of_stored hat]; exact h
  | none =>
      intro a c ha
      rw [heap_register r addr now hat]
      rcases stored_of_register hat ha with ⟨-, rfl⟩ | ⟨-, ha'⟩
      · rw [if_pos rfl]
        exact ⟨rfl, fun e => by cases e⟩
      · rw [if_neg (Nat.ne_of_lt (hw.stored_lt ha'))]
        exact h a c ha'

theorem NoSelfLink.delete {r : Registry S} (hw : r.WF) (h : r.NoSelfLink)
    (addr : SocketAddr) : (r.delete addr).NoSelfLink := by
  intro a c ha
  obtain ⟨hne, ha'⟩ := stored_of_delete ha
  rw [heap_delete_ne fun e => hne (hw.stored_inj ha' e)]
  exact h a c ha'

/-- A takeover names the new sender to everybody but the new sender. -/
theorem NoSelfLink.takeover {r : Registry S} (hw : r.WF) (h : r.NoSelfLink)
    (s : ClientRef) (addr : SocketAddr) : (r.takeover s addr).NoSelfLink := by
  intro a c ha
  rw [clientAt_takeover] at ha
  obtain ⟨hrecv, hsend⟩ := h a c ha
  refine ⟨?_, ?_⟩
  · rw [← Option.not_isSome_iff_eq_none, Option.isSome_iff_exists]
    rintro ⟨t, ht⟩
    rw [receivers_takeover ht] at hrecv
    cases hrecv
  · rw [heap_takeover]
    dsimp only
    split
    · next hmem =>
        have hne := ((hw.mem_relinked_stored ha).mp hmem).2
        exact fun e => hne (Option.some.inj e).symm
    · exact hsend

/-- A join links two addresses, and it is a self link if they are the same. -/
theorem noSelfLink_join_iff {r : Registry S} (hw : r.WF) (h : r.NoSelfLink)
    {x s : ClientRef} {addr last : SocketAddr} (hx : r.clientAt addr = some x)
    (hs : r.clientAt last = some s) :
    (r.join x s addr last).NoSelfLink ↔ last ≠ addr := by
  have hclient : ∀ a, (r.join x s addr last).clientAt a = r.clientAt a :=
    fun _ => rfl
  refine ⟨?_, ?_⟩
  · rintro hl rfl
    have hsend := (hl last x hx).2
    rw [heap_join, if_pos rfl] at hsend
    exact hsend rfl
  · intro hne a c ha
    rw [hclient] at ha
    obtain ⟨hrecv, hsend⟩ := h a c ha
    rw [heap_join]
    refine ⟨?_, ?_⟩
    · dsimp only
      split
      · next hcs =>
          -- the new entry is under `addr`, its map belongs to `last`
          subst hcs
          obtain rfl := hw.stored_inj ha hs
          rw [AList.lookup_insert_ne hne]
          exact hrecv
      · exact hrecv
    · dsimp only
      split
      · next hcx =>
          subst hcx
          obtain rfl := hw.stored_inj ha hx
          exact fun e => hne (Option.some.inj e)
      · exact hsend

theorem noSelfLink_groupId_iff {r : Registry S} (hw : r.WF)
    (h : r.NoSelfLink) (g : Nat) (addr : SocketAddr) (isSender : Bool) :
    (r.groupId g addr isSender).NoSelfLink ↔
      r.SelfLinkSafe (.groupId g addr isSender) := by
  have hset := sameRoutes_setGroup r g addr isSender
  have hw' : (r.setGroup g addr isSender).WF := hw.of_sameRoutes hset
  have h' : (r.setGroup g addr isSender).NoSelfLink :=
    hset.noSelfLink_iff.mpr h
  rcases groupId_cases r g addr isSender with
    ⟨heq, hno⟩ | ⟨x, s, hx, hs, hcase, heq⟩ | ⟨x, s, hx, hs, hcase, heq⟩
  · rw [heq]
    refine iff_of_true h' ?_
    cases isSender with
    | false => trivial
    | true =>
        -- a stored client that names itself would have been linked
        rw [SelfLinkSafe, ← lastSender_ne_iff, or_iff_not_imp_left]
        intro hat hlast
        obtain ⟨x, hx⟩ := Option.ne_none_iff_exists'.mp hat
        have hs := hx
        rw [← hlast] at hs
        exact absurd (hno x x hx hs).2 (by decide)
  · rw [heq]
    refine iff_of_true (h'.takeover hw' s addr) ?_
    rw [hcase.2, SelfLinkSafe, ← lastSender_ne_iff]
    exact .inr hcase.1
  · rw [heq, noSelfLink_join_iff hw' h' hx hs]
    cases isSender with
    | false => exact iff_of_true (fun e => Bool.noConfusion (hcase.mp e)) trivial
    | true =>
        rw [SelfLinkSafe, ← lastSender_ne_iff, hx]
        exact ⟨.inr, fun hc => hc.resolve_left (Option.some_ne_none x)⟩

theorem noSelfLink_handle_iff {r : Registry S} (hw : r.WF)
    (h : r.NoSelfLink) (m : ClientActor.Message S) :
    (ClientActor.handle r m).NoSelfLink ↔ r.SelfLinkSafe m := by
  cases m with
  | dtls addr now =>
      rw [ClientActor.handle_dtls]
      exact iff_of_true (h.register hw addr now) trivial
  | connected c t =>
      rw [ClientActor.handle_connected,
        (sameRoutes_connected r c t).noSelfLink_iff]
      exact iff_of_true h trivial
  | groupId g addr isSender =>
      rw [ClientActor.handle_groupId]
      exact noSelfLink_groupId_iff hw h g addr isSender
  | mediaAddr addr media now draw =>
      rw [ClientActor.handle_mediaAddr,
        (sameRoutes_mediaAddr r addr media now draw).noSelfLink_iff]
      exact iff_of_true h trivial
  | delete addr =>
      rw [ClientActor.handle_delete]
      exact iff_of_true (h.delete hw addr) trivial

end Registry

namespace RtcActor

open Registry

variable {S : Type}

/-! ## What the links are for -/

theorem senderAddr_of_mem_upstream {lib : SrtpLib S} {p : Prepared}
    {r : Registry S} {c : ClientRef} {e : Emission}
    (he : e ∈ (sendUpstream lib p r c).sent) :
    (r.heap c).senderAddr = some e.addr := by
  rw [sendUpstream] at he
  split at he
  · cases he
  · next senderAddr hsend =>
      split at he
      · cases he
      · split at he
        · cases he
        · simp only [] at he
          split at he
          · cases he
          · cases List.mem_singleton.mp he
            exact hsend

/-- A packet goes to a receiver of the client it is from, or to its sender. -/
theorem route_of_mem_sent {lib : SrtpLib S} {r : Registry S} (hwf : r.WF)
    {now : Instant} {sched : List Receiver} {message : DataPacket}
    {addr : SocketAddr} {e : Emission}
    (he : e ∈ (handle lib r now sched message addr).sent) :
    ∃ c, r.clientAt addr = some c ∧
      ((r.heap c).receivers.lookup e.addr = some e.via ∨
        (r.heap c).senderAddr = some e.addr) := by
  rw [sent_handle] at he
  cases hprep : prepare lib r now message addr with
  | none => rw [hprep] at he; cases he
  | some x =>
      obtain ⟨r', c, p⟩ := x
      rw [hprep] at he
      obtain ⟨hat, hr⟩ := prepare_spec hprep
      refine ⟨c, hat, ?_⟩
      rw [← hr.routes.receivers, ← hr.routes.senderAddr]
      rw [sentOf, forward] at he
      split at he
      · exact .inr (senderAddr_of_mem_upstream he)
      · obtain ⟨recv, hmem, hcopy⟩ :=
          mem_sent_fanOut (hwf.of_sameRoutes hr.routes) hr.codec he
        obtain ⟨t, -, -, ha, hv⟩ := copyFor_eq_some.mp hcopy
        rw [ha, hv]
        exact .inl (mem_liveReceivers.mp hmem).1

/-- No packet is sent back to the address it comes from. -/
def Echoless (lib : SrtpLib S) (r : Registry S) : Prop :=
  ∀ now sched message addr, ∀ e ∈ (handle lib r now sched message addr).sent,
    e.addr ≠ addr

theorem echoless_of_noSelfLink (lib : SrtpLib S) {r : Registry S}
    (hwf : r.WF) (h : r.NoSelfLink) : Echoless lib r := by
  rintro now sched message addr e he rfl
  obtain ⟨c, hat, hlink⟩ := route_of_mem_sent hwf he
  obtain ⟨hrecv, hsend⟩ := h e.addr c hat
  rcases hlink with hl | hl
  · rw [hrecv] at hl; cases hl
  · exact hsend hl

end RtcActor

/-! ## Runs -/

namespace System

open Registry RtcActor

variable {S : Type}

/-- The events that link no client to itself. -/
def SelfLinkSafe (s : System S) : Event S → Prop
  | .client m => s.registry.SelfLinkSafe m
  | _ => True

theorem noSelfLink_step_iff (lib : SrtpLib S) {s : System S}
    (hw : s.registry.WF) (h : s.registry.NoSelfLink) (e : Event S) :
    (step lib s e).registry.NoSelfLink ↔ s.SelfLinkSafe e := by
  cases e with
  | client m => exact noSelfLink_handle_iff hw h m
  | rtc message addr now sched =>
      have hroutes := handle_sameRoutes lib s.registry now sched message addr
      exact iff_of_true (hroutes.noSelfLink_iff.mpr h) trivial
  | datagram addr data => exact iff_of_true h trivial
  | jitter now =>
      rw [registry_step_jitter]
      exact iff_of_true h trivial

/-- In a run, no client is linked to itself and no packet would go back to its
address in any state, if and only if every sender's `GroupId` came from an
address without a client or found another address as the sender of its
group. -/
theorem no_echo_iff_self_link_safe (lib : SrtpLib S) (es : List (Event S)) :
    Machine.Always (step lib)
        (fun s => s.registry.NoSelfLink ∧ Echoless lib s.registry) init es ↔
      Machine.Along (step lib) SelfLinkSafe init es := by
  refine Machine.always_iff_along (I := fun s : System S => s.registry.WF)
    (wf_step lib) ?_ wf_init ⟨noSelfLink_init, ?_⟩
  · intro s e hw h
    rw [← noSelfLink_step_iff lib hw h.1 e]
    exact ⟨And.left, fun hn =>
      ⟨hn, echoless_of_noSelfLink lib (wf_step lib s e hw) hn⟩⟩
  · exact echoless_of_noSelfLink lib wf_init noSelfLink_init

/-- A sender registers, finishes its handshake and joins a group of its own. -/
def firstSender : List (Event Unit) :=
  [.client (.dtls (.host 1) 0),
    .client (.connected 0 ⟨(), ()⟩),
    .client (.mediaAddr (.host 1) MediaList.vp8 0 fun _ => RuntimeDraw.least),
    .client (.groupId 1 (.host 1) true)]

/-- It is its own receiver and its own sender, and gets its own video. -/
theorem first_sender_echoes :
    ¬ ∀ es : List (Event Unit),
      (after SrtpLib.null es).registry.NoSelfLink ∧
        Echoless SrtpLib.null (after SrtpLib.null es).registry := by
  intro h
  refine (h firstSender).2 0 [] (videoPacket 7) (.host 1)
    ⟨.host 1, [128, 96, 0, 1, 0, 0, 0, 1, 0, 0, 0, 1, 42] ++ nullTag, 0⟩
    ?_ rfl
  decide +kernel

end System

end RStreamer
