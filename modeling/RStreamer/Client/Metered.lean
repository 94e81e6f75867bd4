import RStreamer.System

/-!
# The stream part of the registry

The other half of a client: its codec table, its SRTP sessions, its counters
and its jitter statistics. Routing messages leave them alone (`SameStreams`),
`MediaAddrMessage` sets the table and adds the counters it lacks
(`counters_mediaAddr`), and no other message touches either.

So the counters are never missing where a packet needs them. `Metered` says
that every frequency in a client's table has counters, and that a client not
yet made has none, which is what keeps the counters of a client from being
overwritten when another one is registered.
-/

namespace RStreamer.Registry

variable {S : Type}

/-! ## Messages that leave the streams alone -/

/-- `r'` is `r` with other routes. -/
structure SameStreams (r r' : Registry S) : Prop where
  next : r'.next = r.next
  heap : ∀ c, r'.heap c = { r.heap c with
    receivers := (r'.heap c).receivers
    senderAddr := (r'.heap c).senderAddr
    isDeleted := (r'.heap c).isDeleted }

theorem SameStreams.field {r r' : Registry S} (h : SameStreams r r')
    {β : Type} (π : Client S → β)
    (hπ : ∀ cl recv send del, π { cl with
      receivers := recv, senderAddr := send, isDeleted := del } = π cl)
    (c : ClientRef) : π (r'.heap c) = π (r.heap c) := by
  rw [h.heap c, hπ]

theorem sameStreams_delete (r : Registry S) (addr : SocketAddr) :
    SameStreams r (r.delete addr) := by
  refine ⟨next_delete r addr, fun c => ?_⟩
  rw [delete]
  cases r.clientAt addr with
  | none => rfl
  | some d =>
      simp only [pruneReceivers, modifyClient_heap]
      by_cases hc : c = d
      · subst hc; simp
      · simp [hc]

theorem sameStreams_takeover (r : Registry S) (s : ClientRef)
    (addr : SocketAddr) : SameStreams r (r.takeover s addr) :=
  ⟨next_takeover r s addr, fun c => by rw [heap_takeover]⟩

theorem sameStreams_join (r : Registry S) (x s : ClientRef)
    (addr last : SocketAddr) : SameStreams r (r.join x s addr last) :=
  ⟨rfl, fun c => by rw [heap_join]⟩

theorem sameStreams_groupId (r : Registry S) (g : Nat) (addr : SocketAddr)
    (isSender : Bool) : SameStreams r (r.groupId g addr isSender) := by
  rcases groupId_cases r g addr isSender with
    ⟨heq, -⟩ | ⟨x, s, -, -, -, heq⟩ | ⟨x, s, -, -, -, heq⟩
  · rw [heq]; exact ⟨rfl, fun _ => rfl⟩
  · have h := sameStreams_takeover (r.setGroup g addr isSender) s addr
    rw [heq]; exact ⟨h.next, h.heap⟩
  · have h := sameStreams_join (r.setGroup g addr isSender) x s addr
      (r.lastSender g addr)
    rw [heq]; exact ⟨h.next, h.heap⟩

/-! ## Codec tables -/

def counters (r : Registry S) (c : ClientRef) (f : UInt32) :
    Option ClientRtpRuntime :=
  (r.heap c).rtpRuntimeStorage.lookup f

theorem lookup_foldl_orInsert (mk : UInt32 → ClientRtpRuntime) (f : UInt32) :
    ∀ (fs : List UInt32) (st : ClientRtpRuntimeStorage),
      (fs.foldl (fun st f => Table.orInsert f (mk f) st) st).lookup f =
        if f ∈ fs then some ((st.lookup f).getD (mk f)) else st.lookup f := by
  intro fs
  induction fs with
  | nil => intro st; rfl
  | cons g fs ih =>
      intro st
      rw [List.foldl_cons, ih, Table.lookup_orInsert]
      by_cases hg : f = g
      · subst hg
        simp
      · simp [hg]

/-- What a codec table does to the counters of the client it is for: those it
lacks are made, those it has stay. -/
theorem counters_mediaAddr {r : Registry S} {addr : SocketAddr}
    {c : ClientRef} (h : r.clientAt addr = some c) (media : MediaList)
    (now : Instant) (draw : UInt32 → RuntimeDraw) (f : UInt32) :
    (r.mediaAddr addr media now draw).counters c f =
      if f ∈ media.getFrequencies then
        some ((r.counters c f).getD (ClientRtpRuntime.default now (draw f)))
      else r.counters c f := by
  simp only [mediaAddr, h, counters, modifyClient_heap_self, addRuntimes]
  exact lookup_foldl_orInsert (fun f => ClientRtpRuntime.default now (draw f)) f
    media.getFrequencies _

theorem media_mediaAddr {r : Registry S} {addr : SocketAddr} {c : ClientRef}
    (h : r.clientAt addr = some c) (media : MediaList) (now : Instant)
    (draw : UInt32 → RuntimeDraw) :
    ((r.mediaAddr addr media now draw).heap c).media = some media := by
  simp only [mediaAddr, h, modifyClient_heap_self]

/-- A codec table sets the table and the counters, and no other field. -/
theorem field_mediaAddr {β : Type} (π : Client S → β)
    (hπ : ∀ cl storage media, π { cl with
      rtpRuntimeStorage := storage, media := media } = π cl)
    (r : Registry S) (addr : SocketAddr) (media : MediaList) (now : Instant)
    (draw : UInt32 → RuntimeDraw) (c : ClientRef) :
    π ((r.mediaAddr addr media now draw).heap c) = π (r.heap c) := by
  rw [mediaAddr]
  cases r.clientAt addr with
  | none => rfl
  | some d =>
      refine (modifyClient_heap_field π ?_ _ d c).trans ?_
      · exact fun cl => hπ cl cl.rtpRuntimeStorage (some media)
      · refine modifyClient_heap_field π ?_ _ d c
        exact fun cl => hπ cl _ cl.media

theorem srtp_mediaAddr (r : Registry S) (addr : SocketAddr)
    (media : MediaList) (now : Instant) (draw : UInt32 → RuntimeDraw)
    (c : ClientRef) : ((r.mediaAddr addr media now draw).heap c).srtp =
      (r.heap c).srtp :=
  field_mediaAddr (fun cl => cl.srtp) (fun _ _ _ => rfl) r addr media now draw c

theorem jitterStats_mediaAddr (r : Registry S) (addr : SocketAddr)
    (media : MediaList) (now : Instant) (draw : UInt32 → RuntimeDraw)
    (c : ClientRef) : ((r.mediaAddr addr media now draw).heap c).jitterStats =
      (r.heap c).jitterStats :=
  field_mediaAddr (fun cl => cl.jitterStats) (fun _ _ _ => rfl) r addr media now
    draw c

theorem heap_mediaAddr_ne {r : Registry S} {addr : SocketAddr} {c : ClientRef}
    (h : r.clientAt addr ≠ some c) (media : MediaList) (now : Instant)
    (draw : UInt32 → RuntimeDraw) :
    (r.mediaAddr addr media now draw).heap c = r.heap c := by
  rw [mediaAddr]
  cases hat : r.clientAt addr with
  | none => rfl
  | some d =>
      have hne : c ≠ d := fun e => h (e ▸ hat)
      simp only [addRuntimes, modifyClient_heap_ne _ hne]

theorem groups_mediaAddr (r : Registry S) (a : SocketAddr) (media : MediaList)
    (now : Instant) (draw : UInt32 → RuntimeDraw) :
    (r.mediaAddr a media now draw).groups = r.groups := by
  rw [mediaAddr]
  cases r.clientAt a <;> rfl

theorem clientStorage_mediaAddr (r : Registry S) (addr : SocketAddr)
    (media : MediaList) (now : Instant) (draw : UInt32 → RuntimeDraw) :
    (r.mediaAddr addr media now draw).clientStorage = r.clientStorage := by
  rw [mediaAddr]
  cases r.clientAt addr <;> rfl

theorem next_mediaAddr (r : Registry S) (addr : SocketAddr)
    (media : MediaList) (now : Instant) (draw : UInt32 → RuntimeDraw) :
    (r.mediaAddr addr media now draw).next = r.next :=
  (sameRoutes_mediaAddr r addr media now draw).next

/-! ## The invariant -/

/-- Every frequency in a client's table has counters, and a client not yet
made has none. -/
structure Metered (r : Registry S) : Prop where
  listed : ∀ {c m f}, (r.heap c).media = some m → f ∈ m.getFrequencies →
    (r.counters c f).isSome = true
  fresh : ∀ {c}, r.next ≤ c → ∀ f, r.counters c f = none

theorem metered_init : Metered (init : Registry S) where
  listed h := by cases h
  fresh _ _ := rfl

theorem Metered.of_sameStreams {r r' : Registry S} (h : r.Metered)
    (hs : SameStreams r r') : r'.Metered where
  listed {c m f} hm hf := by
    rw [hs.field (fun cl => cl.media) fun _ _ _ _ => rfl] at hm
    have hc := hs.field (fun cl => cl.rtpRuntimeStorage.lookup f)
      (fun _ _ _ _ => rfl) c
    rw [counters, hc]
    exact h.listed hm hf
  fresh {c} hc f := by
    have hf := hs.field (fun cl => cl.rtpRuntimeStorage.lookup f)
      (fun _ _ _ _ => rfl) c
    rw [hs.next] at hc
    rw [counters, hf]
    exact h.fresh hc f

theorem Metered.register {r : Registry S} (h : r.Metered) (addr : SocketAddr)
    (now : Instant) : (r.register addr now).Metered := by
  cases hat : r.clientAt addr with
  | some c => rw [register_of_stored hat]; exact h
  | none =>
      have hheap := heap_register r addr now hat
      refine ⟨?_, ?_⟩
      · intro c m f hm hf
        rw [counters, hheap]
        rw [hheap] at hm
        split at hm
        · cases hm
        · next hc => rw [if_neg hc]; exact h.listed hm hf
      · intro c hc f
        rw [next_register r addr now hat] at hc
        rw [counters, hheap, if_neg (Nat.ne_of_gt hc)]
        exact h.fresh (Nat.le_of_succ_le hc) f

theorem Metered.connected {r : Registry S} (h : r.Metered) (d : ClientRef)
    (t : SrtpTransport S) : (r.connected d t).Metered := by
  have hs := sameButSessions_setSrtp r d t
  have hcounters : ∀ c f, (r.connected d t).counters c f = r.counters c f :=
    fun c f => hs.field (fun cl => cl.rtpRuntimeStorage.lookup f)
      (fun _ _ => rfl) c
  refine ⟨?_, ?_⟩
  · intro c m f hm hf
    have hmedia := hs.field (fun cl => cl.media) (fun _ _ => rfl) c
    rw [hcounters]
    exact h.listed (hmedia.symm.trans hm) hf
  · intro c hc f
    rw [hcounters]
    exact h.fresh hc f

theorem Metered.mediaAddr {r : Registry S} (h : r.Metered) (hw : r.WF)
    (addr : SocketAddr) (media : MediaList) (now : Instant)
    (draw : UInt32 → RuntimeDraw) :
    (r.mediaAddr addr media now draw).Metered := by
  refine ⟨?_, ?_⟩
  · intro c m f hm hf
    by_cases hat : r.clientAt addr = some c
    · rw [media_mediaAddr hat] at hm
      cases hm
      rw [counters_mediaAddr hat, if_pos hf]
      rfl
    · rw [heap_mediaAddr_ne hat] at hm
      rw [counters, heap_mediaAddr_ne hat]
      exact h.listed hm hf
  · intro c hc f
    rw [next_mediaAddr] at hc
    have hat : r.clientAt addr ≠ some c :=
      fun e => absurd (hw.stored_lt e) (Nat.not_lt.mpr hc)
    rw [counters, heap_mediaAddr_ne hat]
    exact h.fresh hc f

theorem Metered.handle {r : Registry S} (h : r.Metered) (hw : r.WF)
    (m : ClientActor.Message S) : (ClientActor.handle r m).Metered := by
  cases m with
  | dtls addr now => rw [ClientActor.handle_dtls]; exact h.register addr now
  | connected c t => rw [ClientActor.handle_connected]; exact h.connected c t
  | groupId g addr isSender =>
      rw [ClientActor.handle_groupId]
      exact h.of_sameStreams (sameStreams_groupId r g addr isSender)
  | mediaAddr addr media now draw =>
      rw [ClientActor.handle_mediaAddr]
      exact h.mediaAddr hw addr media now draw
  | delete addr =>
      rw [ClientActor.handle_delete]
      exact h.of_sameStreams (sameStreams_delete r addr)

theorem Metered.rtc {r : Registry S} (h : r.Metered) (hw : r.WF)
    (lib : SrtpLib S) (now : Instant) (sched : List Receiver)
    (message : DataPacket) (addr : SocketAddr) :
    (RtcActor.handle lib r now sched message addr).registry.Metered := by
  have hcounters := RtcActor.counters_handle lib r now sched message addr
  have hroutes := RtcActor.handle_sameRoutes lib r now sched message addr
  refine ⟨?_, ?_⟩
  · intro c m f hm hf
    rw [RtcActor.media_handle] at hm
    rw [counters, hcounters]
    split
    · split
      · rfl
      · exact h.listed hm hf
    · exact h.listed hm hf
  · intro c hc f
    rw [hroutes.next] at hc
    rw [counters, hcounters]
    split
    · next d g header rw hx =>
        rw [if_neg]
        · exact h.fresh hc f
        · rintro ⟨rfl, -⟩
          have hlt := hw.stored_lt (RtcActor.clientAt_of_rewritingOf hx)
          exact absurd hlt (Nat.not_lt.mpr hc)
    · exact h.fresh hc f

end RStreamer.Registry

namespace RStreamer.System

variable {S : Type}

/-- What is known of every reachable state. -/
def Sound (s : System S) : Prop := s.registry.WF ∧ s.registry.Metered

theorem sound_init : (init : System S).Sound :=
  ⟨Registry.wf_init, Registry.metered_init⟩

theorem sound_step (lib : SrtpLib S) (s : System S) (e : Event S)
    (h : s.Sound) : (step lib s e).Sound := by
  refine ⟨wf_step lib s e h.1, ?_⟩
  cases e with
  | client m => exact h.2.handle h.1 m
  | rtc message addr now sched => exact h.2.rtc h.1 lib now sched message addr
  | datagram addr data => exact h.2
  | jitter now => rw [registry_step_jitter]; exact h.2

theorem sound_after (lib : SrtpLib S) (es : List (Event S)) :
    (after lib es).Sound :=
  Machine.run_invariant (I := Sound) (sound_step lib) es sound_init

end RStreamer.System
