import RStreamer.Client.Threads
import RStreamer.Proofs.Deadlock

/-!
# The handlers keep to their protocols

Every handler, on its thread, whatever the other threads do between any two of
its steps. For a message of `ClientActor` this includes what it does to routing:
the same as if it had run alone. It needs the message not to be a takeover; what
a takeover requests is in no protocol.
-/

namespace RStreamer

open Lock Lock.Prog Registry

open ClientLock (rd wr)

variable {S : Type} {r₀ : Registry S} {ms₀ : List (ClientActor.Message S)}

/-! ## The common invariant -/

theorem Registry.counters_modifyClient (r : Registry S) (c : ClientRef)
    {u : Client S → Client S}
    (hu : ∀ cl, (u cl).rtpRuntimeStorage = cl.rtpRuntimeStorage)
    (d : ClientRef) (f : UInt32) :
    (r.modifyClient c u).counters d f = r.counters d f :=
  congrArg (fun st : ClientRtpRuntimeStorage => st.lookup f)
    (modifyClient_heap_field (fun cl => cl.rtpRuntimeStorage) hu r c d)

/-- A change that leaves the counters alone keeps the invariant. -/
theorem Serial.of_counters {s s' : Shared S} (h : Serial r₀ ms₀ s)
    (hwritten : s'.written = s.written)
    (hnext : s.registry.next ≤ s'.registry.next)
    (hstored : ∀ {a c}, s'.registry.clientAt a = some c →
      c < s'.registry.next)
    (hcounters : ∀ c f, s'.registry.counters c f = s.registry.counters c f) :
    Serial r₀ ms₀ s' where
  stored_lt := hstored
  logged_lt w hw := (h.logged_lt w (hwritten ▸ hw)).trans_le hnext
  replays c f rt hrt := by
    rw [hwritten]
    exact h.replays c f rt ((hcounters c f).symm.trans hrt)
  fresh c f hnone := by
    rw [hwritten]
    exact h.fresh c f ((hcounters c f).symm.trans hnone)
  unmade hc f := (hcounters _ f).trans (h.unmade (hnext.trans hc) f)

theorem Serial.modifyClient {s : Shared S} (h : Serial r₀ ms₀ s)
    (c : ClientRef) {u : Client S → Client S}
    (hu : ∀ cl, (u cl).rtpRuntimeStorage = cl.rtpRuntimeStorage) :
    Serial r₀ ms₀ (s.onRegistry fun r => r.modifyClient c u) :=
  h.of_counters rfl (Nat.le_refl _) h.stored_lt
    (counters_modifyClient s.registry c hu)

theorem Serial.register {s : Shared S} (h : Serial r₀ ms₀ s)
    (addr : SocketAddr) (now : Instant) :
    Serial r₀ ms₀ (s.onRegistry fun r => r.register addr now) := by
  cases hat : s.registry.clientAt addr with
  | some c =>
      have hsame : s.onRegistry (fun r => r.register addr now) = s := by
        rw [Shared.onRegistry, register_of_stored hat]
      rw [hsame]
      exact h
  | none =>
      refine h.of_counters rfl ?_ ?_ ?_
      · exact next_le_register s.registry addr now
      · intro a c hc
        show c < (s.registry.register addr now).next
        rw [next_register s.registry addr now hat]
        rcases stored_of_register hat hc with ⟨-, rfl⟩ | ⟨-, hold⟩
        · exact Nat.lt_succ_self _
        · exact Nat.lt_succ_of_lt (h.stored_lt hold)
      · intro c f
        show (s.registry.register addr now).counters c f = _
        rw [counters, heap_register s.registry addr now hat]
        split
        · next hc => rw [hc, h.unmade (Nat.le_refl _) f]; rfl
        · rfl

theorem Serial.addRuntimes {s : Shared S} (h : Serial r₀ ms₀ s)
    {addr : SocketAddr} {media : MediaList} {now : Instant}
    {draw : UInt32 → RuntimeDraw}
    (hmem : .mediaAddr addr media now draw ∈ ms₀) {c : ClientRef}
    (hc : c < s.registry.next) (fs : List UInt32) :
    Serial r₀ ms₀ (s.onRegistry fun r => r.addRuntimes c now draw fs) := by
  have hcounters : ∀ d f,
      (s.registry.addRuntimes c now draw fs).counters d f =
        if d = c ∧ f ∈ fs then
          some ((s.registry.counters c f).getD
            (ClientRtpRuntime.default now (draw f)))
        else s.registry.counters d f := by
    intro d f
    rw [counters, Registry.addRuntimes, modifyClient_heap]
    by_cases hd : d = c
    · rw [if_pos hd]
      subst hd
      simp only [true_and]
      exact lookup_foldl_orInsert (fun f => .default now (draw f)) f fs _
    · rw [if_neg hd, if_neg (fun h => hd h.1)]
      rfl
  refine ⟨h.stored_lt, h.logged_lt, ?_, ?_, ?_⟩
  · intro d f rt hrt
    change (s.registry.addRuntimes c now draw fs).counters d f = some rt at hrt
    rw [hcounters] at hrt
    split at hrt
    · next hd =>
        obtain ⟨rfl, -⟩ := hd
        cases hold : s.registry.counters d f with
        | some rt' =>
            rw [hold] at hrt
            cases hrt
            exact h.replays d f _ hold
        | none =>
            rw [hold] at hrt
            cases hrt
            obtain ⟨hstart, hlog⟩ := h.fresh d f hold
            refine ⟨_, .inr ⟨hstart, addr, media, now, draw, hmem, rfl⟩, ?_⟩
            show Replays _ (numbersOf d f s.written) _
            rw [hlog]
            exact .nil _
    · exact h.replays d f rt hrt
  · intro d f hnone
    change (s.registry.addRuntimes c now draw fs).counters d f = none at hnone
    rw [hcounters] at hnone
    split at hnone
    · cases hnone
    · exact h.fresh d f hnone
  · intro d hd f
    show (s.registry.addRuntimes c now draw fs).counters d f = none
    have hne : ¬ (d = c ∧ f ∈ fs) := by
      rintro ⟨rfl, -⟩
      exact absurd hd (Nat.not_le.mpr hc)
    rw [hcounters, if_neg hne]
    exact h.unmade hd f

theorem Registry.counters_setRuntime (r : Registry S) (c d : ClientRef)
    (f g : UInt32) (rt : ClientRtpRuntime) :
    (r.setRuntime c f rt).counters d g =
      if d = c ∧ g = f then some rt else r.counters d g := by
  rw [counters, setRuntime, modifyClient_heap]
  by_cases hd : d = c
  · subst hd
    rw [if_pos rfl, Table.lookup_insert']
    simp only [true_and]
    rfl
  · rw [if_neg hd, if_neg fun h => hd h.1]
    rfl

theorem numbersOf_concat (c : ClientRef) (f : UInt32) (log : List Written)
    (w : Written) : numbersOf c f (log ++ [w]) =
      if w.client = c ∧ w.frequency = f then numbersOf c f log ++ [w]
      else numbersOf c f log := by
  rw [numbersOf, List.filter_append]
  split
  · next h => rw [List.filter_cons_of_pos (by simpa using h)]; rfl
  · next h =>
      rw [List.filter_cons_of_neg (by simpa using h), List.filter_nil,
        List.append_nil]
      rfl

/-- The next number, from the counters as they are. -/
theorem Serial.rewrite {s : Shared S} (h : Serial r₀ ms₀ s) {c : ClientRef}
    {f : UInt32} {rt : ClientRtpRuntime}
    (hrt : s.registry.counters c f = some rt) (hc : c < s.registry.next)
    (header : RtpHeader) (now : Instant) :
    Serial r₀ ms₀ { s with
      registry := s.registry.setRuntime c f (rt.rewrite header now).runtime
      written := s.written ++ [⟨c, f, header, now,
        (rt.rewrite header now).runtime.serverSequence,
        (rt.rewrite header now).runtime.serverTs⟩] } where
  stored_lt := h.stored_lt
  logged_lt w hw := by
    rcases List.mem_append.mp hw with hold | hnew
    · exact h.logged_lt w hold
    · rw [List.mem_singleton.mp hnew]
      exact hc
  replays d g rt' hrt' := by
    rw [counters_setRuntime] at hrt'
    rw [numbersOf_concat]
    by_cases hdg : d = c ∧ g = f
    · obtain ⟨rfl, rfl⟩ := hdg
      rw [if_pos ⟨rfl, rfl⟩] at hrt' ⊢
      cases hrt'
      obtain ⟨rt₀, hstart, hreplay⟩ := h.replays d g rt hrt
      exact ⟨rt₀, hstart, .concat _ hreplay rfl rfl⟩
    · rw [if_neg hdg] at hrt'
      rw [if_neg fun e => hdg ⟨e.1.symm, e.2.symm⟩]
      exact h.replays d g rt' hrt'
  fresh d g hnone := by
    rw [counters_setRuntime] at hnone
    rw [numbersOf_concat]
    by_cases hdg : d = c ∧ g = f
    · rw [if_pos hdg] at hnone
      cases hnone
    · rw [if_neg hdg] at hnone
      rw [if_neg fun e => hdg ⟨e.1.symm, e.2.symm⟩]
      exact h.fresh d g hnone
  unmade {d} hd g := by
    have hne : ¬ (d = c ∧ g = f) := by
      rintro ⟨rfl, -⟩
      exact absurd hd (Nat.not_le.mpr hc)
    rw [counters_setRuntime, if_neg hne]
    exact h.unmade hd g

/-! ## `ClientActor` -/

namespace ClientActor

/-- An update that is not of counters keeps the guarantee. -/
theorem guar_modifyClient (held : List (Guard ClientLock)) (s : Shared S)
    (c : ClientRef) {u : Client S → Client S}
    (hu : ∀ cl, (u cl).rtpRuntimeStorage = cl.rtpRuntimeStorage) :
    protocol.guar held s (s.onRegistry fun r => r.modifyClient c u) :=
  ⟨Nat.le_refl _, fun d _ _ =>
    modifyClient_heap_field (fun cl => cl.rtpRuntimeStorage) hu s.registry c d⟩

/-- Where a message leaves routing: as `r` has it, with nothing held. -/
def Leaves {α : Type} (r : Registry S) (_ : α)
    (held : List (Guard ClientLock)) (s : Shared S) : Prop :=
  held = [] ∧ r.SameRouting s.registry

theorem obeys_dtls {r : Registry S} {s : Shared S}
    (hs : r.SameRouting s.registry) (addr : SocketAddr) (now : Instant) :
    ((handleDtls addr now).zoom Shared.registry Shared.onRegistry).Obeys
      protocol (Serial r₀ ms₀) [] s (Leaves (r.register addr now)) := by
  rw [handleDtls, zoom_withGuard, zoom_write]
  refine obeys_withGuard .storage fun s₁ _ h₁ s₂ hI₂ h₂ => ?_
  refine ⟨hI₂.register addr now, ⟨next_le_register s₂.registry addr now, ?_⟩,
    fun s₃ _ h₃ => ⟨rfl, fun s₄ _ h₄ => ⟨rfl, ?_⟩⟩⟩
  · intro c hc _
    show ((s₂.registry.register addr now).heap c).rtpRuntimeStorage = _
    cases hat : s₂.registry.clientAt addr with
    | some d => rw [register_of_stored hat]
    | none =>
        rw [heap_register s₂.registry addr now hat,
          if_neg (Nat.ne_of_lt hc)]
  · exact ((((hs.trans h₁).trans h₂).register addr now).trans h₃).trans h₄

/-- An update of one client under a guard, which is neither of routing nor of
counters. -/
theorem obeys_connected {r : Registry S} {s : Shared S}
    (hs : r.SameRouting s.registry) (c : ClientRef) (t : SrtpTransport S) :
    ((handleConnected c t).zoom Shared.registry Shared.onRegistry).Obeys
      protocol (Serial r₀ ms₀) [] s (Leaves (r.connected c t)) := by
  rw [handleConnected, zoom_withGuard, zoom_write]
  refine obeys_withGuard (.connected c) fun s₁ _ h₁ s₂ hI₂ h₂ => ?_
  refine ⟨hI₂.modifyClient c fun _ => rfl,
    guar_modifyClient _ s₂ c fun _ => rfl,
    fun s₃ _ h₃ => ⟨rfl, fun s₄ _ h₄ => ⟨rfl, ?_⟩⟩⟩
  have hset := ((hs.trans h₁).trans h₂).modifyClient c
    (f := fun cl => { cl with srtp := some t })
    (g := fun cl => { cl with srtp := some t }) fun _ _ hcl => hcl
  exact (hset.trans h₃).trans h₄

theorem obeys_mediaAddr {r : Registry S} {s : Shared S}
    (hs : r.SameRouting s.registry) {addr : SocketAddr} {media : MediaList}
    {now : Instant} {draw : UInt32 → RuntimeDraw}
    (hmem : .mediaAddr addr media now draw ∈ ms₀) :
    ((handleMediaAddr addr media now draw).zoom Shared.registry
      Shared.onRegistry).Obeys protocol (Serial r₀ ms₀) [] s
        (Leaves (r.mediaAddr addr media now draw)) := by
  rw [handleMediaAddr, zoom_withGuard, zoom_monad_bind, zoom_read]
  refine obeys_withGuard .lookup fun s₁ _ h₁ => ?_
  refine obeys_readPart fun s₂ hI₂ h₂ => ?_
  have hs₂ := (hs.trans h₁).trans h₂
  rw [Registry.mediaAddr, hs₂.clientAt addr]
  cases hat : s₂.registry.clientAt addr with
  | none =>
      intro s₃ _ h₃
      exact ⟨rfl, fun s₄ _ h₄ => ⟨rfl, (hs₂.trans h₃).trans h₄⟩⟩
  | some c =>
      simp only [zoom_withGuard, zoom_monad_bind, zoom_write]
      refine obeys_withGuard (.runtimes c) fun s₃ _ h₃ => ?_
      refine obeys_write_bind fun s₄ hI₄ h₄ => ?_
      have hs₄ := (hs₂.trans h₃).trans h₄
      have hc : c < s₄.registry.next :=
        hI₄.stored_lt ((h₃.trans h₄).clientAt addr ▸ hat)
      refine ⟨hI₄.addRuntimes hmem hc _, ⟨Nat.le_refl _, ?_⟩, ?_⟩
      · -- the counters of `c` are the ones under the guard
        intro d _ hd
        have hne : d ≠ c := by
          rintro rfl
          exact hd (List.mem_cons_self ..)
        show ((s₄.registry.addRuntimes c now draw _).heap d).rtpRuntimeStorage = _
        rw [Registry.addRuntimes, modifyClient_heap_ne _ hne]
      · have hadd : (r.addRuntimes c now draw media.getFrequencies).SameRouting
            (s₄.registry.addRuntimes c now draw media.getFrequencies) :=
          hs₄.modifyClient c fun _ _ hcl => hcl
        refine obeys_withGuard (.media c) fun s₅ _ h₅ => ?_
        refine obeys_write fun s₆ hI₆ h₆ => ?_
        refine ⟨hI₆.modifyClient c fun _ => rfl,
          guar_modifyClient _ s₆ c fun _ => rfl, fun s₇ _ h₇ => ⟨rfl,
            fun s₈ _ h₈ => ⟨rfl, fun s₉ _ h₉ => ⟨rfl, fun s₁₀ _ h₁₀ =>
              ⟨rfl, ?_⟩⟩⟩⟩⟩
        have hset := ((hadd.trans h₅).trans h₆).modifyClient c
          (f := fun cl => { cl with media := some media })
          (g := fun cl => { cl with media := some media }) (by
            intro cl cl' hcl
            simp only [Client.routing, Prod.mk.injEq] at hcl ⊢
            exact ⟨trivial, hcl.2⟩)
        exact (((hset.trans h₇).trans h₈).trans h₉).trans h₁₀

theorem obeys_handleDelete {r : Registry S} {s : Shared S}
    (hI : Serial r₀ ms₀ s) (hs : r.SameRouting s.registry)
    (addr : SocketAddr) :
    ((handleDelete addr).zoom Shared.registry Shared.onRegistry).Obeys
      protocol (Serial r₀ ms₀) [] s (Leaves (r.delete addr)) := by
  simp only [handleDelete, zoom_monad_bind, zoom_withGuard, zoom_read,
    zoom_write, zoom_pure]
  refine obeys_monad_bind (P := protocol) (obeys_withGuard .storage ?_) hI
  intro s₁ _ h₁
  refine obeys_readPart fun s₂ hI₂ h₂ => ?_
  refine obeys_write_bind fun s₃ hI₃ h₃ => ⟨?_, ⟨Nat.le_refl _, fun _ _ _ => rfl⟩,
    fun s₄ _ h₄ => ⟨rfl, fun s₅ hI₅ h₅ _ => ?_⟩⟩
  · refine hI₃.of_counters rfl (Nat.le_refl _) ?_ fun _ _ => rfl
    intro a c hc
    change AList.lookup a (s₃.registry.clientStorage.erase addr) = some c at hc
    rw [Table.lookup_erase'] at hc
    split at hc
    · cases hc
    · exact hI₃.stored_lt hc
  · have hs₂ := (hs.trans h₁).trans h₂
    have hs₅ := (((hs₂.trans h₃).eraseClient addr).trans h₄).trans h₅
    rw [Registry.delete, hs₂.clientAt addr]
    cases s₂.registry.clientAt addr with
    | none => exact fun s₆ _ h₆ => ⟨rfl, hs₅.trans h₆⟩
    | some c =>
        simp only [zoom_monad_bind, zoom_withGuard, zoom_write, zoom_pure]
        refine obeys_write_bind fun s₆ hI₆ h₆ => ⟨hI₆.of_counters rfl
          (Nat.le_refl _) hI₆.stored_lt fun _ _ => rfl,
          ⟨Nat.le_refl _, fun _ _ _ => rfl⟩, ?_⟩
        have hs₆ := (hs₅.trans h₆).removeSender addr
        refine obeys_write_bind fun s₇ hI₇ h₇ => ⟨hI₇.modifyClient c
          fun _ => rfl, guar_modifyClient _ s₇ c fun _ => rfl, ?_⟩
        have hs₇ := (hs₆.trans h₇).modifyClient c
          (f := fun cl => { cl with isDeleted := true })
          (g := fun cl => { cl with isDeleted := true }) (by
            intro cl cl' hcl
            simp only [Client.routing, Prod.mk.injEq] at hcl ⊢
            exact ⟨hcl.1, hcl.2.1, hcl.2.2.1, trivial⟩)
        refine obeys_monad_bind (P := protocol)
          (obeys_withGuard (.prune c) ?_) (hI₇.modifyClient c fun _ => rfl)
        intro s₈ _ h₈
        refine obeys_write fun s₉ hI₉ h₉ => ⟨hI₉.modifyClient c fun _ => rfl,
          guar_modifyClient _ s₉ c fun _ => rfl, fun s₁₀ _ h₁₀ => ⟨rfl,
            fun s₁₁ _ h₁₁ _ s₁₂ _ h₁₂ => ⟨rfl, ?_⟩⟩⟩
        have hs₉ := ((hs₇.trans h₈).trans h₉).pruneReceivers c
        exact ((hs₉.trans h₁₀).trans h₁₁).trans h₁₂

theorem obeys_delete {r : Registry S} {s : Shared S} (hI : Serial r₀ ms₀ s)
    (hs : r.SameRouting s.registry) (addr : SocketAddr) :
    ((handler (.delete addr)).zoom Shared.registry Shared.onRegistry).Obeys
      protocol (Serial r₀ ms₀) [] s (Leaves (r.delete addr)) := by
  rw [handler, zoom_monad_bind]
  refine obeys_monad_bind ((obeys_handleDelete hI hs addr).mono ?_) hI
  rintro - held s' - ⟨rfl, hs'⟩ - s'' - h''
  exact ⟨rfl, hs'.trans h''⟩

/-- The links of a `GroupId` that is no takeover. -/
theorem obeys_link {r : Registry S} {s : Shared S}
    (hs : r.SameRouting s.registry) {last addr : SocketAddr} {isSender : Bool}
    (hnot : ¬ (isSender = true ∧ last ≠ addr ∧
      (r.clientAt addr).isSome = true ∧ (r.clientAt last).isSome = true)) :
    ((link last addr isSender).zoom Shared.registry Shared.onRegistry).Obeys
      protocol (Serial r₀ ms₀) [] s
        (Leaves ((link last addr isSender).eval r).2) := by
  rw [eval_link, link]
  split
  · exact fun s₁ _ h₁ => ⟨rfl, hs.trans h₁⟩
  · rw [zoom_withGuard, zoom_monad_bind, zoom_read]
    refine obeys_withGuard .lookup fun s₁ _ h₁ => ?_
    refine obeys_readPart fun s₂ hI₂ h₂ => ?_
    have hs₂ := (hs.trans h₁).trans h₂
    rw [hs₂.clientAt addr, hs₂.clientAt last] at hnot ⊢
    cases hx : s₂.registry.clientAt addr with
    | none =>
        exact fun s₃ _ h₃ => ⟨rfl, fun s₄ _ h₄ =>
          ⟨rfl, (hs₂.trans h₃).trans h₄⟩⟩
    | some x =>
        cases hy : s₂.registry.clientAt last with
        | none =>
            exact fun s₃ _ h₃ => ⟨rfl, fun s₄ _ h₄ =>
              ⟨rfl, (hs₂.trans h₃).trans h₄⟩⟩
        | some y =>
            have htake : ¬ (last ≠ addr ∧ isSender = true) := by
              rintro ⟨hne, hsender⟩
              exact hnot ⟨hsender, hne, by rw [hx]; rfl, by rw [hy]; rfl⟩
            simp only [if_neg htake, zoom_withGuard, zoom_monad_bind,
              zoom_write]
            refine obeys_withGuard (.link y) fun s₃ hI₃ h₃ => ?_
            refine obeys_monad_bind (P := protocol)
              (obeys_withGuard (.senderAddr y x) ?_) hI₃
            intro s₄ _ h₄
            refine obeys_write fun s₅ hI₅ h₅ => ⟨hI₅.modifyClient x
              fun _ => rfl, guar_modifyClient _ s₅ x fun _ => rfl,
              fun s₆ _ h₆ => ⟨rfl, fun s₇ hI₇ h₇ _ => ?_⟩⟩
            have hs₇ := (((((hs₂.trans h₃).trans h₄).trans h₅).setSenderAddr x
              last).trans h₆).trans h₇
            refine obeys_write fun s₈ hI₈ h₈ => ⟨hI₈.modifyClient y
              fun _ => rfl, guar_modifyClient _ s₈ y fun _ => rfl,
              fun s₉ _ h₉ => ⟨rfl, fun s₁₀ _ h₁₀ => ⟨rfl,
                fun s₁₁ _ h₁₁ => ⟨rfl, ?_⟩⟩⟩⟩
            have hs₈ := hs₇.trans h₈
            have hset := hs₈.setReceivers y
              (((r.setSenderAddr x last).heap y).receivers.insert addr x)
            rw [hs₈.receivers y] at hset
            rw [Registry.join]
            simp only [hs₈.receivers y]
            exact ((hset.trans h₉).trans h₁₀).trans h₁₁

theorem obeys_groupId {r : Registry S} {s : Shared S}
    (hs : r.SameRouting s.registry) {g : Nat} {addr : SocketAddr}
    {isSender : Bool} (hnot : ¬ TakesOver r g addr isSender) :
    ((handleGroupId g addr isSender).zoom Shared.registry
      Shared.onRegistry).Obeys protocol (Serial r₀ ms₀) [] s
        (Leaves (r.groupId g addr isSender)) := by
  simp only [handleGroupId, zoom_monad_bind, zoom_read, zoom_write]
  refine obeys_readPart fun s₁ hI₁ h₁ => ?_
  refine obeys_write_bind fun s₂ hI₂ h₂ => ⟨hI₂.of_counters rfl
    (Nat.le_refl _) hI₂.stored_lt fun _ _ => rfl,
    ⟨Nat.le_refl _, fun _ _ _ => rfl⟩, ?_⟩
  have hlast : (s₁.registry.groups.insertOrGetSender g addr isSender).1 =
      r.lastSender g addr := by
    rw [GroupsStorage.insertOrGetSender_fst, ← (hs.trans h₁).groups]
    rfl
  have hgroup := ((hs.trans h₁).trans h₂).setGroup g addr isSender
  have heval : ((link (r.lastSender g addr) addr isSender).eval
      (r.setGroup g addr isSender)).2 = r.groupId g addr isSender := by
    rw [eval_link]
    rfl
  rw [hlast, ← heval]
  refine obeys_link hgroup ?_
  rintro ⟨hsender, hne, hx, hy⟩
  cases hat : r.groups.lookup g with
  | none =>
      rw [Registry.lastSender, hat] at hne
      exact hne rfl
  | some last =>
      rw [Registry.lastSender, hat] at hne hy
      exact hnot ⟨hsender, last, hat, hne, hx, hy⟩

/-- A message that is no takeover, as if it ran alone. -/
theorem obeys_handler {r : Registry S} {s : Shared S} (hI : Serial r₀ ms₀ s)
    (hs : r.SameRouting s.registry) {m : Message S} (hmem : m ∈ ms₀)
    (hnot : ¬ IsTakeover r m) :
    ((handler m).zoom Shared.registry Shared.onRegistry).Obeys protocol
      (Serial r₀ ms₀) [] s (Leaves (handle r m)) := by
  cases m with
  | dtls addr now => rw [handle_dtls]; exact obeys_dtls hs addr now
  | connected c t => rw [handle_connected]; exact obeys_connected hs c t
  | groupId g addr isSender =>
      rw [handle_groupId]
      exact obeys_groupId hs hnot
  | mediaAddr addr media now draw =>
      rw [handle_mediaAddr]
      exact obeys_mediaAddr hs hmem
  | delete addr => rw [handle_delete]; exact obeys_delete hI hs addr

/-- The thread of `ClientActor`, message after message. -/
theorem obeys_thread : ∀ {ms : List (Message S)} {r : Registry S}
    {s : Shared S}, (∀ m ∈ ms, m ∈ ms₀) → Serial r₀ ms₀ s →
      r.SameRouting s.registry →
      Machine.Along handle (fun r m => ¬ IsTakeover r m) r ms →
      (thread ms).Obeys protocol (Serial r₀ ms₀) [] s
        (Leaves (Machine.run handle r ms)) := by
  intro ms
  induction ms with
  | nil => intro r s _ _ hs _ s₁ _ h₁; exact ⟨rfl, hs.trans h₁⟩
  | cons m ms ih =>
      intro r s hmem hI hs halong
      refine obeys_bind ((obeys_handler hI hs (hmem m (List.mem_cons_self ..))
        halong.1).mono ?_) hI
      rintro - held s' hI' ⟨rfl, hs'⟩ -
      exact ih (fun m' hm' => hmem m' (List.mem_cons_of_mem m hm')) hI' hs'
        halong.2

end ClientActor

/-! ## `RtcActor` -/

namespace RtcActor

/-- An update that is neither of routing nor of counters keeps the
guarantee. -/
theorem guar_modifyClient (held : List (Guard ClientLock)) (s : Shared S)
    (c : ClientRef) {u : Client S → Client S}
    (hrouting : ∀ cl, (u cl).routing = cl.routing)
    (hcounters : ∀ cl, (u cl).rtpRuntimeStorage = cl.rtpRuntimeStorage) :
    protocol.guar held s (s.onRegistry fun r => r.modifyClient c u) :=
  ⟨sameRouting_modifyClient s.registry c hrouting, fun d _ =>
    modifyClient_heap_field (fun cl => cl.rtpRuntimeStorage) hcounters
      s.registry c d⟩

/-- The guards are back to `held`, and `c` is a client that was made. -/
def Knows {α : Type} (held : List (Guard ClientLock)) (c : ClientRef) (_ : α)
    (held' : List (Guard ClientLock)) (s : Shared S) : Prop :=
  held' = held ∧ c < s.registry.next

theorem obeys_findClient {held : List (Guard ClientLock)} {s : Shared S}
    (hmay : Requests held (rd .clientStorage)) (addr : SocketAddr) :
    (findClient addr).Obeys protocol (Serial r₀ ms₀) held s
      fun o held' s' => held' = held ∧ ∀ c ∈ o, c < s'.registry.next := by
  refine obeys_withGuard hmay fun s₁ _ h₁ => ?_
  refine obeys_read fun s₂ hI₂ h₂ s₃ _ h₃ => ⟨rfl, fun s₄ _ h₄ => ⟨rfl, ?_⟩⟩
  intro c hc
  exact (hI₂.stored_lt hc).trans_le (h₃.1.trans h₄.1)

theorem obeys_findCodec {s : Shared S} {c : ClientRef}
    (hc : c < s.registry.next) (rtcp : Bool) (payload : UInt8) :
    (findCodec c rtcp payload).Obeys protocol (Serial r₀ ms₀) [] s
      (Knows [] c) := by
  rw [findCodec]
  split
  · exact fun s₁ _ h₁ => ⟨rfl, hc.trans_le h₁.1⟩
  · refine obeys_withGuard (.codec c) fun s₁ _ h₁ => ?_
    refine obeys_read fun s₂ _ h₂ s₃ _ h₃ => ⟨rfl, fun s₄ _ h₄ => ⟨rfl, ?_⟩⟩
    exact hc.trans_le (((h₁.1.trans h₂.1).trans h₃.1).trans h₄.1)

/-- One call on an SRTP session, under its lock. -/
theorem obeys_setSrtp {held : List (Guard ClientLock)} {s : Shared S}
    {d : ClientRef} {t : SrtpTransport S} {α : Type}
    {k : Unit → Prog ClientLock (Shared S) α}
    {Q : α → List (Guard ClientLock) → Shared S → Prop}
    (h : ∀ s', s.registry.next ≤ s'.registry.next →
      (k ()).Obeys protocol (Serial r₀ ms₀) held s' Q) :
    (write (Shared.onRegistry fun r => r.setSrtp d t) >>= k).Obeys protocol
      (Serial r₀ ms₀) held s Q :=
  obeys_write_bind fun s₁ hI₁ h₁ => ⟨hI₁.modifyClient d fun _ => rfl,
    guar_modifyClient _ s₁ d (fun _ => rfl) (fun _ => rfl), h _ h₁.1⟩

theorem obeys_decrypt {s : Shared S} {c : ClientRef}
    (hc : c < s.registry.next) (lib : SrtpLib S) (addr : SocketAddr)
    (rtcp : Bool) (header : RtpHeader) (message : DataPacket) :
    (decrypt lib c addr rtcp header message).Obeys protocol (Serial r₀ ms₀) []
      s (Knows [] c) := by
  refine obeys_withGuard (.decrypt c) fun s₁ _ h₁ => ?_
  refine obeys_read fun s₂ _ h₂ => ?_
  have hc₂ := hc.trans_le (h₁.1.trans h₂.1)
  -- every way out of the block returns at once
  have hret : ∀ (s : Shared S) (a : Except ErrorParse DataPacket),
      s₂.registry.next ≤ s.registry.next →
      (pure a : Prog ClientLock (Shared S) _).Obeys protocol (Serial r₀ ms₀)
        [wr (.srtp c)] s fun a held' s' => held' = [wr (.srtp c)] ∧
          ∀ s'', Serial r₀ ms₀ s'' → protocol.rely [] s' s'' →
            Knows [] c a [] s'' := fun s a hs s₃ _ h₃ =>
    ⟨rfl, fun s₄ _ h₄ =>
      ⟨rfl, hc₂.trans_le ((hs.trans h₃.1).trans h₄.1)⟩⟩
  cases (s₂.registry.heap c).srtp with
  | none => exact hret s₂ _ (Nat.le_refl _)
  | some t =>
      refine obeys_setSrtp fun s₃ h₃ => ?_
      cases (t.unprotect lib rtcp message).2 with
      | none => exact hret s₃ _ h₃
      | some plain =>
          simp only []
          split
          · exact hret s₃ _ h₃
          · exact hret s₃ _ h₃

theorem obeys_adjustDelay {s : Shared S} {c : ClientRef}
    (hc : c < s.registry.next) (frequency : UInt32) (rw : Rewriting)
    (addr : SocketAddr) (now : Instant) :
    (adjustDelay c frequency rw addr now).Obeys protocol (Serial r₀ ms₀)
      [wr (.rtpRuntimeStorage c)] s
      (Knows [wr (.rtpRuntimeStorage c)] c) := by
  refine obeys_withGuard (.stats c) fun s₁ _ h₁ => ?_
  refine obeys_read fun s₂ _ h₂ => ?_
  refine obeys_write_bind fun s₃ hI₃ h₃ => ⟨hI₃.modifyClient c fun _ => rfl,
    guar_modifyClient _ s₃ c (fun _ => rfl) (fun _ => rfl), ?_⟩
  refine obeys_write fun s₄ hI₄ h₄ => ⟨hI₄.of_counters rfl (Nat.le_refl _)
    hI₄.stored_lt fun _ _ => rfl, ⟨.refl _, fun _ _ => rfl⟩,
    fun s₅ _ h₅ => ⟨rfl, fun s₆ _ h₆ => ⟨rfl, ?_⟩⟩⟩
  exact hc.trans_le (((((h₁.1.trans h₂.1).trans h₃.1).trans h₄.1).trans
    h₅.1).trans h₆.1)

theorem obeys_replaceMeta {s : Shared S} {c : ClientRef}
    (hc : c < s.registry.next) (addr : SocketAddr) (now : Instant)
    (p : Prepared) :
    (replaceMeta c addr now p).Obeys protocol (Serial r₀ ms₀) [] s
      (Knows [] c) := by
  refine obeys_withGuard (.counters c) fun s₁ _ h₁ => ?_
  refine obeys_read fun s₂ _ h₂ => ?_
  have hc₂ := hc.trans_le (h₁.1.trans h₂.1)
  cases hrt : runtimeOf (s₂.registry.heap c) p.codecNFrequency with
  | none =>
      exact fun s₃ _ h₃ => ⟨rfl, fun s₄ _ h₄ =>
        ⟨rfl, hc₂.trans_le (h₃.1.trans h₄.1)⟩⟩
  | some frt =>
      obtain ⟨f, rt⟩ := frt
      refine obeys_write_bind fun s₃ hI₃ h₃ => ?_
      have hc₃ := hc₂.trans_le h₃.1
      -- nobody has touched the counters since they were read
      have hcounters : s₃.registry.counters c f = some rt := by
        have hsame := h₃.2 c hc₂ (List.mem_cons_self ..)
        obtain ⟨cf, -, hmap⟩ := Option.bind_eq_some_iff.mp hrt
        obtain ⟨rt', hlookup, heq⟩ := Option.map_eq_some_iff.mp hmap
        cases heq
        rw [counters, hsame]
        exact hlookup
      refine ⟨hI₃.rewrite hcounters hc₃ p.header now, ⟨?_, ?_⟩, ?_⟩
      · show s₃.registry.SameRouting (s₃.registry.setRuntime c f _)
        exact sameRouting_modifyClient s₃.registry c fun _ => rfl
      · intro d hd
        have hne : d ≠ c := by
          rintro rfl
          exact hd (List.mem_cons_self ..)
        show ((s₃.registry.setRuntime c f _).heap d).rtpRuntimeStorage = _
        rw [Registry.setRuntime, modifyClient_heap_ne _ hne]
      · refine obeys_monad_bind (P := protocol) (Obeys.mono
          (obeys_adjustDelay (c := c) ?_ f _ addr now) ?_)
          (hI₃.rewrite hcounters hc₃ p.header now)
        · exact hc₃
        rintro - held s₄ - ⟨rfl, hc₄⟩ - s₅ - h₅
        exact ⟨rfl, fun s₆ _ h₆ => ⟨rfl, hc₄.trans_le (h₅.1.trans h₆.1)⟩⟩

/-! Under the guard of the receivers nothing is needed of the memory any more:
what is left to say is which guards are requested. -/

/-- The guards are back to `held`. -/
def Returns {α : Type} (held : List (Guard ClientLock)) (_ : α)
    (held' : List (Guard ClientLock)) (_ : Shared S) : Prop :=
  held' = held

theorem obeys_send {held : List (Guard ClientLock)} {s : Shared S}
    (e : Emission) {α : Type} {k : Unit → Prog ClientLock (Shared S) α}
    {Q : α → List (Guard ClientLock) → Shared S → Prop}
    (h : ∀ s', Serial r₀ ms₀ s' →
      (k ()).Obeys protocol (Serial r₀ ms₀) held s' Q) :
    (write (Shared.send e) >>= k).Obeys protocol (Serial r₀ ms₀) held s Q := by
  refine obeys_write_bind fun s₁ hI₁ _ => ?_
  have hI : Serial r₀ ms₀ (s₁.send e) :=
    hI₁.of_counters rfl (Nat.le_refl _) hI₁.stored_lt fun _ _ => rfl
  exact ⟨hI, ⟨.refl _, fun _ _ => rfl⟩, h _ hI⟩

theorem obeys_encrypt (lib : SrtpLib S) (addr : SocketAddr) (p : Prepared)
    (recv : Receiver) (c : ClientRef) (s : Shared S) :
    (encrypt lib addr p recv).Obeys protocol (Serial r₀ ms₀)
      [rd (.receivers c)] s (Returns [rd (.receivers c)]) := by
  refine obeys_withGuard (.encrypt c recv.2) fun s₁ _ _ => ?_
  refine obeys_read fun s₂ _ _ => ?_
  cases (s₂.registry.heap recv.2).srtp with
  | none => exact fun s₃ _ _ => ⟨rfl, fun s₄ _ _ => rfl⟩
  | some t =>
      refine obeys_setSrtp fun s₃ _ => ?_
      cases (t.protect lib p.rtcp p.message).2 with
      | none => exact fun s₄ _ _ => ⟨rfl, fun s₅ _ _ => rfl⟩
      | some message => exact fun s₄ _ _ => ⟨rfl, fun s₅ _ _ => rfl⟩

theorem obeys_preparePayloadType (p : Prepared) (recv : Receiver)
    (message : DataPacket) (c : ClientRef) (s : Shared S) :
    (preparePayloadType p recv message).Obeys protocol (Serial r₀ ms₀)
      [rd (.receivers c)] s (Returns [rd (.receivers c)]) := by
  rw [preparePayloadType]
  split
  · split
    · refine obeys_withGuard (.payload c recv.2) fun s₁ _ _ => ?_
      exact obeys_read fun s₂ _ _ s₃ _ _ => ⟨rfl, fun s₄ _ _ => rfl⟩
    · exact fun s₁ _ _ => rfl
  · exact fun s₁ _ _ => rfl

theorem obeys_sendToReceiver (lib : SrtpLib S) (addr : SocketAddr)
    (p : Prepared) (recv : Receiver) (c : ClientRef) {s : Shared S}
    (hI : Serial r₀ ms₀ s) :
    (sendToReceiver lib addr p recv).Obeys protocol (Serial r₀ ms₀)
      [rd (.receivers c)] s (Returns [rd (.receivers c)]) := by
  refine obeys_monad_bind ((obeys_encrypt lib addr p recv c s).mono ?_) hI
  rintro res held s₁ - rfl hI₁
  cases res with
  | error e => exact fun s₂ _ _ => rfl
  | ok message =>
      refine obeys_monad_bind
        ((obeys_preparePayloadType p recv message c s₁).mono ?_) hI₁
      rintro message' held s₂ - rfl -
      exact obeys_send _ fun s₃ _ s₄ _ _ => rfl

theorem obeys_sendEach (lib : SrtpLib S) (addr : SocketAddr) (p : Prepared)
    (c : ClientRef) : ∀ (rs : List Receiver) {s : Shared S},
      (sendEach lib addr p rs).Obeys protocol (Serial r₀ ms₀)
        [rd (.receivers c)] s (Returns [rd (.receivers c)]) := by
  intro rs
  induction rs with
  | nil => exact fun s₁ _ _ => rfl
  | cons recv rest ih =>
      intro s
      refine obeys_read fun s₁ hI₁ _ => ?_
      split
      · exact ih
      · refine obeys_monad_bind
          ((obeys_sendToReceiver lib addr p recv c hI₁).mono ?_) hI₁
        rintro res held s₂ hI₂ rfl -
        refine obeys_monad_bind (ih.mono ?_) hI₂
        rintro more held s₃ - rfl - s₄ - -
        exact rfl

theorem obeys_sendAll (lib : SrtpLib S) (addr : SocketAddr) (p : Prepared)
    (c : ClientRef) (sched : List Receiver) (s : Shared S) :
    (sendAll lib addr p c sched).Obeys protocol (Serial r₀ ms₀)
      [rd (.receivers c)] s (Returns [rd (.receivers c)]) := by
  refine obeys_read fun s₁ hI₁ _ => ?_
  refine obeys_monad_bind ((obeys_sendEach lib addr p c _).mono ?_) hI₁
  rintro first held s₂ hI₂ rfl -
  split
  · exact fun s₃ _ _ => rfl
  · refine obeys_monad_bind ((obeys_sendEach lib addr p c _).mono ?_) hI₂
    rintro rest held s₃ - rfl - s₄ - -
    exact rfl

theorem obeys_encryptFeedback (lib : SrtpLib S) (p : Prepared)
    (c : ClientRef) (s : Shared S) :
    (encryptFeedback lib p c).Obeys protocol (Serial r₀ ms₀)
      [rd (.receivers c)] s (Returns [rd (.receivers c)]) := by
  refine obeys_withGuard (.senderAddr c) fun s₁ _ _ => ?_
  refine obeys_read fun s₂ hI₂ _ => ?_
  cases (s₂.registry.heap c).senderAddr with
  | none => exact fun s₃ _ _ => ⟨rfl, fun s₄ _ _ => rfl⟩
  | some senderAddr =>
      refine obeys_monad_bind
        ((obeys_findClient (.sender c) senderAddr).mono ?_) hI₂
      rintro o held s₃ - ⟨rfl, -⟩ -
      cases o with
      | none => exact fun s₄ _ _ => ⟨rfl, fun s₅ _ _ => rfl⟩
      | some sender =>
          refine obeys_withGuard (.feedback c sender) fun s₄ _ _ => ?_
          refine obeys_read fun s₅ _ _ => ?_
          cases (s₅.registry.heap sender).srtp with
          | none =>
              exact fun s₆ _ _ => ⟨rfl, fun s₇ _ _ => ⟨rfl,
                fun s₈ _ _ => rfl⟩⟩
          | some t =>
              refine obeys_setSrtp fun s₆ _ => ?_
              cases (t.protect lib true p.message).2 with
              | none =>
                  exact fun s₇ _ _ => ⟨rfl, fun s₈ _ _ => ⟨rfl,
                    fun s₉ _ _ => rfl⟩⟩
              | some message =>
                  exact fun s₇ _ _ => ⟨rfl, fun s₈ _ _ => ⟨rfl,
                    fun s₉ _ _ => rfl⟩⟩

theorem obeys_sendFeedback (lib : SrtpLib S) (p : Prepared) (c : ClientRef)
    {s : Shared S} (hI : Serial r₀ ms₀ s) :
    (sendFeedback lib p c).Obeys protocol (Serial r₀ ms₀)
      [rd (.receivers c)] s (Returns [rd (.receivers c)]) := by
  refine obeys_monad_bind ((obeys_encryptFeedback lib p c s).mono ?_) hI
  rintro res held s₁ - rfl -
  cases res with
  | none => exact fun s₂ _ _ => rfl
  | some res =>
      cases res with
      | error e => exact fun s₂ _ _ => rfl
      | ok e => exact obeys_send e fun s₂ _ s₃ _ _ => rfl

theorem obeys_forwardAll (lib : SrtpLib S) (addr : SocketAddr) (p : Prepared)
    (c : ClientRef) (sched : List Receiver) (s : Shared S) :
    (forwardAll lib addr p c sched).Obeys protocol (Serial r₀ ms₀) [] s
      (Returns []) := by
  refine obeys_withGuard (.receivers c) fun s₁ _ _ => ?_
  refine obeys_read fun s₂ hI₂ _ => ?_
  have hback : ∀ (a : Except ErrorParse Unit) held (s' : Shared S),
      Serial r₀ ms₀ s' → Returns [rd (.receivers c)] a held s' →
      held = [rd (.receivers c)] ∧ ∀ s'', Serial r₀ ms₀ s'' →
        protocol.rely [] s' s'' → Returns [] a [] s'' :=
    fun _ _ _ _ hheld => ⟨hheld, fun _ _ _ => rfl⟩
  split
  · exact (obeys_sendFeedback lib p c hI₂).mono hback
  · exact (obeys_sendAll lib addr p c sched s₂).mono hback

theorem obeys_handlePacket (lib : SrtpLib S) (now : Instant)
    (sched : List Receiver) (message : DataPacket) (addr : SocketAddr)
    {c : ClientRef} (rtcp : Bool) (header : RtpHeader) {s : Shared S}
    (hI : Serial r₀ ms₀ s) (hc : c < s.registry.next) :
    (handlePacket lib now sched message addr c rtcp header).Obeys protocol
      (Serial r₀ ms₀) [] s (Returns []) := by
  refine obeys_monad_bind ((obeys_findCodec hc rtcp header.payload).mono ?_) hI
  rintro codec held s₁ - ⟨rfl, hc₁⟩ hI₁
  refine obeys_monad_bind
    ((obeys_decrypt hc₁ lib addr rtcp header message).mono ?_) hI₁
  rintro res held s₂ - ⟨rfl, hc₂⟩ hI₂
  cases res with
  | error e => exact fun s₃ _ _ => rfl
  | ok plain =>
      simp only []
      split
      · exact obeys_forwardAll lib addr _ c sched s₂
      · refine obeys_monad_bind
          ((obeys_replaceMeta hc₂ addr now _).mono ?_) hI₂
        rintro res held s₃ - ⟨rfl, -⟩ -
        cases res with
        | error e => exact fun s₄ _ _ => rfl
        | ok message' => exact obeys_forwardAll lib addr _ c sched s₃

theorem obeys_handler (lib : SrtpLib S) (now : Instant)
    (sched : List Receiver) (message : DataPacket) (addr : SocketAddr)
    {s : Shared S} (hI : Serial r₀ ms₀ s) :
    (handler lib now sched message addr).Obeys protocol (Serial r₀ ms₀) [] s
      (Returns []) := by
  refine obeys_monad_bind ((obeys_findClient .lookup addr).mono ?_) hI
  rintro o held s₁ - ⟨rfl, hc⟩ hI₁
  cases o with
  | none => exact fun s₂ _ _ => rfl
  | some c =>
      simp only []
      split
      · exact obeys_handlePacket lib now sched message addr _ _ hI₁ (hc c rfl)
      · exact fun s₂ _ _ => rfl
      · exact fun s₂ _ _ => rfl

/-- A thread of `RtcActor`, packet after packet. -/
theorem obeys_thread (lib : SrtpLib S) (jobs : List MediaJob)
    {s : Shared S} (hI : Serial r₀ ms₀ s) :
    (thread lib jobs).Obeys protocol (Serial r₀ ms₀) [] s fun _ held _ =>
      held = [] ∧ True := by
  refine obeys_forEach (J := fun _ => True) (fun _ _ _ _ => trivial) ?_ hI
    trivial
  intro job _ s' hI' _
  refine obeys_bind ((obeys_handler lib job.now job.sched job.message job.addr
    hI').mono ?_) hI'
  rintro res held s₁ - rfl - s₂ - -
  exact ⟨rfl, trivial⟩

end RtcActor

end RStreamer
