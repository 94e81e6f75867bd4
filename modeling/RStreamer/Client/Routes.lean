import RStreamer.Client.Actor

/-!
# The routing part of the registry

Who is stored where, who receives from whom and who is deleted: the fields the
fan-out reads. This file says once what each message does to them, and proves
the invariant every routing result starts from.

`Registry.WF` ties the storage, the receivers maps and the deletion flag
together. A stored client is alive and stored at one address only; an entry of
a receivers map names a client that exists, and as long as that client is
alive it is the one stored under the entry's key. A deleted client may stay in
receivers maps, and a new client may be stored at its address; what `WF`
excludes is that an entry names a living client of another address.
-/

namespace RStreamer.Registry

variable {S : Type}

/-! ## What the updates do to the routing fields -/

theorem clientAt_register (r : Registry S) (addr : SocketAddr) (now : Instant)
    (h : r.clientAt addr = none) (a : SocketAddr) :
    (r.register addr now).clientAt a =
      if a = addr then some r.next else r.clientAt a := by
  simp only [register, h]
  exact Table.lookup_insert' a addr r.next r.clientStorage

theorem heap_register (r : Registry S) (addr : SocketAddr) (now : Instant)
    (h : r.clientAt addr = none) (c : ClientRef) :
    (r.register addr now).heap c =
      if c = r.next then Client.default now else r.heap c := by
  simp only [register, h, Function.update_apply]

theorem next_register (r : Registry S) (addr : SocketAddr) (now : Instant)
    (h : r.clientAt addr = none) :
    (r.register addr now).next = r.next + 1 := by
  simp only [register, h]

theorem register_of_stored {r : Registry S} {addr : SocketAddr} {c : ClientRef}
    (h : r.clientAt addr = some c) (now : Instant) :
    r.register addr now = r := by
  simp only [register, h]

theorem next_le_register (r : Registry S) (addr : SocketAddr)
    (now : Instant) : r.next ≤ (r.register addr now).next := by
  cases h : r.clientAt addr with
  | none => rw [next_register r addr now h]; exact Nat.le_succ _
  | some c => rw [register_of_stored h]

theorem groups_register (r : Registry S) (a : SocketAddr) (now : Instant) :
    (r.register a now).groups = r.groups := by
  rw [register]
  cases r.clientAt a <;> rfl

theorem stored_of_register {r : Registry S} {addr a : SocketAddr}
    {now : Instant} {c : ClientRef} (h : r.clientAt addr = none)
    (ha : (r.register addr now).clientAt a = some c) :
    (a = addr ∧ c = r.next) ∨ (a ≠ addr ∧ r.clientAt a = some c) := by
  rw [clientAt_register r addr now h] at ha
  split at ha
  · next haddr => exact .inl ⟨haddr, (Option.some.inj ha).symm⟩
  · next hne => exact .inr ⟨hne, ha⟩

theorem clientStorage_delete (r : Registry S) (addr : SocketAddr) :
    (r.delete addr).clientStorage = r.clientStorage.erase addr := by
  rw [delete]
  cases r.clientAt addr <;> rfl

theorem clientAt_delete (r : Registry S) (addr a : SocketAddr) :
    (r.delete addr).clientAt a = if a = addr then none else r.clientAt a := by
  rw [clientAt, clientStorage_delete]
  exact Table.lookup_erase' a addr r.clientStorage

theorem stored_of_delete {r : Registry S} {addr a : SocketAddr}
    {c : ClientRef} (ha : (r.delete addr).clientAt a = some c) :
    a ≠ addr ∧ r.clientAt a = some c := by
  rw [clientAt_delete] at ha
  split at ha
  · cases ha
  · next hne => exact ⟨hne, ha⟩

theorem next_delete (r : Registry S) (addr : SocketAddr) :
    (r.delete addr).next = r.next := by
  rw [delete]
  cases r.clientAt addr <;> rfl

theorem heap_delete_ne {r : Registry S} {addr : SocketAddr} {c : ClientRef}
    (h : r.clientAt addr ≠ some c) : (r.delete addr).heap c = r.heap c := by
  rw [delete]
  cases hat : r.clientAt addr with
  | none => rfl
  | some d =>
      have hne : c ≠ d := fun e => h (e ▸ hat)
      simp only [pruneReceivers, modifyClient_heap_ne _ hne]

theorem isDeleted_delete_self {r : Registry S} {addr : SocketAddr}
    {c : ClientRef} (h : r.clientAt addr = some c) :
    ((r.delete addr).heap c).isDeleted = true := by
  simp only [delete, h, pruneReceivers, modifyClient_heap_self]

theorem receivers_delete {r : Registry S} {addr b : SocketAddr}
    {c t : ClientRef}
    (h : ((r.delete addr).heap c).receivers.lookup b = some t) :
    (r.heap c).receivers.lookup b = some t := by
  by_cases hc : r.clientAt addr = some c
  · simp only [delete, hc, pruneReceivers, modifyClient_heap_self] at h
    exact (Table.lookup_filter_eq_some.mp h).1
  · rwa [heap_delete_ne hc] at h

/-! A takeover rewrites the receivers of one client and the sender address of
everyone who stays in that map. -/

/-- The clients a takeover by `addr` relinks: the old sender's receivers but
the one at `addr`. -/
def relinked (r : Registry S) (s : ClientRef) (addr : SocketAddr) :
    List ClientRef :=
  (r.receiversExcept s addr).entries.map fun e => e.2

theorem lookup_receiversExcept {r : Registry S} {s t : ClientRef}
    {addr b : SocketAddr} :
    (r.receiversExcept s addr).lookup b = some t ↔
      (r.heap s).receivers.lookup b = some t ∧ b ≠ addr := by
  rw [receiversExcept, Table.lookup_filter_eq_some]
  simp

theorem mem_relinked {r : Registry S} {s t : ClientRef} {addr : SocketAddr} :
    t ∈ r.relinked s addr ↔
      ∃ b, (r.heap s).receivers.lookup b = some t ∧ b ≠ addr := by
  rw [relinked, List.mem_map]
  refine ⟨?_, ?_⟩
  · rintro ⟨⟨b, t'⟩, hmem, rfl⟩
    exact ⟨b, lookup_receiversExcept.mp (Table.mem_entries_iff.mp hmem)⟩
  · rintro ⟨b, hb⟩
    exact ⟨⟨b, t⟩, Table.mem_entries_iff.mpr (lookup_receiversExcept.mpr hb),
      rfl⟩

/-- The loop of a takeover sets one field and leaves the rest of the registry
alone. -/
theorem foldl_setSenderAddr (addr : SocketAddr)
    (es : List (Table.Entry SocketAddr ClientRef)) :
    ∀ r : Registry S,
      let r' := es.foldl (fun r e => r.setSenderAddr e.2 addr) r
      r'.clientStorage = r.clientStorage ∧ r'.next = r.next ∧
      r'.groups = r.groups ∧
      ∀ c, r'.heap c = { r.heap c with
        senderAddr := if c ∈ es.map (fun e => e.2) then some addr
          else (r.heap c).senderAddr } := by
  induction es with
  | nil => intro r; exact ⟨rfl, rfl, rfl, fun c => by simp⟩
  | cons e es ih =>
      intro r
      obtain ⟨h₁, h₂, h₃, h₄⟩ := ih (r.setSenderAddr e.2 addr)
      refine ⟨h₁, h₂, h₃, fun c => ?_⟩
      rw [List.foldl_cons, h₄, setSenderAddr, modifyClient_heap,
        List.map_cons]
      by_cases hc : c = e.2
      · subst hc
        simp
      · simp only [hc, if_false, List.mem_cons, false_or]

theorem clientStorage_takeover (r : Registry S) (s : ClientRef)
    (addr : SocketAddr) :
    (r.takeover s addr).clientStorage = r.clientStorage :=
  (foldl_setSenderAddr addr (r.receiversExcept s addr).entries r).1

theorem clientAt_takeover (r : Registry S) (s : ClientRef)
    (addr a : SocketAddr) :
    (r.takeover s addr).clientAt a = r.clientAt a := by
  rw [clientAt, clientStorage_takeover]
  rfl

theorem next_takeover (r : Registry S) (s : ClientRef) (addr : SocketAddr) :
    (r.takeover s addr).next = r.next :=
  (foldl_setSenderAddr addr (r.receiversExcept s addr).entries r).2.1

theorem heap_takeover (r : Registry S) (s : ClientRef) (addr : SocketAddr)
    (c : ClientRef) : (r.takeover s addr).heap c =
      { r.heap c with
        receivers := if c = s then r.receiversExcept s addr
          else (r.heap c).receivers
        senderAddr := if c ∈ r.relinked s addr then some addr
          else (r.heap c).senderAddr } := by
  have h := (foldl_setSenderAddr addr (r.receiversExcept s addr).entries r).2.2.2
  simp only [takeover, setReceivers, modifyClient_heap, h]
  by_cases hc : c = s
  · subst hc
    simp only [if_true, relinked]
    rfl
  · simp only [hc, if_false, relinked]
    rfl

theorem receivers_takeover {r : Registry S} {s c t : ClientRef}
    {addr b : SocketAddr}
    (he : ((r.takeover s addr).heap c).receivers.lookup b = some t) :
    (r.heap c).receivers.lookup b = some t := by
  rw [heap_takeover] at he
  split at he
  · next hc => subst hc; exact (lookup_receiversExcept.mp he).1
  · exact he

theorem heap_join (r : Registry S) (x s : ClientRef) (addr last : SocketAddr)
    (c : ClientRef) : (r.join x s addr last).heap c =
      { r.heap c with
        receivers := if c = s then (r.heap s).receivers.insert addr x
          else (r.heap c).receivers
        senderAddr := if c = x then some last
          else (r.heap c).senderAddr } := by
  simp only [join, setReceivers, setSenderAddr, modifyClient_heap]
  by_cases hs : c = s
  · subst hs
    by_cases hx : c = x
    · subst hx; simp
    · simp [hx]
  · by_cases hx : c = x
    · subst hx; simp [hs]
    · simp [hs, hx]

theorem receivers_join {r : Registry S} {x s c t : ClientRef}
    {addr last b : SocketAddr} (hx : r.clientAt addr = some x)
    (he : ((r.join x s addr last).heap c).receivers.lookup b = some t) :
    (r.heap c).receivers.lookup b = some t ∨ r.clientAt b = some t := by
  rw [heap_join] at he
  split at he
  · next hc =>
      subst hc
      rw [Table.lookup_insert'] at he
      split at he
      · next hb =>
          -- the new entry
          cases he
          exact .inr (hb ▸ hx)
      · exact .inl he
  · exact .inl he

/-- Everything a `GroupId` can do: nothing but the group table, a takeover, or
a join. -/
theorem groupId_cases (r : Registry S) (g : Nat) (addr : SocketAddr)
    (isSender : Bool) :
    (r.groupId g addr isSender = r.setGroup g addr isSender ∧
      ∀ x s, r.clientAt addr = some x →
        r.clientAt (r.lastSender g addr) = some s →
        r.lastSender g addr = addr ∧ isSender = false) ∨
    (∃ x s, r.clientAt addr = some x ∧
      r.clientAt (r.lastSender g addr) = some s ∧
      (r.lastSender g addr ≠ addr ∧ isSender = true) ∧
      r.groupId g addr isSender =
        (r.setGroup g addr isSender).takeover s addr) ∨
    (∃ x s, r.clientAt addr = some x ∧
      r.clientAt (r.lastSender g addr) = some s ∧
      (r.lastSender g addr = addr ↔ isSender = true) ∧
      r.groupId g addr isSender =
        (r.setGroup g addr isSender).join x s addr (r.lastSender g addr)) := by
  unfold groupId
  simp only []
  split
  · next hearly => exact .inl ⟨rfl, fun _ _ _ _ => by simpa using hearly⟩
  · next hearly =>
      cases hx : r.clientAt addr with
      | none => exact .inl ⟨rfl, fun x s h => by cases h⟩
      | some x =>
          cases hs : r.clientAt (r.lastSender g addr) with
          | none => exact .inl ⟨rfl, fun x s _ h => by cases h⟩
          | some s =>
              simp only []
              split
              · next htake => exact .inr (.inl ⟨x, s, rfl, rfl, htake, rfl⟩)
              · next htake =>
                  refine .inr (.inr ⟨x, s, rfl, rfl, ?_, rfl⟩)
                  cases isSender with
                  | true => simpa using htake
                  | false => simpa using hearly

theorem clientStorage_groupId (r : Registry S) (g : Nat) (addr : SocketAddr)
    (isSender : Bool) :
    (r.groupId g addr isSender).clientStorage = r.clientStorage := by
  rcases groupId_cases r g addr isSender with
    ⟨heq, -⟩ | ⟨x, s, -, -, -, heq⟩ | ⟨x, s, -, -, -, heq⟩
  · rw [heq]; rfl
  · rw [heq, clientStorage_takeover]; rfl
  · rw [heq]; rfl

theorem groups_groupId (r : Registry S) (g : Nat) (a : SocketAddr)
    (isSender : Bool) :
    (r.groupId g a isSender).groups = (r.setGroup g a isSender).groups := by
  rcases groupId_cases r g a isSender with
    ⟨heq, -⟩ | ⟨x, s, -, -, -, heq⟩ | ⟨x, s, -, -, -, heq⟩
  · rw [heq]
  · rw [heq]
    exact (foldl_setSenderAddr a
      ((r.setGroup g a isSender).receiversExcept s a).entries _).2.2.1
  · rw [heq]; rfl

/-! ## Registries with the same routes -/

/-- Two registries the fan-out cannot tell apart: they may differ in media,
counters and SRTP sessions only. -/
structure SameRoutes (r r' : Registry S) : Prop where
  clientAt : ∀ a, r'.clientAt a = r.clientAt a
  next : r'.next = r.next
  receivers : ∀ c, (r'.heap c).receivers = (r.heap c).receivers
  senderAddr : ∀ c, (r'.heap c).senderAddr = (r.heap c).senderAddr
  isDeleted : ∀ c, (r'.heap c).isDeleted = (r.heap c).isDeleted

theorem SameRoutes.refl (r : Registry S) : SameRoutes r r :=
  ⟨fun _ => rfl, rfl, fun _ => rfl, fun _ => rfl, fun _ => rfl⟩

theorem SameRoutes.trans {r r' r'' : Registry S} (h : SameRoutes r r')
    (h' : SameRoutes r' r'') : SameRoutes r r'' where
  clientAt a := (h'.clientAt a).trans (h.clientAt a)
  next := h'.next.trans h.next
  receivers c := (h'.receivers c).trans (h.receivers c)
  senderAddr c := (h'.senderAddr c).trans (h.senderAddr c)
  isDeleted c := (h'.isDeleted c).trans (h.isDeleted c)

theorem sameRoutes_modifyClient {f : Client S → Client S}
    (hrecv : ∀ cl, (f cl).receivers = cl.receivers)
    (hsend : ∀ cl, (f cl).senderAddr = cl.senderAddr)
    (hdel : ∀ cl, (f cl).isDeleted = cl.isDeleted) (r : Registry S)
    (c : ClientRef) : SameRoutes r (r.modifyClient c f) where
  clientAt _ := rfl
  next := rfl
  receivers d := modifyClient_heap_field (fun cl => cl.receivers) hrecv r c d
  senderAddr d := modifyClient_heap_field (fun cl => cl.senderAddr) hsend r c d
  isDeleted d := modifyClient_heap_field (fun cl => cl.isDeleted) hdel r c d

theorem sameRoutes_setGroup (r : Registry S) (g : Nat) (addr : SocketAddr)
    (isSender : Bool) : SameRoutes r (r.setGroup g addr isSender) :=
  ⟨fun _ => rfl, rfl, fun _ => rfl, fun _ => rfl, fun _ => rfl⟩

theorem sameRoutes_connected (r : Registry S) (c : ClientRef)
    (t : SrtpTransport S) : SameRoutes r (r.connected c t) := by
  apply sameRoutes_modifyClient <;> intro cl <;> rfl

theorem sameRoutes_mediaAddr (r : Registry S) (addr : SocketAddr)
    (media : MediaList) (now : Instant) (draw : UInt32 → RuntimeDraw) :
    SameRoutes r (r.mediaAddr addr media now draw) := by
  rw [mediaAddr]
  cases r.clientAt addr with
  | none => exact SameRoutes.refl r
  | some c =>
      have hcounters : SameRoutes r
          (r.addRuntimes c now draw media.getFrequencies) := by
        apply sameRoutes_modifyClient <;> intro cl <;> rfl
      refine hcounters.trans ?_
      apply sameRoutes_modifyClient <;> intro cl <;> rfl

/-! ## The invariant -/

structure WF (r : Registry S) : Prop where
  stored_lt : ∀ {a c}, r.clientAt a = some c → c < r.next
  stored_inj : ∀ {a b c}, r.clientAt a = some c → r.clientAt b = some c → a = b
  stored_live : ∀ {a c}, r.clientAt a = some c → (r.heap c).isDeleted = false
  entry_lt : ∀ {s b t}, (r.heap s).receivers.lookup b = some t → t < r.next
  entry_home : ∀ {s b t}, (r.heap s).receivers.lookup b = some t →
    (r.heap t).isDeleted = false → r.clientAt b = some t

theorem WF.entry_key {r : Registry S} (h : r.WF) {s t : ClientRef}
    {a b : SocketAddr} (he : (r.heap s).receivers.lookup b = some t)
    (ha : r.clientAt a = some t) : b = a :=
  h.stored_inj (h.entry_home he (h.stored_live ha)) ha

theorem wf_init : WF (init : Registry S) where
  stored_lt h := by cases h
  stored_inj h := by cases h
  stored_live h := by cases h
  entry_lt h := by cases h
  entry_home h := by cases h

/-- The stored clients stay as they are and every entry is an old one or that of
a client under its own address. -/
theorem WF.of_entries {r r' : Registry S} (h : r.WF)
    (hclient : ∀ a, r'.clientAt a = r.clientAt a) (hnext : r'.next = r.next)
    (hdel : ∀ c, (r'.heap c).isDeleted = (r.heap c).isDeleted)
    (hentry : ∀ {s b t}, (r'.heap s).receivers.lookup b = some t →
      (r.heap s).receivers.lookup b = some t ∨ r.clientAt b = some t) :
    r'.WF where
  stored_lt ha := by
    rw [hclient] at ha; rw [hnext]; exact h.stored_lt ha
  stored_inj ha hb := by
    rw [hclient] at ha hb; exact h.stored_inj ha hb
  stored_live ha := by
    rw [hclient] at ha; rw [hdel]; exact h.stored_live ha
  entry_lt he := by
    rw [hnext]
    rcases hentry he with he' | hb
    · exact h.entry_lt he'
    · exact h.stored_lt hb
  entry_home he hd := by
    rw [hdel] at hd
    rw [hclient]
    rcases hentry he with he' | hb
    · exact h.entry_home he' hd
    · exact hb

theorem WF.of_sameRoutes {r r' : Registry S} (h : r.WF)
    (hs : SameRoutes r r') : r'.WF := by
  refine h.of_entries hs.clientAt hs.next hs.isDeleted fun he => ?_
  rw [hs.receivers] at he
  exact .inl he

/-- A fresh number is in no map, so a new client is in nobody's way. -/
theorem WF.register {r : Registry S} (h : r.WF) (addr : SocketAddr)
    (now : Instant) : (r.register addr now).WF := by
  cases hat : r.clientAt addr with
  | some c => rw [register_of_stored hat]; exact h
  | none =>
      have hnext := next_register r addr now hat
      have hheap := heap_register r addr now hat
      -- an entry of the new registry is an entry of the old one
      have hentry : ∀ {s b t},
          (((r.register addr now).heap s).receivers.lookup b = some t) →
          (r.heap s).receivers.lookup b = some t := by
        intro s b t he
        rw [hheap] at he
        split at he
        · cases he
        · exact he
      refine ⟨?_, ?_, ?_, ?_, ?_⟩
      · intro a c ha
        rw [hnext]
        rcases stored_of_register hat ha with ⟨-, rfl⟩ | ⟨-, ha'⟩
        · exact Nat.lt_succ_self _
        · exact Nat.lt_succ_of_lt (h.stored_lt ha')
      · intro a b c ha hb
        rcases stored_of_register hat ha with ⟨rfl, rfl⟩ | ⟨-, ha'⟩
        · rcases stored_of_register hat hb with ⟨rfl, -⟩ | ⟨-, hb'⟩
          · rfl
          · exact absurd (h.stored_lt hb') (Nat.lt_irrefl _)
        · rcases stored_of_register hat hb with ⟨-, rfl⟩ | ⟨-, hb'⟩
          · exact absurd (h.stored_lt ha') (Nat.lt_irrefl _)
          · exact h.stored_inj ha' hb'
      · intro a c ha
        rw [hheap]
        rcases stored_of_register hat ha with ⟨-, rfl⟩ | ⟨-, ha'⟩
        · rw [if_pos rfl]
          rfl
        · rw [if_neg (Nat.ne_of_lt (h.stored_lt ha'))]
          exact h.stored_live ha'
      · intro s b t he
        rw [hnext]
        exact Nat.lt_succ_of_lt (h.entry_lt (hentry he))
      · intro s b t he hd
        have hlt := h.entry_lt (hentry he)
        rw [hheap, if_neg (Nat.ne_of_lt hlt)] at hd
        have hb := h.entry_home (hentry he) hd
        rw [clientAt_register r addr now hat, if_neg]
        · exact hb
        · intro e; rw [e, hat] at hb; cases hb

/-- The removed client is marked, so its remaining entries are excused; every
other client stays where it was. -/
theorem WF.delete {r : Registry S} (h : r.WF) (addr : SocketAddr) :
    (r.delete addr).WF := by
  refine ⟨?_, ?_, ?_, ?_, ?_⟩
  · intro a c ha
    rw [next_delete]
    exact h.stored_lt (stored_of_delete ha).2
  · intro a b c ha hb
    exact h.stored_inj (stored_of_delete ha).2 (stored_of_delete hb).2
  · intro a c ha
    obtain ⟨hne, ha'⟩ := stored_of_delete ha
    have hother : r.clientAt addr ≠ some c :=
      fun e => hne (h.stored_inj ha' e)
    rw [heap_delete_ne hother]
    exact h.stored_live ha'
  · intro s b t he
    rw [next_delete]
    exact h.entry_lt (receivers_delete he)
  · intro s b t he hd
    have hother : r.clientAt addr ≠ some t := by
      intro e
      rw [isDeleted_delete_self e] at hd
      cases hd
    rw [heap_delete_ne hother] at hd
    have hb := h.entry_home (receivers_delete he) hd
    rw [clientAt_delete, if_neg]
    · exact hb
    · intro e; exact hother (e ▸ hb)

theorem WF.takeover {r : Registry S} (h : r.WF) (s : ClientRef)
    (addr : SocketAddr) : (r.takeover s addr).WF :=
  h.of_entries (clientAt_takeover r s addr) (next_takeover r s addr)
    (fun c => by rw [heap_takeover]) fun he => .inl (receivers_takeover he)

theorem WF.join {r : Registry S} (h : r.WF) {x : ClientRef}
    {addr : SocketAddr} (hx : r.clientAt addr = some x) (s : ClientRef)
    (last : SocketAddr) : (r.join x s addr last).WF :=
  h.of_entries (fun _ => rfl) rfl (fun c => by rw [heap_join])
    fun he => receivers_join hx he

/-- A stored client is relinked through the entry under its own address. -/
theorem WF.mem_relinked_stored {r : Registry S} (h : r.WF) {s t : ClientRef}
    {addr b : SocketAddr} (hb : r.clientAt b = some t) :
    t ∈ r.relinked s addr ↔
      (r.heap s).receivers.lookup b = some t ∧ b ≠ addr := by
  rw [mem_relinked]
  refine ⟨?_, fun he => ⟨b, he⟩⟩
  rintro ⟨b', he, hb'⟩
  obtain rfl := h.entry_key he hb
  exact ⟨he, hb'⟩

theorem WF.groupId {r : Registry S} (h : r.WF) (g : Nat) (addr : SocketAddr)
    (isSender : Bool) : (r.groupId g addr isSender).WF := by
  have hset := h.of_sameRoutes (sameRoutes_setGroup r g addr isSender)
  rcases groupId_cases r g addr isSender with
    ⟨heq, -⟩ | ⟨x, s, -, -, -, heq⟩ | ⟨x, s, hx, -, -, heq⟩
  · rw [heq]; exact hset
  · rw [heq]; exact hset.takeover s addr
  · rw [heq]; exact hset.join hx s _

theorem WF.handle {r : Registry S} (h : r.WF) (m : ClientActor.Message S) :
    (ClientActor.handle r m).WF := by
  cases m with
  | dtls addr now => rw [ClientActor.handle_dtls]; exact h.register addr now
  | connected c t =>
      rw [ClientActor.handle_connected]
      exact h.of_sameRoutes (sameRoutes_connected r c t)
  | groupId g addr isSender =>
      rw [ClientActor.handle_groupId]; exact h.groupId g addr isSender
  | mediaAddr addr media now draw =>
      rw [ClientActor.handle_mediaAddr]
      exact h.of_sameRoutes (sameRoutes_mediaAddr r addr media now draw)
  | delete addr => rw [ClientActor.handle_delete]; exact h.delete addr

end RStreamer.Registry
