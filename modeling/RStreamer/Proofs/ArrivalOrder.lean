import RStreamer.Server.JitterStage

/-!
# Whether packets keep their order

The packets of an address that have not reached `RtcActor` yet are in three
places: what its tasks have left to send, its jitter buffer, and the mailbox in
front of the buffer. Read in this order, the tasks as they were spawned, they are
in the order in which they arrived (`pending`), and every step but one moves
packets along it without changing it.

The exception is a task that sends while an earlier one of the same address is
not through with its batch: its packet overtakes. So the order is kept in every
run in which tasks take turns (`InTurn`), and packets that differ are swapped in
some continuation of every run in which one does not.
-/

namespace RStreamer.JitterStage

open JitterBufferStorage

/-! ## What is still under way -/

/-- What a task of `addr` has left to send of its batch. -/
def batchOf (addr : SocketAddr) (t : Forwarder) : List DataPacket :=
  if t.addr = addr then
    match t.phase with
    | .batch rest => rest
    | _ => []
  else []

def queued (addr : SocketAddr) (s : JitterStage) : List DataPacket :=
  (s.mailbox.map fun m => (m.addr, m.data)).filterMap (mediaOf addr)

/-- The media packets of `addr` on their way, in the order they arrived in. -/
def pending (addr : SocketAddr) (s : JitterStage) : List DataPacket :=
  s.tasks.flatMap (batchOf addr) ++ s.jitter.bufferOf addr ++ queued addr s

/-- A task sends only when no earlier one of its address has packets left. -/
def InTurn (s : JitterStage) : StageEvent → Prop
  | .forward i => ∀ t p rest, s.tasks[i]? = some t →
      t.phase = .batch (p :: rest) → ∀ j t', j < i → s.tasks[j]? = some t' →
        batchOf t.addr t' = []
  | _ => True

/-- Requests are in the order of their tasks, and a task waits as long as its
request does; only media is ever in a buffer. -/
structure WF (s : JitterStage) : Prop where
  ids : s.mailbox.Pairwise fun m m' => m.task < m'.task
  waiting : ∀ {m j t}, m ∈ s.mailbox → m.task ≤ j → s.tasks[j]? = some t →
    t.phase = .waiting
  owner : ∀ {m}, m ∈ s.mailbox →
    ∃ t, s.tasks[m.task]? = some t ∧ t.addr = m.addr
  buffered : ∀ {addr p}, p ∈ s.jitter.bufferOf addr → isMedia p = true
  batched : ∀ {t rest p}, t ∈ s.tasks → t.phase = .batch rest → p ∈ rest →
    isMedia p = true
  passed : ∀ {t data}, t ∈ s.tasks → t.phase = .packet data →
    isMedia data = false

theorem wf_init : WF init where
  ids := List.Pairwise.nil
  waiting h := by cases h
  owner h := by cases h
  buffered h := by cases h
  batched h := by cases h
  passed h := by cases h

/-! ## Every step keeps the bookkeeping -/

theorem WF.receive {s : JitterStage} (h : s.WF) (addr : SocketAddr)
    (data : DataPacket) : (step s (.receive addr data)).WF := by
  have hlt : ∀ m ∈ s.mailbox, m.task < s.tasks.length := by
    intro m hm
    obtain ⟨t, ht, -⟩ := h.owner hm
    exact (List.getElem?_eq_some_iff.mp ht).1
  refine ⟨?_, ?_, ?_, h.buffered, ?_, ?_⟩
  · refine List.pairwise_append.mpr ⟨h.ids, List.pairwise_singleton _ _, ?_⟩
    intro m hm m' hm'
    rw [List.mem_singleton.mp hm']
    exact hlt m hm
  · intro m j t hm hj ht
    rcases Nat.lt_or_ge j s.tasks.length with hold | hnew
    · have hmem : m ∈ s.mailbox := by
        rcases List.mem_append.mp hm with hmem | hlast
        · exact hmem
        · rw [List.mem_singleton.mp hlast] at hj
          exact absurd hold (Nat.not_lt_of_le hj)
      exact h.waiting hmem hj ((List.getElem?_append_left hold).symm.trans ht)
    · have hlast := (List.getElem?_append_right hnew).symm.trans ht
      have hmem := List.mem_of_getElem? hlast
      rw [List.mem_singleton.mp hmem]
  · intro m hm
    rcases List.mem_append.mp hm with hmem | hlast
    · obtain ⟨t, ht, haddr⟩ := h.owner hmem
      exact ⟨t, (List.getElem?_append_left (hlt m hmem)).trans ht, haddr⟩
    · rw [List.mem_singleton.mp hlast]
      exact ⟨⟨addr, .waiting⟩, List.getElem?_concat_length, rfl⟩
  · intro t rest p ht hphase hp
    rcases List.mem_append.mp ht with hold | hnew
    · exact h.batched hold hphase hp
    · rw [List.mem_singleton.mp hnew] at hphase
      cases hphase
  · intro t d ht hphase
    rcases List.mem_append.mp ht with hold | hnew
    · exact h.passed hold hphase
    · rw [List.mem_singleton.mp hnew] at hphase
      cases hphase

/-- A task that has its answer goes on. -/
theorem WF.resume {s : JitterStage} (h : s.WF) {i : Nat} {t : Forwarder}
    (ht : s.tasks[i]? = some t) (hactive : t.phase ≠ .waiting)
    {phase : ForwardPhase}
    (hbatch : ∀ rest, phase = .batch rest → ∀ p ∈ rest, isMedia p = true)
    (hpacket : ∀ data, phase ≠ .packet data) :
    WF { s with tasks := s.tasks.set i ⟨t.addr, phase⟩ } := by
  have hearly : ∀ {m j}, m ∈ s.mailbox → m.task ≤ j → i ≠ j := by
    rintro m j hm hj rfl
    exact hactive (h.waiting hm hj ht)
  refine ⟨h.ids, ?_, ?_, h.buffered, ?_, ?_⟩
  · intro m j t' hm hj ht'
    rw [List.getElem?_set_ne (hearly hm hj)] at ht'
    exact h.waiting hm hj ht'
  · intro m hm
    obtain ⟨t', ht', haddr⟩ := h.owner hm
    refine ⟨t', ?_, haddr⟩
    rw [List.getElem?_set_ne (hearly hm (Nat.le_refl _))]
    exact ht'
  · intro t' rest p ht' hphase hp
    rcases List.mem_or_eq_of_mem_set ht' with hold | hnew
    · exact h.batched hold hphase hp
    · rw [hnew] at hphase
      exact hbatch rest hphase p hp
  · intro t' data ht' hphase
    rcases List.mem_or_eq_of_mem_set ht' with hold | hnew
    · exact h.passed hold hphase
    · rw [hnew] at hphase
      exact absurd hphase (hpacket data)

/-- Only media goes through the buffers, and only feedback past them. -/
theorem media_handleGetOrStore {st : JitterBufferStorage}
    (hst : ∀ {addr p}, p ∈ st.bufferOf addr → isMedia p = true)
    (now : Instant) (addr : SocketAddr) (data : DataPacket) :
    let out := st.handleGetOrStore now addr data
    (∀ {a p}, p ∈ out.1.bufferOf a → isMedia p = true) ∧
      (∀ {rest p}, out.2.next = .batch rest → p ∈ rest → isMedia p = true) ∧
      (∀ {d}, out.2.next = .packet d → isMedia d = false) := by
  have hfull : isMedia data = true → ∀ {p}, p ∈ st.bufferOf addr ++ [data] →
      isMedia p = true := by
    intro hmedia p hp
    rcases List.mem_append.mp hp with hold | hnew
    · exact hst hold
    · rw [List.mem_singleton.mp hnew]
      exact hmedia
  rcases handleGetOrStore_cases st now addr data with
    ⟨hrtcp, heq⟩ | ⟨hmedia, hres, hbuf⟩ | ⟨hmedia, hres, hbuf⟩
  · rw [heq]
    refine ⟨hst, ?_, ?_⟩
    · rintro rest p ⟨⟩
    · rintro d ⟨⟩
      exact hrtcp
  · simp only [hres, hbuf]
    refine ⟨?_, ?_, ?_⟩
    · intro a p hp
      split at hp
      · cases hp
      · exact hst hp
    · rintro rest p ⟨⟩ hp
      exact hfull hmedia hp
    · rintro d ⟨⟩
  · simp only [hres, hbuf]
    refine ⟨?_, ?_, ?_⟩
    · intro a p hp
      split at hp
      · exact hfull hmedia hp
      · exact hst hp
    · rintro rest p ⟨⟩
    · rintro d ⟨⟩

theorem WF.jitter {s : JitterStage} (h : s.WF) (now : Instant) :
    (step s (.jitter now)).WF := by
  cases hbox : s.mailbox with
  | nil => simpa only [step, hbox] using h
  | cons m rest =>
      have hids := h.ids
      rw [hbox] at hids
      obtain ⟨hlater, hrest⟩ := List.pairwise_cons.mp hids
      have hmem : ∀ {m'}, m' ∈ rest → m' ∈ s.mailbox := fun hm' =>
        hbox ▸ List.mem_cons_of_mem m hm'
      have hne : ∀ {m' j}, m' ∈ rest → m'.task ≤ j → m.task ≠ j := by
        intro m' j hm' hj
        exact Nat.ne_of_lt (Nat.lt_of_lt_of_le (hlater m' hm') hj)
      obtain ⟨hbuffer, hbatch, hpacket⟩ :=
        media_handleGetOrStore h.buffered now m.addr m.data
      simp only [step, hbox]
      refine ⟨hrest, ?_, ?_, hbuffer, ?_, ?_⟩
      · intro m' j t hm' hj ht
        rw [List.getElem?_set_ne (hne hm' hj)] at ht
        exact h.waiting (hmem hm') hj ht
      · intro m' hm'
        obtain ⟨t, ht, haddr⟩ := h.owner (hmem hm')
        refine ⟨t, ?_, haddr⟩
        rw [List.getElem?_set_ne (hne hm' (Nat.le_refl _))]
        exact ht
      · intro t batch p ht hphase hp
        rcases List.mem_or_eq_of_mem_set ht with hold | hnew
        · exact h.batched hold hphase hp
        · rw [hnew] at hphase
          exact hbatch hphase hp
      · intro t data ht hphase
        rcases List.mem_or_eq_of_mem_set ht with hold | hnew
        · exact h.passed hold hphase
        · rw [hnew] at hphase
          exact hpacket hphase

/-- A task sends the next packet of its batch, or its only packet. -/
theorem next_eq_some {s : JitterStage} {i : Nat} {addr : SocketAddr}
    {p : DataPacket} {phase : ForwardPhase}
    (h : s.next i = some (addr, p, phase)) :
    ∃ t, s.tasks[i]? = some t ∧ t.addr = addr ∧
      ((∃ rest, t.phase = .batch (p :: rest) ∧ phase = .batch rest) ∨
        t.phase = .packet p ∧ phase = .done) := by
  rw [next] at h
  obtain ⟨t, ht, h⟩ := Option.bind_eq_some_iff.mp h
  refine ⟨t, ht, ?_⟩
  split at h
  · next q rest hphase =>
      cases h
      exact ⟨rfl, .inl ⟨rest, hphase, rfl⟩⟩
  · next data hphase =>
      cases h
      exact ⟨rfl, .inr ⟨hphase, rfl⟩⟩
  · cases h

theorem WF.forward {s : JitterStage} (h : s.WF) (i : Nat) :
    (step s (.forward i)).WF := by
  rw [step]
  split
  · exact h
  · next addr p phase hnext =>
      obtain ⟨t, ht, rfl, ⟨rest, hphase, rfl⟩ | ⟨hphase, rfl⟩⟩ :=
        next_eq_some hnext
      · refine h.resume ht (by rw [hphase]; simp) ?_ (by simp)
        rintro rest' ⟨⟩ q hq
        exact h.batched (List.mem_of_getElem? ht) hphase
          (List.mem_cons_of_mem p hq)
      · exact h.resume ht (by rw [hphase]; simp) (by simp) (by simp)

theorem WF.giveUp {s : JitterStage} (h : s.WF) (i : Nat) :
    (step s (.giveUp i)).WF := by
  rw [step]
  split
  · next addr rest ht => exact h.resume ht (by simp) (by simp) (by simp)
  · exact h

theorem WF.step {s : JitterStage} (h : s.WF) (e : StageEvent) :
    (JitterStage.step s e).WF := by
  cases e with
  | receive addr data => exact h.receive addr data
  | jitter now => exact h.jitter now
  | increase addr now =>
      refine ⟨h.ids, h.waiting, h.owner, ?_, h.batched, h.passed⟩
      intro a p hp
      exact h.buffered (bufferOf_handleIncrease s.jitter now addr a ▸ hp)
  | decrease addr =>
      refine ⟨h.ids, h.waiting, h.owner, ?_, h.batched, h.passed⟩
      intro a p hp
      exact h.buffered (bufferOf_handleDecrease s.jitter addr a ▸ hp)
  | forward i => exact h.forward i
  | giveUp i => exact h.giveUp i

/-! ## Every step keeps the order -/

section Batches

variable {tasks : List Forwarder} {i : Nat} {t : Forwarder}

theorem batches_split (ht : tasks[i]? = some t) (addr : SocketAddr) :
    tasks.flatMap (batchOf addr) = (tasks.take i).flatMap (batchOf addr) ++
      (batchOf addr t ++ (tasks.drop (i + 1)).flatMap (batchOf addr)) := by
  obtain ⟨hi, rfl⟩ := List.getElem?_eq_some_iff.mp ht
  rw [← List.flatMap_cons, ← List.flatMap_append,
    List.getElem_cons_drop hi, List.take_append_drop]

theorem batches_set (ht : tasks[i]? = some t) (t' : Forwarder)
    (addr : SocketAddr) : (tasks.set i t').flatMap (batchOf addr) =
      (tasks.take i).flatMap (batchOf addr) ++
        (batchOf addr t' ++ (tasks.drop (i + 1)).flatMap (batchOf addr)) := by
  obtain ⟨hi, -⟩ := List.getElem?_eq_some_iff.mp ht
  rw [List.set_eq_take_append_cons_drop, if_pos hi, List.flatMap_append,
    List.flatMap_cons]

theorem batches_eq_nil {addr : SocketAddr}
    (h : ∀ (j : Nat) t', tasks[j]? = some t' → batchOf addr t' = []) :
    tasks.flatMap (batchOf addr) = [] := by
  rw [List.flatMap_eq_nil_iff]
  intro t' hmem
  obtain ⟨j, hj⟩ := List.mem_iff_getElem?.mp hmem
  exact h j t' hj

end Batches

theorem batchOf_waiting {addr : SocketAddr} {t : Forwarder}
    (h : t.phase = .waiting) : batchOf addr t = [] := by
  simp only [batchOf, h]
  split <;> rfl

/-- A handled request moves its packet behind the buffer, and perhaps the
buffer to the task. -/
theorem batchOf_answer (st : JitterBufferStorage) (now : Instant)
    (addr a : SocketAddr) (data : DataPacket) :
    batchOf a ⟨addr, (st.handleGetOrStore now addr data).2.next⟩ ++
        (st.handleGetOrStore now addr data).1.bufferOf a =
      st.bufferOf a ++ (mediaOf a (addr, data)).toList := by
  rcases handleGetOrStore_cases st now addr data with
    ⟨hrtcp, heq⟩ | ⟨hmedia, hres, hbuf⟩ | ⟨hmedia, hres, hbuf⟩
  · simp [heq, mediaOf, hrtcp, batchOf, JitterResponse.next]
  · by_cases ha : addr = a
    · subst ha
      simp [hres, hbuf, mediaOf, hmedia, batchOf, JitterResponse.next]
    · simp [hbuf, mediaOf, batchOf, ha, Ne.symm ha]
  · by_cases ha : addr = a
    · subst ha
      simp [hres, hbuf, mediaOf, hmedia, batchOf, JitterResponse.next]
    · simp [hbuf, mediaOf, batchOf, ha, Ne.symm ha]

/-- The answer goes to the first task that waits, so it goes behind everything
that is being sent. -/
theorem pending_jitter {s : JitterStage} (h : s.WF) (now : Instant)
    (addr : SocketAddr) :
    pending addr (step s (.jitter now)) = pending addr s := by
  cases hbox : s.mailbox with
  | nil => simp only [step, hbox]
  | cons m rest =>
      have hm : m ∈ s.mailbox := hbox ▸ List.mem_cons_self
      obtain ⟨t, ht, -⟩ := h.owner hm
      have hself : batchOf addr t = [] :=
        batchOf_waiting (h.waiting hm (Nat.le_refl _) ht)
      have hlater : (s.tasks.drop (m.task + 1)).flatMap (batchOf addr) =
          [] := by
        refine batches_eq_nil fun j t' ht' => batchOf_waiting ?_
        rw [List.getElem?_drop] at ht'
        exact h.waiting hm (by omega) ht'
      have hqueued : queued addr s = (mediaOf addr (m.addr, m.data)).toList ++
          (rest.map fun m => (m.addr, m.data)).filterMap (mediaOf addr) := by
        rw [queued, hbox, List.map_cons, List.filterMap_cons]
        cases mediaOf addr (m.addr, m.data) <;> rfl
      have hanswer := batchOf_answer s.jitter now m.addr addr m.data
      rw [pending, pending, hqueued, batches_split ht, hself, hlater]
      simp only [step, hbox, batches_set ht, hlater, queued, List.append_nil,
        List.append_assoc]
      rw [← List.append_assoc (batchOf addr _), hanswer, List.append_assoc]

/-- What a task has left of its batch, after its next packet. -/
theorem batchOf_forward {s : JitterStage} (h : s.WF) {i : Nat}
    {addr : SocketAddr} {p : DataPacket} {phase : ForwardPhase}
    (hnext : s.next i = some (addr, p, phase)) (a : SocketAddr) :
    ∃ t, s.tasks[i]? = some t ∧ t.addr = addr ∧
      batchOf a t = (mediaOf a (addr, p)).toList ++ batchOf a ⟨addr, phase⟩ ∧
      (mediaOf a (addr, p) ≠ none →
        a = addr ∧ ∃ rest, t.phase = .batch (p :: rest)) := by
  obtain ⟨t, ht, rfl, hphase⟩ := next_eq_some hnext
  have hmem := List.mem_of_getElem? ht
  refine ⟨t, ht, rfl, ?_⟩
  rcases hphase with ⟨rest, hphase, rfl⟩ | ⟨hphase, rfl⟩
  · have hmedia := h.batched hmem hphase List.mem_cons_self
    by_cases ha : t.addr = a
    · subst ha
      simp [batchOf, hphase, mediaOf, hmedia]
    · simp [batchOf, mediaOf, ha]
  · have hrtcp := h.passed hmem hphase
    simp [batchOf, hphase, mediaOf, hrtcp]

/-- A task that sends in its turn sends what is first. -/
theorem pending_forward {s : JitterStage} (h : s.WF) {i : Nat}
    (hturn : InTurn s (.forward i)) (addr : SocketAddr) :
    (reaches s (.forward i)).filterMap (mediaOf addr) ++
        pending addr (step s (.forward i)) = pending addr s := by
  cases hnext : s.next i with
  | none => simp only [reaches, step, hnext]; rfl
  | some x =>
      obtain ⟨b, p, phase⟩ := x
      obtain ⟨t, ht, rfl, hbatch, hmedia⟩ := batchOf_forward h hnext addr
      simp only [reaches, step, hnext, pending, queued, batches_split ht,
        batches_set ht, hbatch, List.filterMap_cons, List.filterMap_nil,
        List.append_assoc]
      cases hp : mediaOf addr (t.addr, p) with
      | none => rfl
      | some q =>
          obtain ⟨rfl, rest, hphase⟩ := hmedia (by rw [hp]; simp)
          have hearlier : (s.tasks.take i).flatMap (batchOf t.addr) = [] := by
            refine batches_eq_nil fun j t' ht' => ?_
            rw [List.getElem?_take] at ht'
            split at ht'
            · next hj => exact hturn t p rest ht hphase j t' hj ht'
            · cases ht'
          rw [hearlier]
          rfl

theorem pending_receive (s : JitterStage) (b addr : SocketAddr)
    (data : DataPacket) : pending addr (step s (.receive b data)) =
      pending addr s ++ (mediaOf addr (b, data)).toList := by
  have hnew : batchOf addr ⟨b, .waiting⟩ = [] := batchOf_waiting rfl
  simp only [pending, queued, step, List.flatMap_append, List.flatMap_cons,
    List.flatMap_nil, hnew, List.append_nil, List.map_append,
    List.filterMap_append, List.map_cons, List.map_nil, List.append_assoc]
  cases h : mediaOf addr (b, data) <;> simp [h]

/-- A task that gives up leaves a gap. -/
theorem pending_giveUp (s : JitterStage) (i : Nat) (addr : SocketAddr) :
    (pending addr (step s (.giveUp i))).Sublist (pending addr s) := by
  rw [step]
  split
  · next b rest ht =>
      have hdone : batchOf addr ⟨b, .done⟩ = [] := by
        simp only [batchOf]
        split <;> rfl
      simp only [pending, queued, batches_split ht, batches_set ht, hdone]
      refine List.Sublist.append_right (List.Sublist.append_right ?_ _) _
      exact (List.sublist_append_right _ _).append_left _
  · exact List.Sublist.refl _

theorem pending_step {s : JitterStage} (h : s.WF) {e : StageEvent}
    (hturn : InTurn s e) (addr : SocketAddr) :
    ((reaches s e).filterMap (mediaOf addr) ++
        pending addr (step s e)).Sublist
      (pending addr s ++ ((arrival e).bind (mediaOf addr)).toList) := by
  cases e with
  | receive b data =>
      rw [pending_receive]
      exact List.Sublist.refl _
  | jitter now =>
      rw [pending_jitter h]
      exact List.sublist_append_left _ _
  | increase b now =>
      simp only [pending, queued, step, bufferOf_handleIncrease]
      exact List.sublist_append_left _ _
  | decrease b =>
      simp only [pending, queued, step, bufferOf_handleDecrease]
      exact List.sublist_append_left _ _
  | forward i =>
      rw [pending_forward h hturn]
      exact List.sublist_append_left _ _
  | giveUp i =>
      exact (pending_giveUp s i addr).trans (List.sublist_append_left _ _)

theorem reached_pending_sublist {es : List StageEvent}
    (h : Machine.Along step InTurn init es) (addr : SocketAddr) :
    (reached addr init es ++ pending addr (after es)).Sublist
      (received addr es) :=
  Machine.trace_sublist (I := WF) (P := InTurn) (π := pending addr)
    (fun _ e hs => hs.step e) (fun _ _ hs hturn => pending_step hs hturn addr)
    es wf_init h

theorem wf_after (es : List StageEvent) : (after es).WF :=
  Machine.run_invariant (I := WF) (fun _ e hs => hs.step e) es wf_init

/-! ## Out of turn -/

theorem not_sublist_swap {α : Type} {x y : α} : ∀ {l : List α}, l.Nodup →
    [x, y].Sublist l → ¬ [y, x].Sublist l := by
  intro l
  induction l with
  | nil => intro _ h; cases h
  | cons z l ih =>
      intro hnd hxy hyx
      obtain ⟨hz, hnd'⟩ := List.nodup_cons.mp hnd
      cases hxy with
      | cons _ hxy' =>
          cases hyx with
          | cons _ hyx' => exact ih hnd' hxy' hyx'
          | cons_cons _ _ =>
              exact hz (hxy'.subset (List.mem_cons_of_mem _ List.mem_cons_self))
      | cons_cons _ hy =>
          cases hyx with
          | cons _ hyx' =>
              exact hz (hyx'.subset (List.mem_cons_of_mem _ List.mem_cons_self))
          | cons_cons _ _ => exact hz (hy.subset List.mem_cons_self)

theorem exists_of_not_inTurn {s : JitterStage} {e : StageEvent}
    (h : ¬ InTurn s e) : ∃ i t p rest j t' q rest', e = .forward i ∧
      s.tasks[i]? = some t ∧ t.phase = .batch (p :: rest) ∧ j < i ∧
      s.tasks[j]? = some t' ∧ t'.addr = t.addr ∧
      t'.phase = .batch (q :: rest') := by
  cases e with
  | forward i =>
      simp only [InTurn, not_forall] at h
      obtain ⟨t, p, rest, ht, hphase, j, t', hj, ht', hbatch⟩ := h
      have hleft : t'.addr = t.addr ∧ ∃ q rest', t'.phase = .batch (q :: rest') := by
        rw [batchOf] at hbatch
        split at hbatch
        · next haddr =>
            refine ⟨haddr, ?_⟩
            split at hbatch
            · next b hb =>
                obtain ⟨q, rest', rfl⟩ := List.exists_cons_of_ne_nil hbatch
                exact ⟨q, rest', hb⟩
            · exact absurd rfl hbatch
        · exact absurd rfl hbatch
      obtain ⟨haddr, q, rest', hphase'⟩ := hleft
      exact ⟨i, t, p, rest, j, t', q, rest', rfl, ht, hphase, hj, ht', haddr,
        hphase'⟩
  | _ => exact absurd trivial h

/-- Two tasks of one address with packets left: those of the earlier one are in
front. -/
theorem sublist_pending_of_two {s : JitterStage} {i j : Nat}
    {t t' : Forwarder} {p q : DataPacket} {rest rest' : List DataPacket}
    (ht : s.tasks[i]? = some t) (hphase : t.phase = .batch (p :: rest))
    (hj : j < i) (ht' : s.tasks[j]? = some t') (haddr : t'.addr = t.addr)
    (hphase' : t'.phase = .batch (q :: rest')) :
    [q, p].Sublist (pending t.addr s) := by
  have hfirst : [q].Sublist ((s.tasks.take i).flatMap (batchOf t.addr)) := by
    have htake : (s.tasks.take i)[j]? = some t' := by
      rw [List.getElem?_take_of_lt hj]
      exact ht'
    rw [List.singleton_sublist, List.mem_flatMap]
    refine ⟨t', List.mem_of_getElem? htake, ?_⟩
    rw [batchOf, if_pos haddr, hphase']
    exact List.mem_cons_self
  have hsecond : [p].Sublist (batchOf t.addr t ++
      (s.tasks.drop (i + 1)).flatMap (batchOf t.addr)) := by
    rw [List.singleton_sublist, batchOf, if_pos rfl, hphase]
    exact List.mem_append_left _ List.mem_cons_self
  rw [pending, batches_split ht, List.append_assoc]
  exact (hfirst.append hsecond).trans (List.sublist_append_left _ _)

theorem next_batch {s : JitterStage} {i : Nat} {t : Forwarder} {p : DataPacket}
    {rest : List DataPacket} (ht : s.tasks[i]? = some t)
    (hphase : t.phase = .batch (p :: rest)) :
    s.next i = some (t.addr, p, .batch rest) := by
  rw [next, ht, Option.bind_some, hphase]

/-- Both packets go, the later one first. -/
theorem reached_swapped {s : JitterStage} (h : s.WF) {i j : Nat}
    {t t' : Forwarder} {p q : DataPacket} {rest rest' : List DataPacket}
    (ht : s.tasks[i]? = some t) (hphase : t.phase = .batch (p :: rest))
    (hj : j < i) (ht' : s.tasks[j]? = some t') (haddr : t'.addr = t.addr)
    (hphase' : t'.phase = .batch (q :: rest')) :
    reached t.addr s [.forward i, .forward j] = [p, q] := by
  have hnext := next_batch ht hphase
  have hstep : step s (.forward i) =
      { s with tasks := s.tasks.set i ⟨t.addr, .batch rest⟩ } := by
    simp only [step, hnext]
  have ht₁ : (step s (.forward i)).tasks[j]? = some t' := by
    rw [hstep, List.getElem?_set_ne (Nat.ne_of_gt hj)]
    exact ht'
  have hnext₁ := next_batch ht₁ hphase'
  have hp : isMedia p = true :=
    h.batched (List.mem_of_getElem? ht) hphase List.mem_cons_self
  have hq : isMedia q = true :=
    h.batched (List.mem_of_getElem? ht') hphase' List.mem_cons_self
  simp [reached, Machine.trace, reaches, hnext, hnext₁, mediaOf, haddr, hp, hq]

theorem reached_append (addr : SocketAddr) (es fs : List StageEvent) :
    reached addr init (es ++ fs) =
      reached addr init es ++ reached addr (after es) fs := by
  rw [reached, Machine.trace_append, List.filterMap_append]
  rfl

/-- A task that sends out of its turn, among packets that differ, leads to a
run in which they are swapped. -/
theorem swapped_of_not_inTurn {es : List StageEvent} {e : StageEvent}
    (hturn : Machine.Along step InTurn init es) (h : ¬ InTurn (after es) e)
    (hnd : ∀ addr, (received addr es).Nodup) :
    ∃ addr fs, ¬ (reached addr init (es ++ e :: fs)).Sublist
      (received addr (es ++ e :: fs)) := by
  obtain ⟨i, t, p, rest, j, t', q, rest', rfl, ht, hphase, hj, ht', haddr,
    hphase'⟩ := exists_of_not_inTurn h
  refine ⟨t.addr, [.forward j], fun hsub => ?_⟩
  have hreceived : received t.addr (es ++ [.forward i, .forward j]) =
      received t.addr es := by
    simp [received, arrival]
  rw [hreceived, reached_append,
    reached_swapped (wf_after es) ht hphase hj ht' haddr hphase'] at hsub
  have hpq := (List.sublist_append_right _ _).trans hsub
  have hqp := (sublist_pending_of_two ht hphase hj ht' haddr hphase').trans
    ((List.sublist_append_right _ _).trans
      (reached_pending_sublist hturn t.addr))
  exact not_sublist_swap (hnd t.addr) hpq hqp

/-- In every run in which no task sends while an earlier one of its address has
packets left, the media packets of every address reach `RtcActor` in the order
in which they were received, each at most once; and a run of different packets
that was like this until a task sends out of its turn has a continuation in
which they do not. -/
theorem arrival_order_kept_in_turn (es : List StageEvent)
    (hturn : Machine.Along step InTurn init es) :
    (∀ addr, (reached addr init es).Sublist (received addr es)) ∧
    (∀ e, ¬ InTurn (after es) e → (∀ addr, (received addr es).Nodup) →
      ∃ addr fs, ¬ (reached addr init (es ++ e :: fs)).Sublist
        (received addr (es ++ e :: fs))) := by
  refine ⟨?_, fun e => swapped_of_not_inTurn hturn⟩
  intro addr
  exact (List.sublist_append_left _ _).trans
    (reached_pending_sublist hturn addr)

theorem inTurn_of_batchOf {s : JitterStage} {i : Nat}
    (h : ∀ t ∈ s.tasks.take i, batchOf t.addr t = []) :
    InTurn s (.forward i) := by
  intro t p rest _ _ j t' hj ht'
  have hmem : t' ∈ s.tasks.take i :=
    List.mem_of_getElem? (by rw [List.getElem?_take_of_lt hj, ht'])
  by_cases haddr : t'.addr = t.addr
  · rw [← haddr, h t' hmem]
  · rw [batchOf, if_neg haddr]

/-- Three packets in two batches, sent one after the other. -/
def inTurnRun : List StageEvent :=
  [.receive (.host 1) (videoPacket 1), .jitter 0,
    .receive (.host 1) (videoPacket 2), .jitter (Duration.fromMillis 50),
    .receive (.host 1) (videoPacket 3), .jitter (Duration.fromMillis 100),
    .forward 1, .forward 1, .forward 2]

theorem three_packets_in_turn :
    reached (.host 1) init inTurnRun =
        [videoPacket 1, videoPacket 2, videoPacket 3] ∧
      ∀ addr, (reached addr init inTurnRun).Sublist
        (received addr inTurnRun) := by
  refine ⟨by decide +kernel, (arrival_order_kept_in_turn inTurnRun ?_).1⟩
  refine ⟨trivial, trivial, trivial, trivial, trivial, trivial, ?_, ?_, ?_,
    trivial⟩
  all_goals exact inTurn_of_batchOf (by decide +kernel)

/-- Three packets in two batches. The second batch is sent between the two
packets of the first. -/
def overtaken : List StageEvent :=
  [.receive (.host 1) (videoPacket 1), .jitter 0,
    .receive (.host 1) (videoPacket 2), .jitter (Duration.fromMillis 50),
    .receive (.host 1) (videoPacket 3), .jitter (Duration.fromMillis 100),
    .forward 1, .forward 2, .forward 1]

theorem third_packet_overtakes :
    ¬ ∀ es addr, (reached addr init es).Sublist (received addr es) := by
  intro h
  have hsub := h overtaken (.host 1)
  have hreached : reached (.host 1) init overtaken =
      [videoPacket 1, videoPacket 3, videoPacket 2] := by decide +kernel
  have hreceived : received (.host 1) overtaken =
      [videoPacket 1, videoPacket 2, videoPacket 3] := by decide +kernel
  rw [hreached, hreceived] at hsub
  revert hsub
  decide +kernel

end RStreamer.JitterStage
