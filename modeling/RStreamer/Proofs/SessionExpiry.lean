import Mathlib.Data.List.Induction
import RStreamer.Server.Sessions

/-!
# Sessions in use

A client that is connected repeats its binding requests. `UdpRecv` looks the
session up for each of them and copies the item out of the map, so a request
does not make the session any younger: its age stays that of the last offer
(`stored_eq_lastOffer`). A tick drops a session that is in use when the offer is
more than a minute old, and it drops the codec table of a client when any of the
client's sessions is.

`active_sessions_kept_iff` says exactly when the ticks of a run leave the
sessions alone that were asked for in the last minute.
-/

namespace RStreamer.UdpRecv

/-- The run has handled a binding request for the stored session `k` in the
minute before `now`. -/
def Active (es : List SessionEvent) (k : Session) (now : SystemTime) : Prop :=
  ∃ pre mid req addr t, es = pre ++ .stun req addr t :: mid ∧
    req.session = k ∧ ((after pre).sessions.lookup k).isSome = true ∧
    now ≤ t + sessionTtl

/-- A tick at `now` removes neither the session nor its client's codec table. -/
def Kept (s : UdpRecv) (now : SystemTime) (k : Session) : Prop :=
  ((s.sessions.lookup k).isSome = true →
    ((s.clearData now).sessions.lookup k).isSome = true) ∧
  ((s.mediaSessions.lookup k.getClient).isSome = true →
    ((s.clearData now).mediaSessions.lookup k.getClient).isSome = true)

/-- The item of a `SessionMessage` for `k`. -/
def offerFor (k : Session) : SessionEvent →
    Option SessionStorageItem
  | .session k' item _ => if k' = k then some item else none
  | _ => none

/-- The item of the last `SessionMessage` for `k`. -/
def lastOffer (es : List SessionEvent) (k : Session) :
    Option SessionStorageItem :=
  (es.filterMap (offerFor k)).getLast?

/-- The last offer for `k` was made at most a minute before `now`. -/
def Young (es : List SessionEvent) (now : SystemTime) (k : Session) : Prop :=
  ∀ item, lastOffer es k = some item → item.expired now = false

/-! ## The age of a session -/

theorem after_concat (es : List SessionEvent) (e : SessionEvent) :
    after (es ++ [e]) = step (after es) e := by
  rw [after, Machine.run, List.foldl_append]
  rfl

theorem lastOffer_concat (es : List SessionEvent) (e : SessionEvent)
    (k : Session) : lastOffer (es ++ [e]) k =
      (offerFor k e).or (lastOffer es k) := by
  rw [lastOffer, List.filterMap_append, List.getLast?_append, lastOffer]
  cases h : offerFor k e with
  | none => simp [h]
  | some item => simp [h]

/-- One event: a session is stored anew with the item of its message, or it
was there before. -/
theorem stored_step {s : UdpRecv} {e : SessionEvent} {k : Session}
    {item : SessionStorageItem} (h : (step s e).sessions.lookup k = some item) :
    offerFor k e = some item ∨
      offerFor k e = none ∧ s.sessions.lookup k = some item := by
  cases e with
  | session k' item' now =>
      rw [step, handleSession, Table.lookup_insert'] at h
      simp only [offerFor]
      by_cases hk : k = k'
      · rw [if_pos hk] at h
        rw [if_pos hk.symm]
        exact .inl h
      · rw [if_neg hk] at h
        rw [if_neg (Ne.symm hk)]
        exact .inr ⟨rfl, h⟩
  | mediaUser user media now => exact .inr ⟨rfl, h⟩
  | stun req addr now =>
      refine .inr ⟨rfl, ?_⟩
      rw [step, handleStun] at h
      split at h <;> exact h
  | clearData now =>
      rw [step, sessions_clearData] at h
      exact .inr ⟨rfl, (Option.filter_eq_some_iff.mp h).1⟩

/-- What is stored for a session is what its last offer said. -/
theorem stored_eq_lastOffer (k : Session) (item : SessionStorageItem) :
    ∀ es, (after es).sessions.lookup k = some item →
      lastOffer es k = some item := by
  intro es
  induction es using List.reverseRecOn with
  | nil => intro h; cases h
  | append_singleton es e ih =>
      intro h
      rw [after_concat] at h
      rw [lastOffer_concat]
      rcases stored_step h with hoffer | ⟨hoffer, hold⟩
      · rw [hoffer]
        rfl
      · rw [hoffer]
        exact ih hold

theorem kept_step {s : UdpRecv} {e : SessionEvent} {k : Session}
    {item : SessionStorageItem} (hs : s.sessions.lookup k = some item)
    (hother : offerFor k e = none)
    (hyoung : ∀ now, e = .clearData now → item.expired now = false) :
    (step s e).sessions.lookup k = some item := by
  cases e with
  | session k' item' now =>
      rw [offerFor] at hother
      split at hother
      · cases hother
      · next hk =>
          rw [step, handleSession, Table.lookup_insert', if_neg (Ne.symm hk)]
          exact hs
  | mediaUser user media now => exact hs
  | stun req addr now =>
      rw [step, handleStun]
      split <;> exact hs
  | clearData now =>
      rw [step, sessions_clearData, hs,
        Option.filter_some_pos (by rw [hyoung now rfl]; rfl)]

/-- A session stays stored until another message for it is handled, or a tick
finds it too old. -/
theorem stored_after {k : Session} {item : SessionStorageItem}
    {pre post : List SessionEvent} {now : SystemTime}
    (hother : ∀ e ∈ post, offerFor k e = none)
    (hyoung : ∀ t, .clearData t ∈ post → item.expired t = false) :
    (after (pre ++ .session k item now :: post)).sessions.lookup k =
      some item := by
  rw [after, Machine.run, List.foldl_append, List.foldl_cons]
  refine List.foldlRecOn (motive := fun s => s.sessions.lookup k = some item)
    post step ?_ fun s hs e he => ?_
  · rw [step, handleSession, Table.lookup_insert', if_pos rfl]
  · exact kept_step hs (hother e he) fun t ht => hyoung t (ht ▸ he)

/-! ## What a tick leaves -/

theorem session_kept_iff (es : List SessionEvent) (now : SystemTime)
    (k : Session) :
    (((after es).sessions.lookup k).isSome = true →
      (((after es).clearData now).sessions.lookup k).isSome = true) ↔
    (((after es).sessions.lookup k).isSome = true → Young es now k) := by
  rw [sessions_clearData]
  cases hat : (after es).sessions.lookup k with
  | none => simp
  | some item =>
      have hlast := stored_eq_lastOffer k item es hat
      simp only [Option.isSome_some, forall_const, Young, hlast,
        Option.some.injEq, forall_eq']
      cases hexp : item.expired now with
      | true => simp [hexp]
      | false => simp [hexp]

theorem media_kept_iff (es : List SessionEvent) (now : SystemTime)
    (user : String) :
    (((after es).mediaSessions.lookup user).isSome = true →
      (((after es).clearData now).mediaSessions.lookup user).isSome = true) ↔
    (((after es).mediaSessions.lookup user).isSome = true →
      ∀ k, k.getClient = user →
        ((after es).sessions.lookup k).isSome = true → Young es now k) := by
  refine imp_congr_right fun hmedia => ?_
  rw [mediaSessions_clearData]
  by_cases hany : ((after es).sessionsToRemove now).any
      fun k => k.getClient = user
  · rw [if_pos hany]
    refine iff_of_false Bool.false_ne_true fun hall => ?_
    obtain ⟨k, hmem, huser⟩ := List.any_eq_true.mp hany
    obtain ⟨item, hat, hexp⟩ := mem_sessionsToRemove.mp hmem
    have hyoung := hall k (of_decide_eq_true huser) (by rw [hat]; rfl) item
      (stored_eq_lastOffer k item es hat)
    rw [hexp] at hyoung
    cases hyoung
  · rw [if_neg hany]
    refine iff_of_true hmedia fun k huser hstored item hlast => ?_
    by_contra hexp
    obtain ⟨item', hat⟩ := Option.isSome_iff_exists.mp hstored
    have heq := stored_eq_lastOffer k item' es hat
    rw [hlast] at heq
    cases heq
    refine hany (List.any_eq_true.mpr ⟨k, mem_sessionsToRemove.mpr
      ⟨item, hat, by simpa using hexp⟩, by simpa using huser⟩)

/-- In every run: no tick removes a session that was asked for in the minute
before it, or its client's codec table, if and only if at every such tick the
last offer of the session, and as long as the table is there that of every other
session of the client, is at most a minute old. -/
theorem active_sessions_kept_iff (es : List SessionEvent) :
    (∀ pre now post k, es = pre ++ .clearData now :: post →
      Active pre k now → Kept (after pre) now k) ↔
    (∀ pre now post k, es = pre ++ .clearData now :: post →
      Active pre k now →
      (((after pre).sessions.lookup k).isSome = true → Young pre now k) ∧
      (((after pre).mediaSessions.lookup k.getClient).isSome = true →
        ∀ k', k'.getClient = k.getClient →
          ((after pre).sessions.lookup k').isSome = true →
          Young pre now k')) := by
  refine forall_congr' fun pre => forall_congr' fun now =>
    forall_congr' fun post => forall_congr' fun k =>
      imp_congr_right fun _ => imp_congr_right fun _ => ?_
  exact and_congr (session_kept_iff pre now k)
    (media_kept_iff pre now k.getClient)

/-! ## A keep-alive in vain -/

/-- Times never go back, and an offer comes before its message is handled. -/
def MonotoneClock (es : List SessionEvent) : Prop :=
  (es.map SessionEvent.now).Pairwise (· ≤ ·) ∧
    ∀ k item now, .session k item now ∈ es → item.ttl ≤ now

/-- A session offered after ten seconds, and the first tick. -/
def offeredAtTen : List SessionEvent :=
  [.session ⟨"s", "c"⟩ ⟨1, Duration.fromSecs 10, true⟩ (Duration.fromSecs 10),
    .mediaUser "c" MediaList.vp8 (Duration.fromSecs 10),
    .clearData (Duration.fromSecs 60)]

/-- The client asks for its session after 115 seconds. -/
def keepAlive : SessionEvent :=
  .stun ⟨Vector.replicate 12 7, "c", "s"⟩ (.host 1) (Duration.fromSecs 115)

/-- The next tick removes the session all the same. -/
theorem active_session_expires :
    ¬ ∀ es, MonotoneClock es → ∀ pre now post k,
      es = pre ++ .clearData now :: post → Active pre k now →
      Kept (after pre) now k := by
  intro h
  have hclock : MonotoneClock
      (offeredAtTen ++ [keepAlive, .clearData (Duration.fromSecs 120)]) := by
    refine ⟨by decide, ?_⟩
    intro k item now hmem
    simp only [offeredAtTen, keepAlive, List.cons_append, List.nil_append,
      List.mem_cons, SessionEvent.session.injEq, reduceCtorEq,
      List.not_mem_nil, or_false] at hmem
    obtain ⟨-, rfl, rfl⟩ := hmem
    exact Nat.le_refl _
  have hkept := h _ hclock (offeredAtTen ++ [keepAlive])
    (Duration.fromSecs 120) [] ⟨"s", "c"⟩ rfl
    ⟨offeredAtTen, [], _, _, _, rfl, rfl, by decide +kernel, by decide⟩
  have hsession := hkept.1 (by decide +kernel)
  revert hsession
  decide +kernel

end RStreamer.UdpRecv
