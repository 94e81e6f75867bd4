import RStreamer.Lib.LastWith
import RStreamer.Proofs.SessionExpiry
import RStreamer.Sdp.Offer

/-!
# Sessions and codec tables, in pairs

An offer leaves a session and a codec table, by two messages, and `ClearData`
takes both away together. Between the two messages other offers and ticks come
in, and the table's message does not ask whether its session is still there.

A table without a session can only come about there: the sweep takes the table
of every session it takes, so tables are owned throughout a run exactly if every
`MediaUserMessage` finds a session of its client (`mediaOwned_iff`). The other
half, a session without a table, is a pair that is not delivered yet, whatever
the order of events.

Within the minute a session lives its message does find it, unless an older
offer of the same client was registered after it and took its place. Two offers
of one client are handled side by side, and nothing keeps their messages in the
order of their times.
-/

namespace RStreamer

namespace UdpRecv

/-- The message finds a session of its client. -/
def MediaMet (s : UdpRecv) : SessionEvent → Prop
  | .mediaUser user _ _ => ∃ k : Session, k.getClient = user ∧
      (s.sessions.lookup k).isSome = true
  | _ => True

/-- Every codec table belongs to a client with a session. -/
def MediaOwned (s : UdpRecv) : Prop :=
  ∀ user, (s.mediaSessions.lookup user).isSome = true →
    ∃ k : Session, k.getClient = user ∧ (s.sessions.lookup k).isSome = true

/-- There is a codec table for a name exactly if there is a session for it. -/
def Paired (s : UdpRecv) (user : String) : Prop :=
  (s.mediaSessions.lookup user).isSome = true ↔
    ∃ k : Session, k.getClient = user ∧ (s.sessions.lookup k).isSome = true

/-! ## Tables without a session -/

theorem mediaOwned_session {s : UdpRecv} (h : MediaOwned s) (k : Session)
    (item : SessionStorageItem) : MediaOwned (s.handleSession k item) := by
  intro user huser
  obtain ⟨k', hclient, hstored⟩ := h user huser
  refine ⟨k', hclient, ?_⟩
  rw [handleSession, Table.lookup_insert']
  split
  · rfl
  · exact hstored

theorem mediaOwned_mediaUser_iff {s : UdpRecv} (h : MediaOwned s)
    (user : String) (media : MediaList) :
    MediaOwned (s.handleMediaUser user media) ↔
      ∃ k : Session, k.getClient = user ∧
        (s.sessions.lookup k).isSome = true := by
  constructor
  · intro howned
    refine howned user ?_
    rw [handleMediaUser, Table.lookup_insert', if_pos rfl]
    rfl
  · intro hmet user' huser'
    rw [handleMediaUser, Table.lookup_insert'] at huser'
    by_cases heq : user' = user
    · rw [heq]
      exact hmet
    · rw [if_neg heq] at huser'
      exact h user' huser'

/-- The sweep takes the table of every session it takes. -/
theorem mediaOwned_clearData {s : UdpRecv} (h : MediaOwned s)
    (now : SystemTime) : MediaOwned (s.clearData now) := by
  intro user huser
  rw [mediaSessions_clearData] at huser
  split at huser
  · cases huser
  · next hnone =>
      obtain ⟨k, hclient, hstored⟩ := h user huser
      obtain ⟨item, hitem⟩ := Option.isSome_iff_exists.mp hstored
      refine ⟨k, hclient, ?_⟩
      rw [sessions_clearData, hitem]
      cases hexp : item.expired now with
      | false => simp [hexp]
      | true =>
          refine absurd (List.any_eq_true.mpr ⟨k, ?_, ?_⟩) hnone
          · exact mem_sessionsToRemove.mpr ⟨item, hitem, hexp⟩
          · exact decide_eq_true hclient

theorem mediaOwned_step_iff {s : UdpRecv} (h : MediaOwned s)
    (e : SessionEvent) : MediaOwned (step s e) ↔ MediaMet s e := by
  cases e with
  | session k item now => exact iff_of_true (mediaOwned_session h k item) trivial
  | mediaUser user media now => exact mediaOwned_mediaUser_iff h user media
  | stun req addr now =>
      refine iff_of_true ?_ trivial
      rw [step, handleStun]
      split <;> exact h
  | clearData now => exact iff_of_true (mediaOwned_clearData h now) trivial

/-- Tables are owned throughout a run exactly if every message for one finds a
session of its client. -/
theorem mediaOwned_iff (es : List SessionEvent) :
    Machine.Always step MediaOwned init es ↔
      Machine.Along step MediaMet init es :=
  Machine.always_iff_along (I := fun _ => True) (fun _ _ _ => trivial)
    (fun _ e _ h => mediaOwned_step_iff h e) trivial
    (fun _ h => by cases h)

/-! ## Offers in the order of their times -/

/-- The messages for one session are handled in the order of their offers. -/
def TtlOrdered (es : List SessionEvent) : Prop :=
  es.Pairwise fun e e' => ∀ k item now item' now',
    e = .session k item now → e' = .session k item' now' →
    item.ttl ≤ item'.ttl

theorem exists_of_offerFor {k : Session} {e : SessionEvent}
    {item : SessionStorageItem} (h : offerFor k e = some item) :
    ∃ now, e = .session k item now := by
  cases e with
  | session k' item' now =>
      rw [offerFor] at h
      split at h
      · next hk =>
          cases h
          exact ⟨now, by rw [hk]⟩
      · cases h
  | mediaUser user media now => cases h
  | stun req addr now => cases h
  | clearData now => cases h

/-- A session that was registered is stored as long as the ticks are within a
minute of its offer: what takes its place is not older. -/
theorem stored_of_ttlOrdered {es : List SessionEvent} (hord : TtlOrdered es)
    {k : Session} {item : SessionStorageItem} {now limit : SystemTime}
    (hmem : .session k item now ∈ es)
    (hticks : ∀ t, .clearData t ∈ es → t ≤ limit)
    (hlimit : limit ≤ item.ttl + sessionTtl) :
    ((after es).sessions.lookup k).isSome = true := by
  obtain ⟨e, post, hlast⟩ := LastWith.exists_of_mem
    (P := fun e => (offerFor k e).isSome = true) hmem (by simp [offerFor])
  obtain ⟨⟨pre, rfl⟩, hlatest, hpost⟩ := hlast
  obtain ⟨item', hitem'⟩ := Option.isSome_iff_exists.mp hlatest
  obtain ⟨now', rfl⟩ := exists_of_offerFor hitem'
  have hnewer : item.ttl ≤ item'.ttl := by
    obtain ⟨-, -, hcross⟩ := List.pairwise_append.mp hord
    rcases List.mem_append.mp hmem with hpre | hrest
    · exact hcross _ hpre _ List.mem_cons_self k item now item' now' rfl rfl
    · rcases List.mem_cons.mp hrest with heq | hlater
      · cases heq
        exact Nat.le_refl _
      · exact absurd (by simp [offerFor]) (hpost _ hlater)
  have hstored : (after (pre ++ .session k item' now' ::
      post)).sessions.lookup k = some item' := by
    refine stored_after (fun e he => ?_) fun t ht => ?_
    · exact Option.not_isSome_iff_eq_none.mp (hpost e he)
    · have htick := hticks t (List.mem_append_right _ (List.mem_cons_of_mem _ ht))
      exact SessionStorageItem.expired_eq_false_iff.mpr
        (Nat.le_trans htick (Nat.le_trans hlimit
          (Nat.add_le_add_right hnewer sessionTtl)))
  rw [hstored]
  rfl

end UdpRecv

/-! ## Runs of offers -/

theorem Session.eq_of_users {k k' : Session}
    (hserver : k.serverUser = k'.serverUser)
    (hclient : k.getClient = k'.getClient) : k = k' := by
  cases k
  cases k'
  cases hserver
  cases hclient
  rfl

/-- The two messages of a registration. -/
inductive PairMessage where
  | session
  | media
  deriving DecidableEq

/-- What happens in a run of offers: message `m` of pair `i` is handled, or the
minute is over. -/
inductive PairEvent where
  | deliver (m : PairMessage) (i : Nat) (now : SystemTime)
  | clearData (now : SystemTime)

namespace PairEvent

def now : PairEvent → SystemTime
  | deliver _ _ now => now
  | clearData now => now

def delivery : PairEvent → Option (PairMessage × Nat)
  | deliver m i _ => some (m, i)
  | clearData _ => none

/-- What `UdpRecv` sees, if pair `i` is the registration `pair i`. -/
def event (pair : Nat → Registration) : PairEvent → SessionEvent
  | deliver .session i now => .session (pair i).session (pair i).item now
  | deliver .media i now =>
      .mediaUser (pair i).session.getClient (pair i).media now
  | clearData now => .clearData now

end PairEvent

/-- The messages handled in a run, in order. -/
def delivered (es : List PairEvent) : List (PairMessage × Nat) :=
  es.filterMap PairEvent.delivery

/-- No pair is half delivered. -/
def Balanced (es : List PairEvent) : Prop :=
  ∀ i, (.session, i) ∈ delivered es → (.media, i) ∈ delivered es

/-- The state after a run of offers. -/
def afterPairs (pair : Nat → Registration) (es : List PairEvent) : UdpRecv :=
  UdpRecv.after (es.map (PairEvent.event pair))

/-- A run of offers: the clock is monotone, no message is handled twice, the
table of a pair comes after its session, both within a minute of the offer, and
all offers are answered by one server. -/
structure PairRun (pair : Nat → Registration) (es : List PairEvent) :
    Prop where
  clock : (es.map PairEvent.now).Pairwise (· ≤ ·)
  once : (delivered es).Nodup
  order : ∀ n i now, es[n]? = some (.deliver .media i now) →
    (.session, i) ∈ delivered (es.take n)
  timely : ∀ m i now, .deliver m i now ∈ es →
    (pair i).item.ttl ≤ now ∧ now ≤ (pair i).item.ttl + sessionTtl
  server : ∀ d ∈ delivered es, ∀ d' ∈ delivered es,
    (pair d.2).session.serverUser = (pair d'.2).session.serverUser

section Runs

variable {pair : Nat → Registration}

theorem delivered_append (es fs : List PairEvent) :
    delivered (es ++ fs) = delivered es ++ delivered fs :=
  List.filterMap_append

theorem mem_delivered {es : List PairEvent} {m : PairMessage} {i : Nat} :
    (m, i) ∈ delivered es ↔ ∃ now, .deliver m i now ∈ es := by
  rw [delivered, List.mem_filterMap]
  constructor
  · rintro ⟨e, he, hd⟩
    cases e with
    | deliver m' i' now =>
        cases hd
        exact ⟨now, he⟩
    | clearData now => cases hd
  · rintro ⟨now, he⟩
    exact ⟨_, he, rfl⟩

namespace PairRun

/-- What has happened of a run is a run. -/
theorem of_append {es fs : List PairEvent} (h : PairRun pair (es ++ fs)) :
    PairRun pair es where
  clock := by
    have hclock := h.clock
    rw [List.map_append] at hclock
    exact (List.pairwise_append.mp hclock).1
  once := by
    have honce := h.once
    rw [delivered_append] at honce
    exact (List.nodup_append.mp honce).1
  order n i now hn := by
    have hlt : n < es.length := (List.getElem?_eq_some_iff.mp hn).1
    have hmem := h.order n i now (by rwa [List.getElem?_append_left hlt])
    rwa [List.take_append_of_le_length (Nat.le_of_lt hlt)] at hmem
  timely m i now hmem := h.timely m i now (List.mem_append_left fs hmem)
  server d hd d' hd' := by
    refine h.server d ?_ d' ?_ <;> rw [delivered_append]
    · exact List.mem_append_left _ hd
    · exact List.mem_append_left _ hd'

/-- The session of a pair comes before its table. -/
theorem session_delivered {es : List PairEvent} {i : Nat} {now : SystemTime}
    (h : PairRun pair (es ++ [.deliver .media i now])) :
    (.session, i) ∈ delivered es := by
  have hmem := h.order es.length i now (by simp)
  rwa [List.take_left] at hmem

theorem media_not_delivered {es : List PairEvent} {i : Nat} {now : SystemTime}
    (h : PairRun pair (es ++ [.deliver .session i now])) :
    (.media, i) ∉ delivered es := by
  intro hmedia
  have honce := h.once
  rw [delivered_append, List.nodup_append] at honce
  obtain ⟨t, ht⟩ := mem_delivered.mp hmedia
  obtain ⟨pre, post, rfl⟩ := List.append_of_mem ht
  have hpre : PairRun pair (pre ++ [.deliver .media i t]) := by
    refine @of_append pair _ (post ++ [.deliver .session i now]) ?_
    simpa using h
  have hsession := hpre.session_delivered
  refine honce.2.2 _ ?_ _ (List.mem_singleton_self _) rfl
  rw [delivered_append]
  exact List.mem_append_left _ hsession

/-- A stored session is that of a pair whose session was delivered. -/
theorem exists_of_stored {es : List PairEvent} {k : Session}
    (hk : ((afterPairs pair es).sessions.lookup k).isSome = true) :
    ∃ i, (.session, i) ∈ delivered es ∧ (pair i).session = k := by
  obtain ⟨item, hitem⟩ := Option.isSome_iff_exists.mp hk
  have hlast := UdpRecv.stored_eq_lastOffer k item _ hitem
  obtain ⟨e, he, hoffer⟩ :=
    List.mem_filterMap.mp (List.mem_of_getLast? hlast)
  obtain ⟨now, rfl⟩ := UdpRecv.exists_of_offerFor hoffer
  obtain ⟨e, he, heq⟩ := List.mem_map.mp he
  cases e with
  | deliver m i t =>
      cases m with
      | session =>
          rw [PairEvent.event] at heq
          cases heq
          exact ⟨i, mem_delivered.mpr ⟨_, he⟩, rfl⟩
      | media => cases heq
  | clearData t => cases heq

/-- One server: a client has one session. -/
theorem session_unique {es : List PairEvent} (h : PairRun pair es)
    {k k' : Session}
    (hk : ((afterPairs pair es).sessions.lookup k).isSome = true)
    (hk' : ((afterPairs pair es).sessions.lookup k').isSome = true)
    (hclient : k.getClient = k'.getClient) : k = k' := by
  obtain ⟨i, hi, rfl⟩ := exists_of_stored hk
  obtain ⟨j, hj, rfl⟩ := exists_of_stored hk'
  exact Session.eq_of_users (h.server _ hi _ hj) hclient

theorem afterPairs_concat (es : List PairEvent) (e : PairEvent) :
    afterPairs pair (es ++ [e]) = (afterPairs pair es).step (e.event pair) := by
  rw [afterPairs, List.map_append]
  exact UdpRecv.after_concat _ _

/-- A pair of session `k` is half delivered. -/
def Pending (pair : Nat → Registration) (es : List PairEvent) (k : Session) :
    Prop :=
  ∃ i, (pair i).session = k ∧ (.session, i) ∈ delivered es ∧
    (.media, i) ∉ delivered es

theorem Pending.concat {es : List PairEvent} {k : Session}
    (h : Pending pair es k) {e : PairEvent}
    (he : ∀ i now, e = .deliver .media i now → (pair i).session ≠ k) :
    Pending pair (es ++ [e]) k := by
  obtain ⟨i, hik, hsession, hmedia⟩ := h
  refine ⟨i, hik, ?_, ?_⟩
  · rw [delivered_append]
    exact List.mem_append_left _ hsession
  · rw [delivered_append, List.mem_append]
    rintro (hold | hnew)
    · exact hmedia hold
    · obtain ⟨now, hnow⟩ := mem_delivered.mp hnew
      exact he i now (List.mem_singleton.mp hnow).symm hik

theorem pending_session {es : List PairEvent} {i : Nat} {now : SystemTime}
    (h : PairRun pair (es ++ [.deliver .session i now])) {k : Session}
    (ih : ((afterPairs pair es).sessions.lookup k).isSome = true →
      ((afterPairs pair es).mediaSessions.lookup k.getClient).isSome = true ∨
        Pending pair es k)
    (hk : (((afterPairs pair es).handleSession (pair i).session
      (pair i).item).sessions.lookup k).isSome = true) :
    ((afterPairs pair es).mediaSessions.lookup k.getClient).isSome = true ∨
      Pending pair (es ++ [.deliver .session i now]) k := by
  by_cases hik : k = (pair i).session
  · refine .inr ⟨i, hik.symm, ?_, ?_⟩
    · exact mem_delivered.mpr ⟨now, by simp⟩
    · rw [delivered_append, List.mem_append]
      rintro (hold | hnew)
      · exact h.media_not_delivered hold
      · cases List.mem_singleton.mp hnew
  · rw [UdpRecv.handleSession, Table.lookup_insert', if_neg hik] at hk
    refine (ih hk).imp_right fun hpending => hpending.concat ?_
    intro j t heq
    cases heq

theorem pending_media {es : List PairEvent} {i : Nat} {now : SystemTime}
    {k : Session}
    (ih : ((afterPairs pair es).sessions.lookup k).isSome = true →
      ((afterPairs pair es).mediaSessions.lookup k.getClient).isSome = true ∨
        Pending pair es k)
    (hk : ((afterPairs pair es).sessions.lookup k).isSome = true) :
    (((afterPairs pair es).handleMediaUser (pair i).session.getClient
        (pair i).media).mediaSessions.lookup k.getClient).isSome = true ∨
      Pending pair (es ++ [.deliver .media i now]) k := by
  rw [UdpRecv.handleMediaUser, Table.lookup_insert']
  by_cases hclient : k.getClient = (pair i).session.getClient
  · rw [if_pos hclient]
    exact .inl rfl
  · rw [if_neg hclient]
    refine (ih hk).imp_right fun hpending => hpending.concat ?_
    rintro j t heq rfl
    cases heq
    exact hclient rfl

theorem pending_clearData {es : List PairEvent} (h : PairRun pair es)
    {now : SystemTime} {k : Session}
    (ih : ((afterPairs pair es).sessions.lookup k).isSome = true →
      ((afterPairs pair es).mediaSessions.lookup k.getClient).isSome = true ∨
        Pending pair es k)
    (hk : (((afterPairs pair es).clearData now).sessions.lookup k).isSome =
      true) :
    (((afterPairs pair es).clearData now).mediaSessions.lookup
        k.getClient).isSome = true ∨
      Pending pair (es ++ [.clearData now]) k := by
  obtain ⟨item, hitem⟩ := Option.isSome_iff_exists.mp hk
  rw [UdpRecv.sessions_clearData, Option.filter_eq_some_iff] at hitem
  obtain ⟨hstored, hyoung⟩ := hitem
  have hk' : ((afterPairs pair es).sessions.lookup k).isSome = true := by
    rw [hstored]
    rfl
  rw [UdpRecv.mediaSessions_clearData, if_neg]
  · refine (ih hk').imp_right fun hpending => hpending.concat ?_
    intro j t heq
    cases heq
  · -- another session of the client would be the same one, and it stays
    rw [List.any_eq_true]
    rintro ⟨k', hmem, hclient⟩
    obtain ⟨item', hitem', hexp⟩ := UdpRecv.mem_sessionsToRemove.mp hmem
    have hsame : k' = k := h.session_unique (by rw [hitem']; rfl) hk'
      (of_decide_eq_true hclient)
    rw [hsame, hstored] at hitem'
    cases hitem'
    rw [hexp] at hyoung
    cases hyoung

/-- A stored session has its table, or a pair of it is half delivered. -/
theorem media_or_pending {es : List PairEvent} (h : PairRun pair es)
    {k : Session}
    (hk : ((afterPairs pair es).sessions.lookup k).isSome = true) :
    ((afterPairs pair es).mediaSessions.lookup k.getClient).isSome = true ∨
      Pending pair es k := by
  induction es using List.reverseRecOn with
  | nil => cases hk
  | append_singleton es e ih =>
      have hes := h.of_append
      rw [afterPairs_concat] at hk ⊢
      cases e with
      | deliver m i now =>
          cases m with
          | session => exact pending_session h (ih hes) hk
          | media => exact pending_media (ih hes) hk
      | clearData now => exact pending_clearData hes (ih hes) hk

/-- With every pair delivered, and every table owned, both maps have the same
clients. -/
theorem paired_of_balanced {es : List PairEvent} (h : PairRun pair es)
    (hbalanced : Balanced es) (howned : (afterPairs pair es).MediaOwned)
    (user : String) : (afterPairs pair es).Paired user := by
  refine ⟨howned user, ?_⟩
  rintro ⟨k, rfl, hk⟩
  rcases h.media_or_pending hk with hmedia | ⟨i, -, hsession, hmedia⟩
  · exact hmedia
  · exact absurd (hbalanced i hsession) hmedia

/-- The session of a pair is stored when its table is handled, if nothing older
has taken its place. -/
theorem stored_of_media {es : List PairEvent} {i : Nat} {now : SystemTime}
    (h : PairRun pair (es ++ [.deliver .media i now]))
    (hord : UdpRecv.TtlOrdered (es.map (PairEvent.event pair))) :
    ((afterPairs pair es).sessions.lookup (pair i).session).isSome = true := by
  obtain ⟨t, ht⟩ := mem_delivered.mp h.session_delivered
  refine UdpRecv.stored_of_ttlOrdered hord
    (List.mem_map_of_mem ht) (fun t' ht' => ?_)
    (h.timely .media i now (by simp)).2
  obtain ⟨e, he, heq⟩ := List.mem_map.mp ht'
  have hclock := h.clock
  rw [List.map_append, List.pairwise_append] at hclock
  have hle := hclock.2.2 _ (List.mem_map_of_mem he) now
    (List.mem_singleton_self _)
  cases e with
  | deliver m j t'' => cases m <;> cases heq
  | clearData t'' =>
      cases heq
      exact hle

/-- In the order of the offers, every table finds a session. -/
theorem mediaMet_of_ttlOrdered {es : List PairEvent} (h : PairRun pair es)
    (hord : UdpRecv.TtlOrdered (es.map (PairEvent.event pair))) :
    Machine.Along UdpRecv.step UdpRecv.MediaMet UdpRecv.init
      (es.map (PairEvent.event pair)) := by
  refine Machine.along_of_forall_append fun pre e post heq => ?_
  obtain ⟨pre', rest, rfl, hpre, hrest⟩ := List.map_eq_append_iff.mp heq
  obtain ⟨e', post', rfl, he, hpost⟩ := List.map_eq_cons_iff.mp hrest
  cases e' with
  | deliver m i now =>
      cases m with
      | session =>
          subst he
          trivial
      | media =>
          subst he hpre
          have hrun : PairRun pair (pre' ++ [.deliver .media i now]) := by
            refine @of_append pair _ post' ?_
            simpa using h
          rw [List.map_append] at hord
          exact ⟨(pair i).session, rfl,
            hrun.stored_of_media (List.pairwise_append.mp hord).1⟩
  | clearData now =>
      subst he
      trivial

end PairRun

/-- In every run of offers, sessions and codec tables have the same clients in
every state in which no pair is half delivered, as long as every table that is
handled finds a session of its client; and every table does if the sessions of
one client are registered in the order of their offers. -/
theorem sessions_and_media_paired (pair : Nat → Registration)
    (es : List PairEvent) (h : PairRun pair es) :
    (Machine.Along UdpRecv.step UdpRecv.MediaMet UdpRecv.init
        (es.map (PairEvent.event pair)) →
      ∀ pre post, es = pre ++ post → Balanced pre →
        ∀ user, (afterPairs pair pre).Paired user) ∧
    (UdpRecv.TtlOrdered (es.map (PairEvent.event pair)) →
      Machine.Along UdpRecv.step UdpRecv.MediaMet UdpRecv.init
        (es.map (PairEvent.event pair))) := by
  refine ⟨?_, h.mediaMet_of_ttlOrdered⟩
  rintro hmet pre post rfl hbalanced user
  have howned := (UdpRecv.mediaOwned_iff _).mpr hmet
  rw [List.map_append] at howned
  exact h.of_append.paired_of_balanced hbalanced howned.run_of_append user

end Runs

/-! ## An older offer that comes later -/

/-- Two offers of one client: one at the start, and one after fifty seconds. -/
def twoOffers (i : Nat) : Registration where
  session := ⟨"s", "c"⟩
  item := ⟨1, if i = 0 then 0 else Duration.fromSecs 50, true⟩
  media := MediaList.vp8

/-- The session of offer `i` is registered, then that of offer `j`, and a tick
falls between the two tables. -/
def registeredAs (i j : Nat) : List PairEvent :=
  [.deliver .session i (Duration.fromSecs 55),
    .deliver .session j (Duration.fromSecs 59),
    .deliver .media 0 (Duration.fromSecs 60),
    .clearData (Duration.fromSecs 61),
    .deliver .media 1 (Duration.fromSecs 100)]

theorem pairRun_registeredAs {i j : Nat} (h : i = 0 ∧ j = 1 ∨ i = 1 ∧ j = 0) :
    PairRun twoOffers (registeredAs i j) where
  clock := by rcases h with ⟨rfl, rfl⟩ | ⟨rfl, rfl⟩ <;> decide
  once := by rcases h with ⟨rfl, rfl⟩ | ⟨rfl, rfl⟩ <;> decide
  order n i' now hn := by
    rcases n with _ | _ | _ | _ | _ | n
    · cases hn
    · cases hn
    · cases hn
      rcases h with ⟨rfl, rfl⟩ | ⟨rfl, rfl⟩ <;> decide
    · cases hn
    · cases hn
      rcases h with ⟨rfl, rfl⟩ | ⟨rfl, rfl⟩ <;> decide
    · cases hn
  timely m i' now hmem := by
    simp only [registeredAs, List.mem_cons, PairEvent.deliver.injEq,
      reduceCtorEq, List.not_mem_nil, or_false, false_or] at hmem
    rcases h with ⟨rfl, rfl⟩ | ⟨rfl, rfl⟩ <;>
      rcases hmem with ⟨rfl, rfl, rfl⟩ | ⟨rfl, rfl, rfl⟩ | ⟨rfl, rfl, rfl⟩ |
        ⟨rfl, rfl, rfl⟩ <;> decide
  server d _ d' _ := rfl

theorem balanced_registeredAs {i j : Nat} (h : i = 0 ∧ j = 1 ∨ i = 1 ∧ j = 0) :
    Balanced (registeredAs i j) := by
  have hdelivered : delivered (registeredAs i j) =
      [(.session, i), (.session, j), (.media, 0), (.media, 1)] := rfl
  intro i' hi'
  rw [hdelivered] at hi' ⊢
  simp only [List.mem_cons, Prod.mk.injEq, true_and, reduceCtorEq, false_and,
    List.not_mem_nil, or_false, false_or] at hi' ⊢
  omega

/-- In the order of the offers, the newer session outlives the tick. -/
theorem in_order_paired :
    (afterPairs twoOffers (registeredAs 0 1)).Paired "c" := by
  obtain ⟨hpaired, hmet⟩ := sessions_and_media_paired twoOffers
    (registeredAs 0 1) (pairRun_registeredAs (.inl ⟨rfl, rfl⟩))
  refine hpaired (hmet ?_) _ [] (List.append_nil _).symm
    (balanced_registeredAs (.inl ⟨rfl, rfl⟩)) "c"
  simp only [UdpRecv.TtlOrdered, registeredAs, PairEvent.event, twoOffers,
    List.map_cons, List.map_nil, List.pairwise_cons, List.mem_cons,
    List.not_mem_nil, or_false, forall_eq_or_imp, forall_eq, false_implies,
    implies_true, List.Pairwise.nil, and_true, reduceCtorEq]
  rintro k item now item' now' h h'
  cases h
  cases h'
  exact Nat.zero_le _

/-- The older session takes the place of the newer one and expires, and then the
newer one's table arrives: it is left without a session. -/
theorem overtaken_table_stays : PairRun twoOffers (registeredAs 1 0) ∧
    Balanced (registeredAs 1 0) ∧
    ¬ (afterPairs twoOffers (registeredAs 1 0)).Paired "c" := by
  refine ⟨pairRun_registeredAs (.inr ⟨rfl, rfl⟩),
    balanced_registeredAs (.inr ⟨rfl, rfl⟩), fun hpaired => ?_⟩
  obtain ⟨k, -, hk⟩ := hpaired.mp (by decide +kernel)
  obtain ⟨i, -, rfl⟩ := PairRun.exists_of_stored hk
  have hnone : ((afterPairs twoOffers (registeredAs 1 0)).sessions.lookup
      ⟨"s", "c"⟩).isSome = false := by decide +kernel
  have hsame : (twoOffers i).session = ⟨"s", "c"⟩ := rfl
  rw [hsame, hnone] at hk
  cases hk

end RStreamer
