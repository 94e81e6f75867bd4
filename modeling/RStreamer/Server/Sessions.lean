import RStreamer.Lib.Machine
import RStreamer.Sdp.Media
import RStreamer.Server.Udp

/-!
# Sessions (`server/udp.rs`, `client/sessions.rs`)

The two maps of `UdpRecv` and the handlers that use them. An offer leaves a
session, under the names of the server and of the client, and the client's codec
table under the client's name. A STUN binding request looks both up and passes
what it finds on. Once a minute `ClearData` drops the sessions that are older
than a minute, and the codec tables of their clients.

The age of a session is that of its `ttl`, the time of the offer. The clock is
`SystemTime`, which may be set back; a session from the future has no age.
-/

namespace RStreamer

/-- A reading of the wall clock, in nanoseconds. -/
abbrev SystemTime : Type := Nat

/-- `SystemTime::elapsed`, read at `now`: an error for a time to come. -/
def SystemTime.elapsed (now since : SystemTime) : Option Duration :=
  if since ≤ now then some (now - since) else none

/-- `Session` -/
structure Session where
  serverUser : String
  clientUser : String
  deriving DecidableEq, Repr

/-- `Session::get_client` -/
def Session.getClient (s : Session) : String := s.clientUser

/-- `SessionStorageItem` -/
structure SessionStorageItem where
  groupId : Nat
  ttl : SystemTime
  isSender : Bool
  deriving DecidableEq, Repr

/-- How old a session may get, `Duration::from_secs(60)`. -/
def sessionTtl : Duration := Duration.fromSecs 60

/-- The test of `ClearData`, at `now`. -/
def SessionStorageItem.expired (item : SessionStorageItem)
    (now : SystemTime) : Bool :=
  match SystemTime.elapsed now item.ttl with
  | some d => d > sessionTtl
  | none => false

theorem SessionStorageItem.expired_eq_false_iff {item : SessionStorageItem}
    {now : SystemTime} :
    item.expired now = false ↔ now ≤ item.ttl + sessionTtl := by
  rw [expired, SystemTime.elapsed]
  by_cases hle : item.ttl ≤ now
  · rw [if_pos hle]
    simp only [gt_iff_lt, decide_eq_false_iff_not, Nat.not_lt]
    exact Nat.sub_le_iff_le_add'
  · rw [if_neg hle]
    exact iff_of_true rfl
      (Nat.le_trans (Nat.le_of_not_le hle) (Nat.le_add_right _ _))

/-- The session a binding request names. -/
def StunBindingRequest.session (req : StunBindingRequest) : Session :=
  ⟨req.serverUser, req.remoteUser⟩

/-- What `UdpRecv` passes on for a binding request. -/
inductive StunEffect where
  | mediaAddr (addr : SocketAddr) (media : MediaList)
  | respond (req : StunBindingRequest) (addr : SocketAddr)
  | groupId (groupId : Nat) (addr : SocketAddr) (isSender : Bool)

/-- The maps of `UdpRecv`: `SessionsStorage` and `MediaUserStorage`. -/
structure UdpRecv where
  sessions : Table Session SessionStorageItem
  mediaSessions : Table String MediaList

namespace UdpRecv

def init : UdpRecv := ⟨∅, ∅⟩

/-- `Handler<SessionMessage>` -/
def handleSession (s : UdpRecv) (session : Session)
    (item : SessionStorageItem) : UdpRecv :=
  { s with sessions := s.sessions.insert session item }

/-- `Handler<MediaUserMessage>` -/
def handleMediaUser (s : UdpRecv) (userName : String)
    (media : MediaList) : UdpRecv :=
  { s with mediaSessions := s.mediaSessions.insert userName media }

/-- `Handler<WebRtcRequest>` for a binding request. -/
def handleStun (s : UdpRecv) (req : StunBindingRequest)
    (addr : SocketAddr) : UdpRecv × List StunEffect :=
  match s.sessions.lookup req.session with
  | none => (s, [])
  -- the item is copied out; the one in the map stays as it is
  | some item =>
      (s, ((s.mediaSessions.lookup req.remoteUser).map
          fun media => .mediaAddr addr media).toList ++
        [.respond req addr, .groupId item.groupId addr item.isSender])

def sessionsToRemove (s : UdpRecv) (now : SystemTime) : List Session :=
  (s.sessions.entries.filter fun e => e.2.expired now).map fun e => e.1

def removeSession (s : UdpRecv) (session : Session) : UdpRecv where
  sessions := s.sessions.erase session
  mediaSessions := s.mediaSessions.erase session.getClient

/-- `StreamHandler<ClearData>` -/
def clearData (s : UdpRecv) (now : SystemTime) : UdpRecv :=
  (s.sessionsToRemove now).foldl removeSession s

end UdpRecv

/-- What `UdpRecv` handles, and when. -/
inductive SessionEvent where
  | session (session : Session) (item : SessionStorageItem) (now : SystemTime)
  | mediaUser (userName : String) (media : MediaList) (now : SystemTime)
  | stun (req : StunBindingRequest) (addr : SocketAddr) (now : SystemTime)
  | clearData (now : SystemTime)

def SessionEvent.now : SessionEvent → SystemTime
  | .session _ _ now => now
  | .mediaUser _ _ now => now
  | .stun _ _ now => now
  | .clearData now => now

namespace UdpRecv

def step (s : UdpRecv) : SessionEvent → UdpRecv
  | .session session item _ => s.handleSession session item
  | .mediaUser userName media _ => s.handleMediaUser userName media
  | .stun req addr _ => (s.handleStun req addr).1
  | .clearData now => s.clearData now

def after (es : List SessionEvent) : UdpRecv := Machine.run step init es

/-! ## What a tick removes -/

theorem lookup_foldl_removeSession (k : Session) (user : String) :
    ∀ (ks : List Session) (s : UdpRecv),
      (ks.foldl removeSession s).sessions.lookup k =
          (if k ∈ ks then none else s.sessions.lookup k) ∧
        (ks.foldl removeSession s).mediaSessions.lookup user =
          (if user ∈ ks.map Session.getClient then none
            else s.mediaSessions.lookup user) := by
  intro ks
  induction ks with
  | nil => intro s; exact ⟨rfl, rfl⟩
  | cons k' ks ih =>
      intro s
      obtain ⟨hsession, hmedia⟩ := ih (s.removeSession k')
      rw [List.foldl_cons, hsession, hmedia]
      simp only [removeSession, Table.lookup_erase', List.map_cons,
        List.mem_cons]
      refine ⟨?_, ?_⟩
      · by_cases hk : k = k' <;> by_cases hks : k ∈ ks <;> simp [hk, hks]
      · by_cases hu : user = k'.getClient <;>
          by_cases hus : user ∈ ks.map Session.getClient <;> simp [hu, hus]

theorem mem_sessionsToRemove {s : UdpRecv} {now : SystemTime} {k : Session} :
    k ∈ s.sessionsToRemove now ↔
      ∃ item, s.sessions.lookup k = some item ∧ item.expired now = true := by
  rw [sessionsToRemove, List.mem_map]
  refine ⟨?_, ?_⟩
  · rintro ⟨⟨k', item⟩, hmem, rfl⟩
    obtain ⟨hentry, hexp⟩ := List.mem_filter.mp hmem
    exact ⟨item, Table.mem_entries_iff.mp hentry, hexp⟩
  · rintro ⟨item, hat, hexp⟩
    exact ⟨⟨k, item⟩,
      List.mem_filter.mpr ⟨Table.mem_entries_iff.mpr hat, hexp⟩, rfl⟩

/-- A tick removes the expired sessions. -/
theorem sessions_clearData (s : UdpRecv) (now : SystemTime) (k : Session) :
    (s.clearData now).sessions.lookup k =
      (s.sessions.lookup k).filter fun item => !item.expired now := by
  rw [clearData, (lookup_foldl_removeSession k "" _ s).1]
  simp only [mem_sessionsToRemove]
  cases hat : s.sessions.lookup k with
  | none => split <;> rfl
  | some item =>
      by_cases hexp : item.expired now = true
      · rw [if_pos ⟨item, rfl, hexp⟩, Option.filter_some_neg (by simp [hexp])]
      · rw [if_neg, Option.filter_some_pos (by simp [hexp])]
        rintro ⟨item', heq, hexp'⟩
        cases heq
        exact hexp hexp'

/-- A tick removes the codec tables of the clients of expired sessions. -/
theorem mediaSessions_clearData (s : UdpRecv) (now : SystemTime)
    (user : String) : (s.clearData now).mediaSessions.lookup user =
      if (s.sessionsToRemove now).any fun k => k.getClient = user then none
      else s.mediaSessions.lookup user := by
  rw [clearData, (lookup_foldl_removeSession ⟨"", ""⟩ user _ s).2]
  simp only [List.mem_map, List.any_eq_true, decide_eq_true_eq]

end UdpRecv

end RStreamer
