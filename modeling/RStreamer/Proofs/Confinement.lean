import RStreamer.Client.Metered
import RStreamer.Proofs.ClientNames
import RStreamer.Proofs.Deadlock
import RStreamer.Proofs.Echo
import RStreamer.Proofs.MediaFlow

/-!
# Where datagrams go, and why

Every datagram the server sends goes back to something that happened before. A
STUN response answers a binding request from its own address, for a session that
was offered. A DTLS datagram was written by the TLS library, for a client whose
first datagram came from that address. And media stays within a group: it goes
from `a` to `b` only if both have announced themselves in one and the same group,
by a binding request that names a session offered for that group.

The last of these is an invariant of the links. A client gets into the receivers
of another when it announces itself in a group, and the other one is then the
sender of that group, so it has announced itself there before. Takeovers would
break it, since they move the receivers of all groups of a sender at once; but a
server never gets to the end of a takeover.
-/

namespace RStreamer

/-! ## Links within groups -/

namespace Registry

variable {S : Type} {ann ann' : Nat → SocketAddr → Prop}
  {home home' : ClientRef → Option SocketAddr} {r r' : Registry S}

/-- `ann g a` is that `a` has announced itself in group `g`, and `home c` is the
address client `c` was made for. Both ends of every link are in one group. -/
structure Grouped (ann : Nat → SocketAddr → Prop)
    (home : ClientRef → Option SocketAddr) (r : Registry S) : Prop where
  groups : ∀ {g a}, r.groups.lookup g = some a → ann g a
  stored : ∀ {a c}, r.clientAt a = some c → home c = some a
  made : ∀ {c a}, home c = some a → c < r.next
  receiver : ∀ {c b t}, (r.heap c).receivers.lookup b = some t →
    ∃ g a, home c = some a ∧ ann g a ∧ ann g b
  sender : ∀ {c b}, (r.heap c).senderAddr = some b →
    ∃ g a, home c = some a ∧ ann g a ∧ ann g b

theorem grouped_init :
    Grouped ann (fun _ => none) (init : Registry S) where
  groups h := by cases h
  stored h := by cases h
  made h := by cases h
  receiver h := by cases h
  sender h := by cases h

theorem Grouped.mono (h : Grouped ann home r)
    (hann : ∀ g a, ann g a → ann' g a) : Grouped ann' home r where
  groups hg := hann _ _ (h.groups hg)
  stored := h.stored
  made := h.made
  receiver hr := by
    obtain ⟨g, a, hhome, ha, hb⟩ := h.receiver hr
    exact ⟨g, a, hhome, hann g a ha, hann g _ hb⟩
  sender hs := by
    obtain ⟨g, a, hhome, ha, hb⟩ := h.sender hs
    exact ⟨g, a, hhome, hann g a ha, hann g _ hb⟩

theorem Grouped.of_sameRoutes (h : Grouped ann home r)
    (hr : SameRoutes r r') (hg : r'.groups = r.groups) :
    Grouped ann home r' where
  groups hl := h.groups (hg ▸ hl)
  stored ha := h.stored (hr.clientAt _ ▸ ha)
  made hc := hr.next ▸ h.made hc
  receiver hl := h.receiver (hr.receivers _ ▸ hl)
  sender hs := h.sender (hr.senderAddr _ ▸ hs)

theorem Grouped.register (h : Grouped ann home r) {addr : SocketAddr}
    (hnone : r.clientAt addr = none) (now : Instant) :
    Grouped ann (Function.update home r.next (some addr))
      (r.register addr now) := by
  have hne : ∀ {c a}, home c = some a → c ≠ r.next :=
    fun hc => Nat.ne_of_lt (h.made hc)
  have hold : ∀ {c a}, home c = some a →
      Function.update home r.next (some addr) c = some a :=
    fun hc => (Function.update_of_ne (hne hc) _ _).trans hc
  refine ⟨?_, ?_, ?_, ?_, ?_⟩
  · intro g a hg
    rw [Registry.register, hnone] at hg
    exact h.groups hg
  · intro a c ha
    rcases stored_of_register hnone ha with ⟨rfl, rfl⟩ | ⟨-, ha⟩
    · exact Function.update_self ..
    · exact hold (h.stored ha)
  · intro c a hc
    rw [next_register r addr now hnone]
    by_cases hcn : c = r.next
    · exact hcn ▸ Nat.lt_succ_self _
    · rw [Function.update_of_ne hcn] at hc
      exact Nat.lt_succ_of_lt (h.made hc)
  · intro c b t hl
    rw [heap_register r addr now hnone] at hl
    split at hl
    · cases hl
    · obtain ⟨g, a, hc, ha, hb⟩ := h.receiver hl
      exact ⟨g, a, hold hc, ha, hb⟩
  · intro c b hs
    rw [heap_register r addr now hnone] at hs
    split at hs
    · cases hs
    · obtain ⟨g, a, hc, ha, hb⟩ := h.sender hs
      exact ⟨g, a, hold hc, ha, hb⟩

theorem groups_delete {addr : SocketAddr} {g : Nat} {a : SocketAddr}
    (h : (r.delete addr).groups.lookup g = some a) :
    r.groups.lookup g = some a := by
  rw [Registry.delete] at h
  cases hat : r.clientAt addr with
  | none => rw [hat] at h; exact h
  | some c =>
      rw [hat] at h
      exact (Table.lookup_filter_eq_some.mp h).1

theorem senderAddr_delete (r : Registry S) (addr : SocketAddr)
    (c : ClientRef) :
    ((r.delete addr).heap c).senderAddr = (r.heap c).senderAddr := by
  rw [Registry.delete]
  cases r.clientAt addr with
  | none => rfl
  | some d =>
      simp only [pruneReceivers, modifyClient_heap]
      split
      · next hc => rw [hc]; simp
      · rfl

theorem Grouped.delete (h : Grouped ann home r) (addr : SocketAddr) :
    Grouped ann home (r.delete addr) where
  groups hg := h.groups (groups_delete hg)
  stored ha := h.stored (stored_of_delete ha).2
  made hc := (next_delete r addr).symm ▸ h.made hc
  receiver hl := h.receiver (receivers_delete hl)
  sender hs := h.sender (senderAddr_delete r addr _ ▸ hs)

theorem Grouped.setGroup (h : Grouped ann home r) {g : Nat}
    {addr : SocketAddr} (hann : ann g addr) (isSender : Bool) :
    Grouped ann home (r.setGroup g addr isSender) := by
  refine ⟨?_, h.stored, h.made, h.receiver, h.sender⟩
  intro g' a hg
  change (r.groups.insertOrGetSender g addr isSender).2.lookup g' = some a at hg
  rw [GroupsStorage.lookup_insertOrGetSender] at hg
  split at hg
  · next hgg =>
      subst hgg
      split at hg
      · cases hg
        exact hann
      · cases hold : r.groups.lookup g' with
        | none => rw [hold] at hg; cases hg; exact hann
        | some b => rw [hold] at hg; cases hg; exact h.groups hold
  · exact h.groups hg

theorem Grouped.lastSender (h : Grouped ann home r) {g : Nat}
    {addr : SocketAddr} (hann : ann g addr) : ann g (r.lastSender g addr) := by
  rw [Registry.lastSender]
  cases hg : r.groups.lookup g with
  | none => exact hann
  | some a => exact h.groups hg

theorem Grouped.join (h : Grouped ann home r) {g : Nat}
    {addr last : SocketAddr} {x s : ClientRef} (hx : r.clientAt addr = some x)
    (hs : r.clientAt last = some s) (hann : ann g addr) (hlast : ann g last) :
    Grouped ann home (r.join x s addr last) := by
  refine ⟨h.groups, h.stored, h.made, ?_, ?_⟩
  · intro c b t hl
    rw [heap_join] at hl
    split at hl
    · next hc =>
        subst hc
        rw [Table.lookup_insert'] at hl
        split at hl
        · next hb =>
            -- the new link, from the sender of the group
            subst hb
            exact ⟨g, last, h.stored hs, hlast, hann⟩
        · exact h.receiver hl
    · exact h.receiver hl
  · intro c b hsend
    rw [heap_join] at hsend
    simp only [] at hsend
    split at hsend
    · next hc =>
        subst hc
        cases hsend
        exact ⟨g, addr, h.stored hx, hann, hlast⟩
    · exact h.sender hsend

/-- An announcement that is no takeover. -/
theorem Grouped.groupId (h : Grouped ann home r) {g : Nat}
    {addr : SocketAddr} {isSender : Bool} (hann : ann g addr)
    (hnot : ¬ ClientActor.TakesOver r g addr isSender) :
    Grouped ann home (r.groupId g addr isSender) := by
  have hset := h.setGroup hann isSender
  rcases groupId_cases r g addr isSender with
    ⟨heq, -⟩ | ⟨x, s, hx, hs, ⟨hne, hsender⟩, -⟩ | ⟨x, s, hx, hs, -, heq⟩
  · rw [heq]
    exact hset
  · refine absurd ⟨hsender, ?_⟩ hnot
    rw [Registry.lastSender] at hne hs
    cases hg : r.groups.lookup g with
    | none => rw [hg] at hne; exact absurd rfl hne
    | some last =>
        rw [hg, Option.getD_some] at hne hs
        exact ⟨last, rfl, hne, by rw [hx]; rfl, by rw [hs]; rfl⟩
  · rw [heq]
    exact hset.join hx hs hann (h.lastSender hann)

end Registry

namespace UdpRecv

theorem handleStun_fst (s : UdpRecv) (req : StunBindingRequest)
    (addr : SocketAddr) : (s.handleStun req addr).1 = s := by
  rw [handleStun]
  split <;> rfl

/-- A binding request leads to nothing without its session. -/
theorem mem_handleStun {s : UdpRecv} {req : StunBindingRequest}
    {addr : SocketAddr} {eff : StunEffect}
    (h : eff ∈ (s.handleStun req addr).2) :
    ∃ item, s.sessions.lookup req.session = some item ∧
      ((∃ media, eff = .mediaAddr addr media) ∨ eff = .respond req addr ∨
        eff = .groupId item.groupId addr item.isSender) := by
  rw [handleStun] at h
  split at h
  · cases h
  · next item hat =>
      refine ⟨item, hat, ?_⟩
      rcases List.mem_append.mp h with h | h
      · obtain ⟨media, -, rfl⟩ := Option.map_eq_some_iff.mp
          (Option.mem_toList.mp h)
        exact .inl ⟨media, rfl⟩
      · rcases List.mem_cons.mp h with rfl | h
        · exact .inr (.inl rfl)
        · exact .inr (.inr (List.mem_singleton.mp h))

end UdpRecv

/-! ## What happened before -/

namespace Server

variable {S M : Type}

/-- A binding request came from `addr`. -/
def Asked (past : List (ServerEvent S)) (req : StunBindingRequest)
    (addr : SocketAddr) : Prop :=
  ∃ buf, .datagram buf addr ∈ past ∧
    WebRtcRequest.fromDatagram buf addr = .ok (.stun req addr)

/-- A DTLS datagram came from `addr`. -/
def Greeted (past : List (ServerEvent S)) (addr : SocketAddr) : Prop :=
  ∃ buf, .datagram buf addr ∈ past ∧
    WebRtcRequest.fromDatagram buf addr = .ok (.dtls buf addr)

/-- An offer for group `g` has the user of the session among its names. -/
def Offered (host : Host S M) (past : List (ServerEvent S)) (g : Nat)
    (session : Session) : Prop :=
  session.serverUser = host.data.user ∧ ∃ sdp world req,
    .offer sdp g world ∈ past ∧ host.sdp.parseSdp sdp true = .ok req ∧
      session.clientUser ∈ clientUsers host.sdp req

/-- A binding request from `addr` named a session offered for group `g`. -/
def Announced (host : Host S M) (past : List (ServerEvent S)) (g : Nat)
    (addr : SocketAddr) : Prop :=
  ∃ req, Asked past req addr ∧ Offered host past g req.session

/-- At some event of the run `RtcActor` handles the packet `p` from `a`, and makes
`packet` for `b` of it. -/
def Relayed (host : Host S M) (es : List (ServerEvent S)) (a : SocketAddr)
    (p : DataPacket) (b : SocketAddr) (packet : DataPacket) : Prop :=
  ∃ pre i now sched post, es = pre ++ .rtc i now sched :: post ∧
    (after host pre).toRtc[i]? = some (a, p) ∧
    ∃ e ∈ (RtcActor.handle host.srtp (after host pre).clients.registry now sched
        p a).sent, e.addr = b ∧ e.packet = packet

/-- What has to have happened in a run for a message to be given to `UdpSend`. -/
def Justified (host : Host S M) (es : List (ServerEvent S)) :
    WebRtcRequest → Prop
  | .stun req addr => Asked es req addr ∧ ∃ g, Offered host es g req.session
  | .dtls message addr =>
      Greeted es addr ∧
        ∃ c, (after host es).streams c = some addr ∧ .sslWrite c message ∈ es
  | .rtc message addr => ∃ g a p, (a, p) ∈ es.flatMap received ∧
      Relayed host es a p addr message ∧ Announced host es g a ∧
      Announced host es g addr
  | .unknown => False

/-- What has to have happened before for a message to be sent to `ClientActor`. -/
def Mailed (host : Host S M) (past : List (ServerEvent S))
    (streams : ClientRef → Option SocketAddr) : ClientMessage → Prop
  | .dtls _ addr => Greeted past addr
  | .groupId g addr _ => Announced host past g addr
  | .mediaAddr _ _ => True
  | .outgoing message addr =>
      ∃ c, streams c = some addr ∧ .sslWrite c message ∈ past

section Mono

variable {host : Host S M} {past past' : List (ServerEvent S)}

theorem Asked.mono (hsub : past ⊆ past') {req : StunBindingRequest}
    {addr : SocketAddr} (h : Asked past req addr) : Asked past' req addr := by
  obtain ⟨buf, hmem, hreq⟩ := h
  exact ⟨buf, hsub hmem, hreq⟩

theorem Greeted.mono (hsub : past ⊆ past') {addr : SocketAddr}
    (h : Greeted past addr) : Greeted past' addr := by
  obtain ⟨buf, hmem, hreq⟩ := h
  exact ⟨buf, hsub hmem, hreq⟩

theorem Offered.mono (hsub : past ⊆ past') {g : Nat} {session : Session}
    (h : Offered host past g session) : Offered host past' g session := by
  obtain ⟨huser, sdp, world, req, hmem, hreq, hname⟩ := h
  exact ⟨huser, sdp, world, req, hsub hmem, hreq, hname⟩

theorem Announced.mono (hsub : past ⊆ past') {g : Nat} {addr : SocketAddr}
    (h : Announced host past g addr) : Announced host past' g addr := by
  obtain ⟨req, hasked, hoffered⟩ := h
  exact ⟨req, hasked.mono hsub, hoffered.mono hsub⟩

theorem received_mono (hsub : past ⊆ past') {x : SocketAddr × DataPacket}
    (h : x ∈ past.flatMap received) : x ∈ past'.flatMap received := by
  obtain ⟨e, he, hx⟩ := List.mem_flatMap.mp h
  exact List.mem_flatMap.mpr ⟨e, hsub he, hx⟩

theorem Mailed.mono (hsub : past ⊆ past')
    {streams streams' : ClientRef → Option SocketAddr}
    (hstreams : ∀ c a, streams c = some a → streams' c = some a)
    {m : ClientMessage} (h : Mailed host past streams m) :
    Mailed host past' streams' m := by
  cases m with
  | dtls message addr => exact Greeted.mono hsub h
  | groupId g addr isSender => exact Announced.mono hsub h
  | mediaAddr addr media => trivial
  | outgoing message addr =>
      obtain ⟨c, hc, hmem⟩ := h
      exact ⟨c, hstreams c addr hc, hsub hmem⟩

end Mono

/-- The invariant: everything in the server goes back to what happened
before. -/
structure Accounted (host : Host S M) (past : List (ServerEvent S))
    (s : Server S) : Prop where
  wf : s.clients.registry.WF
  grouped : s.clients.registry.Grouped (Announced host past) s.streams
  sessions : ∀ {k item}, s.recv.sessions.lookup k = some item →
    Offered host past item.groupId k
  registering : ∀ {k item}, .session k item ∈ s.toRecv →
    Offered host past item.groupId k
  mailed : ∀ {m}, m ∈ s.toClients → Mailed host past s.streams m
  greeted : ∀ {c addr}, s.streams c = some addr → Greeted past addr
  writing : ∀ {c message}, message ∈ (s.channels c).outgoing →
    .sslWrite c message ∈ past
  media : ∀ {x}, x ∈ s.media → x ∈ past.flatMap received

theorem accounted_init (host : Host S M) :
    Accounted host [] (init : Server S) where
  wf := Registry.wf_init
  grouped := Registry.grouped_init
  sessions h := by cases h
  registering h := by cases h
  mailed h := by cases h
  greeted h := by cases h
  writing h := by cases h
  media h := by cases h

section Accounted

variable {host : Host S M} {past past' : List (ServerEvent S)} {s : Server S}

theorem Accounted.mono (h : Accounted host past s) (hsub : past ⊆ past') :
    Accounted host past' s where
  wf := h.wf
  grouped := h.grouped.mono fun _ _ => Announced.mono hsub
  sessions hk := (h.sessions hk).mono hsub
  registering hk := (h.registering hk).mono hsub
  mailed hm := (h.mailed hm).mono hsub fun _ _ hc => hc
  greeted hc := (h.greeted hc).mono hsub
  writing hm := hsub (h.writing hm)
  media hx := received_mono hsub (h.media hx)

/-! ### `UdpRecv` -/

theorem offered_of_registration {sdp : String} {g : Nat} {world : OfferWorld}
    (hmem : .offer sdp g world ∈ past) {reg : Registration}
    (hreg : reg ∈ (generateStreamerResponse host.sdp sdp (some host.data) g
      host.sdpAddr world).registrations) :
    reg.item.groupId = g ∧ Offered host past g reg.session := by
  rw [generateStreamerResponse] at hreg
  split at hreg
  · cases hreg
  · next req hreq =>
      simp only [] at hreg
      split at hreg
      · cases hreg
      · simp only [registrations, List.mem_mapIdx] at hreg
        obtain ⟨i, hi, rfl⟩ := hreg
        exact ⟨rfl, rfl, sdp, world, req, hmem, hreq, List.getElem_mem hi⟩

theorem Accounted.offer (h : Accounted host past s) {sdp : String} {g : Nat}
    {world : OfferWorld} (hmem : .offer sdp g world ∈ past) :
    Accounted host past (s.act host (.offer sdp g world)) := by
  refine { h with registering := ?_ }
  intro k item hk
  rcases List.mem_append.mp hk with hold | hnew
  · exact h.registering hold
  · obtain ⟨reg, hreg, hm⟩ := List.mem_flatMap.mp hnew
    obtain ⟨hg, hoffered⟩ := offered_of_registration hmem hreg
    rcases List.mem_cons.mp hm with heq | hm
    · cases heq
      exact hg ▸ hoffered
    · cases List.mem_singleton.mp hm

theorem Accounted.handleRecv (h : Accounted host past s) {m : RecvMessage}
    (hm : ∀ k item, m = .session k item → Offered host past item.groupId k) :
    Accounted host past (s.handleRecv m) := by
  cases m with
  | mediaUser userName media => exact { h with }
  | session session item =>
      refine { h with sessions := ?_ }
      intro k item' hk
      change AList.lookup k (s.recv.sessions.insert session item) = some item'
        at hk
      rw [Table.lookup_insert'] at hk
      split at hk
      · next heq => cases hk; subst heq; exact hm _ _ rfl
      · exact h.sessions hk

theorem Accounted.clearData (h : Accounted host past s) (now : SystemTime) :
    Accounted host past (s.act host (.clearData now)) := by
  refine { h with sessions := ?_ }
  intro k item hk
  change (s.recv.clearData now).sessions.lookup k = some item at hk
  rw [UdpRecv.sessions_clearData, Option.filter_eq_some_iff] at hk
  exact h.sessions hk.1

theorem Accounted.stun (h : Accounted host past s) {req : StunBindingRequest}
    {addr : SocketAddr} (hasked : Asked past req addr) :
    Accounted host past (s.handleRequest (.stun req addr)) := by
  refine { h with sessions := ?_, mailed := ?_ }
  · intro k item hk
    change (s.recv.handleStun req addr).1.sessions.lookup k = some item at hk
    rw [UdpRecv.handleStun_fst] at hk
    exact h.sessions hk
  · intro m hm
    rcases List.mem_append.mp hm with hm | hm
    · exact h.mailed hm
    · obtain ⟨eff, heff, hm⟩ := List.mem_filterMap.mp hm
      obtain ⟨item, hat, ⟨media, rfl⟩ | rfl | rfl⟩ :=
        UdpRecv.mem_handleStun heff
      · cases hm
        trivial
      · cases hm
      · cases hm
        exact ⟨req, hasked, h.sessions hat⟩

theorem Accounted.datagram (h : Accounted host past s) {buf : DataPacket}
    {addr : SocketAddr} (hmem : .datagram buf addr ∈ past) :
    Accounted host past (s.act host (.datagram buf addr)) := by
  rw [act]
  split
  · exact { h with }
  · next req hreq =>
      rcases WebRtcRequest.fromDatagram_cases hreq with
        rfl | ⟨r, rfl, -⟩ | rfl | rfl
      · refine { h with media := ?_ }
        intro x hx
        rcases List.mem_append.mp hx with hx | hx
        · exact h.media (List.mem_append_left _ hx)
        · have hsub := (JitterStage.subperm_held_step s.stage
            (.receive addr buf)).subset hx
          rcases List.mem_append.mp hsub with hx | hx
          · exact h.media (List.mem_append_right _ hx)
          · refine List.mem_flatMap.mpr ⟨_, hmem, ?_⟩
            rw [received, hreq]
            exact hx
      · exact h.stun ⟨buf, hmem, hreq⟩
      · refine { h with mailed := ?_ }
        intro m hm
        rcases List.mem_append.mp hm with hm | hm
        · exact h.mailed hm
        · rw [List.mem_singleton.mp hm]
          exact ⟨buf, hmem, hreq⟩
      · exact h

/-! ### `ClientActor` -/

/-- A change of the clients that keeps the links within groups. -/
theorem Accounted.of_clients (h : Accounted host past s) {clients : Tasks S}
    {messages : List DataPacket} {streams : ClientRef → Option SocketAddr}
    (hwf : clients.registry.WF)
    (hgrouped : clients.registry.Grouped (Announced host past) streams)
    (hold : ∀ c a, s.streams c = some a → streams c = some a)
    (hgreeted : ∀ {c a}, streams c = some a → Greeted past a) :
    Accounted host past { s with
      clients := clients, messages := messages, streams := streams } where
  wf := hwf
  grouped := hgrouped
  sessions := h.sessions
  registering := h.registering
  mailed hm := (h.mailed hm).mono (List.Subset.refl _) hold
  greeted := hgreeted
  writing := h.writing
  media := h.media

/-- A datagram of an address: its client is there, with its stream, or is made
and gets one. -/
theorem connectStream_cases (h : Accounted host past s) (addr : SocketAddr) :
    (∃ c, s.clients.registry.clientAt addr = some c ∧
      s.connectStream (s.clients.registry.clientFor addr) addr = s.streams) ∨
    (s.clients.registry.clientAt addr = none ∧
      s.connectStream (s.clients.registry.clientFor addr) addr =
        Function.update s.streams s.clients.registry.next (some addr)) := by
  rw [Registry.clientFor]
  cases hat : s.clients.registry.clientAt addr with
  | some c =>
      refine .inl ⟨c, rfl, ?_⟩
      rw [Option.getD_some, connectStream, h.grouped.stored hat]
  | none =>
      refine .inr ⟨rfl, ?_⟩
      rw [Option.getD_none, connectStream]
      cases hnext : s.streams s.clients.registry.next with
      | none => rfl
      | some a => exact absurd (h.grouped.made hnext) (Nat.lt_irrefl _)

theorem Accounted.dtls (h : Accounted host past s) {addr : SocketAddr}
    (hgreeted : Greeted past addr) (now : Instant)
    (draw : UInt32 → RuntimeDraw) (message : DataPacket) :
    Accounted host past (s.handleClient now draw (.dtls message addr)) := by
  have hreg : (s.clients.step (.datagram addr now)).registry =
      s.clients.registry.register addr now := ClientActor.handle_dtls ..
  rw [handleClient]
  rcases connectStream_cases h addr with ⟨c, hat, heq⟩ | ⟨hat, heq⟩
  · rw [Registry.register_of_stored hat] at hreg
    rw [heq]
    refine h.of_clients ?_ ?_ (fun _ _ hc => hc) h.greeted
    · rw [hreg]; exact h.wf
    · rw [hreg]; exact h.grouped
  · rw [heq]
    refine h.of_clients ?_ ?_ ?_ ?_
    · rw [hreg]; exact h.wf.register addr now
    · rw [hreg]; exact h.grouped.register hat now
    · intro c a hc
      exact (Function.update_of_ne (Nat.ne_of_lt (h.grouped.made hc)) _
        _).trans hc
    · intro c a hc
      rw [Function.update_apply] at hc
      split at hc
      · cases hc
        exact hgreeted
      · exact h.greeted hc

/-- A message that leaves the routes alone. -/
theorem Accounted.of_sameRoutes (h : Accounted host past s)
    {clients : Tasks S}
    (hr : s.clients.registry.SameRoutes clients.registry)
    (hg : clients.registry.groups = s.clients.registry.groups) :
    Accounted host past { s with clients := clients } :=
  h.of_clients (h.wf.of_sameRoutes hr) (h.grouped.of_sameRoutes hr hg)
    (fun _ _ hc => hc) h.greeted

theorem Accounted.groupId (h : Accounted host past s) {g : Nat}
    {addr : SocketAddr} (hann : Announced host past g addr) (now : Instant)
    (draw : UInt32 → RuntimeDraw) (isSender : Bool) :
    Accounted host past
      (s.handleClient now draw (.groupId g addr isSender)) := by
  rw [handleClient]
  split
  · exact { h with }
  · next hsome =>
      have hnot : ¬ ClientActor.TakesOver s.clients.registry g addr isSender :=
        (ClientActor.handle?_groupId ..).mp (by rw [hsome]; rfl)
      have hreg : (s.clients.step (.groupId g addr isSender)).registry =
          s.clients.registry.groupId g addr isSender :=
        ClientActor.handle_groupId ..
      refine h.of_clients ?_ ?_ (fun _ _ hc => hc) h.greeted
      · rw [hreg]; exact h.wf.groupId g addr isSender
      · rw [hreg]; exact h.grouped.groupId hann hnot

theorem Accounted.handleClient (h : Accounted host past s) (now : Instant)
    (draw : UInt32 → RuntimeDraw) {m : ClientMessage}
    (hm : Mailed host past s.streams m) :
    Accounted host past (s.handleClient now draw m) := by
  cases m with
  | dtls message addr => exact h.dtls hm now draw message
  | groupId g addr isSender => exact h.groupId hm now draw isSender
  | mediaAddr addr media =>
      have hreg : (s.clients.step (.mediaAddr addr media now draw)).registry =
          s.clients.registry.mediaAddr addr media now draw :=
        ClientActor.handle_mediaAddr ..
      refine h.of_sameRoutes ?_ ?_
      · rw [hreg]; exact Registry.sameRoutes_mediaAddr ..
      · rw [hreg]; exact Registry.groups_mediaAddr ..
  | outgoing message addr => exact { h with }

theorem Accounted.client (h : Accounted host past s) (i : Nat) (now : Instant)
    (draw : UInt32 → RuntimeDraw) :
    Accounted host past (s.act host (.client i now draw)) := by
  rw [act, deliver]
  split
  · exact h
  · next m hbox =>
      have hrest : Accounted host past
          { s with toClients := s.toClients.eraseIdx i } :=
        { h with mailed := fun hm => h.mailed (List.mem_of_mem_eraseIdx hm) }
      exact hrest.handleClient now draw
        (h.mailed (List.mem_of_getElem? hbox))

theorem Accounted.delete (h : Accounted host past s) :
    Accounted host past (s.act host .delete) := by
  rw [act, Tasks.step]
  split
  · exact h.of_sameRoutes (.refl _) rfl
  · next m rest _ =>
      have hreg : ClientActor.handle s.clients.registry (.delete m.addr) =
          s.clients.registry.delete m.addr := ClientActor.handle_delete ..
      refine h.of_clients ?_ ?_ (fun _ _ hc => hc) h.greeted
      · rw [hreg]; exact h.wf.delete m.addr
      · rw [hreg]; exact h.grouped.delete m.addr

theorem outgoing_pushed (s : Server S) (i : Nat) (x : Ready S)
    (c : ClientRef) :
    (s.pushed i x c).outgoing = (s.channels c).outgoing := by
  have hupdate : ∀ (d : ClientRef) (incoming : List DataPacket),
      (Function.update s.channels d { s.channels d with incoming := incoming }
        c).outgoing = (s.channels c).outgoing := by
    intro d incoming
    rw [Function.update_apply]
    split
    · next hc => rw [hc]
    · rfl
  have hshape : s.pushed i x = s.channels ∨ ∃ d incoming, s.pushed i x =
      Function.update s.channels d
        { s.channels d with incoming := incoming } := by
    unfold pushed
    split
    · split
      · exact .inr ⟨_, _, rfl⟩
      · exact .inl rfl
    · exact .inl rfl
  rcases hshape with heq | ⟨d, incoming, heq⟩
  · rw [heq]
  · rw [heq]
    exact hupdate d incoming

/-- A task that goes on connects its client at most. -/
theorem routes_resumed (s : Tasks S) (i : Nat) (t : Task)
    (res : Resumed S) :
    s.registry.SameRoutes (s.resumed i t res).registry ∧
      (s.resumed i t res).registry.groups = s.registry.groups := by
  cases hres : res.srtp with
  | none =>
      have hreg : (s.resumed i t res).registry = s.registry := by
        simp only [Tasks.resumed, hres]
      rw [hreg]
      exact ⟨.refl _, rfl⟩
  | some tr =>
      have hreg : (s.resumed i t res).registry =
          s.registry.connected t.client tr := by
        simp only [Tasks.resumed, hres, ClientActor.handle_connected]
      rw [hreg]
      exact ⟨Registry.sameRoutes_connected .., rfl⟩

theorem Accounted.poll (h : Accounted host past s) (i : Nat) (x : Ready S) :
    Accounted host past (s.act host (.poll i x)) := by
  have hclients : Accounted host past
      { s with clients := s.clients.step (.poll i x) } := by
    rw [Tasks.step]
    split
    · exact h.of_sameRoutes (.refl _) rfl
    · next t res _ =>
        have hreg := routes_resumed s.clients i t res
        exact h.of_sameRoutes hreg.1 hreg.2
  refine { hclients with writing := ?_ }
  intro c message hm
  exact h.writing (outgoing_pushed s i x c ▸ hm)

/-! ### `ClientSslPackets` -/

theorem Accounted.sslRead (h : Accounted host past s) (c : ClientRef) :
    Accounted host past (s.sslRead c) := by
  rw [Server.sslRead]
  split
  · refine { h with writing := ?_ }
    intro d message hm
    simp only [Function.update_apply] at hm
    split at hm
    · next hd => exact h.writing (hd ▸ hm)
    · exact h.writing hm
  · exact h

theorem Accounted.sslWrite (h : Accounted host past s) {c : ClientRef}
    {message : DataPacket} (hmem : .sslWrite c message ∈ past) :
    Accounted host past (s.sslWrite c message) := by
  rw [Server.sslWrite]
  split
  · refine { h with writing := ?_ }
    intro d message' hm
    simp only [Function.update_apply] at hm
    split at hm
    · next hd =>
        rcases List.mem_append.mp hm with hm | hm
        · exact h.writing (hd ▸ hm)
        · rw [hd, List.mem_singleton.mp hm]
          exact hmem
    · exact h.writing hm
  · exact h

theorem Accounted.outgoing (h : Accounted host past s) (c : ClientRef) :
    Accounted host past (s.outgoing c) := by
  rw [Server.outgoing]
  split
  · next addr message rest hstream hchannel =>
      have hwrote : ∀ {m}, m ∈ message :: rest → .sslWrite c m ∈ past :=
        fun hm => h.writing (hchannel ▸ hm)
      refine { h with mailed := ?_, writing := ?_ }
      · intro m hm
        rcases List.mem_append.mp hm with hm | hm
        · exact h.mailed hm
        · rw [List.mem_singleton.mp hm]
          exact ⟨c, hstream, hwrote (List.mem_cons_self ..)⟩
      · intro d m hm
        simp only [Function.update_apply] at hm
        split at hm
        · next hd => exact hd ▸ hwrote (List.mem_cons_of_mem _ hm)
        · exact h.writing hm
  · exact h

/-! ### Media -/

/-- A change of what is on its way to `RtcActor`, by losing some of it at
most. -/
theorem Accounted.of_media (h : Accounted host past s) {stage : JitterStage}
    {toJitter : List JitterMessage} {toRtc : List (SocketAddr × DataPacket)}
    (hsub : toRtc ++ stage.held ⊆ s.media) :
    Accounted host past { s with
      stage := stage, toJitter := toJitter, toRtc := toRtc } :=
  { h with media := fun hx => h.media (hsub hx) }

/-- Steps of the stage take nothing in but what is received. -/
theorem held_subset {e : StageEvent} (hin : JitterStage.arrival e = none) :
    s.stage.reaches e ++ (s.stage.step e).held ⊆ s.stage.held := by
  have hstep := (JitterStage.subperm_held_step s.stage e).subset
  rwa [hin, Option.toList_none, List.append_nil] at hstep

theorem Accounted.stage (h : Accounted host past s) {e : StageEvent}
    (hin : JitterStage.arrival e = none) (toJitter : List JitterMessage) :
    Accounted host past { s with
      stage := s.stage.step e, toJitter := toJitter } := by
  refine h.of_media ?_
  refine List.append_subset.mpr ⟨List.subset_append_left _ _, ?_⟩
  exact List.Subset.trans
    (List.Subset.trans (List.subset_append_right _ _) (held_subset hin))
    (List.subset_append_right _ _)

theorem Accounted.delay (h : Accounted host past s) (i : Nat) (now : Instant) :
    Accounted host past (s.act host (.delay i now)) := by
  rw [act, deliver]
  split
  · exact h
  · next m _ =>
      cases m with
      | increase addr => exact h.stage rfl _
      | decrease addr => exact h.stage rfl _
      | getOrStore addr data => exact { h with }

theorem Accounted.forward (h : Accounted host past s) (i : Nat) :
    Accounted host past (s.act host (.forward i)) := by
  refine h.of_media ?_
  rw [List.append_assoc]
  refine List.append_subset.mpr ⟨List.subset_append_left _ _, ?_⟩
  exact List.Subset.trans (held_subset rfl) (List.subset_append_right _ _)

theorem groups_handleRtc (lib : SrtpLib S) (r : Registry S) (now : Instant)
    (sched : List Receiver) (message : DataPacket) (addr : SocketAddr) :
    (RtcActor.handle lib r now sched message addr).registry.groups =
      r.groups := by
  rw [(RtcActor.handle_effects lib r now sched message addr).1.groups]
  cases RtcActor.rewritingOf lib r now message addr <;> rfl

theorem Accounted.rtc (h : Accounted host past s) (i : Nat) (now : Instant)
    (sched : List Receiver) :
    Accounted host past (s.act host (.rtc i now sched)) := by
  rw [act, deliver]
  split
  · exact h
  · next m _ =>
      have hrest : Accounted host past
          { s with toRtc := s.toRtc.eraseIdx i } := by
        refine h.of_media (List.append_subset.mpr ⟨?_,
          List.subset_append_right _ _⟩)
        exact List.Subset.trans (List.eraseIdx_sublist _ _).subset
          (List.subset_append_left _ _)
      have hclients : Accounted host past
          { s with
            toRtc := s.toRtc.eraseIdx i
            clients := { s.clients with
              registry := (RtcActor.handle host.srtp s.clients.registry now
                sched m.2 m.1).registry } } :=
        hrest.of_sameRoutes (RtcActor.handle_sameRoutes ..)
          (groups_handleRtc ..)
      exact { hclients with }

/-- A packet goes along the links of the client it is from. -/
theorem Accounted.announced_of_mem_sent (h : Accounted host past s)
    {now : Instant} {sched : List Receiver} {addr : SocketAddr}
    {message : DataPacket} {e : Emission}
    (he : e ∈ (RtcActor.handle host.srtp s.clients.registry now sched message
      addr).sent) :
    ∃ g, Announced host past g addr ∧ Announced host past g e.addr := by
  obtain ⟨c, hat, hroute⟩ := RtcActor.route_of_mem_sent h.wf he
  have hlink : ∃ g a, s.streams c = some a ∧ Announced host past g a ∧
      Announced host past g e.addr := by
    rcases hroute with hrecv | hsend
    · exact h.grouped.receiver hrecv
    · exact h.grouped.sender hsend
  obtain ⟨g, a, ha, hann, hann'⟩ := hlink
  rw [h.grouped.stored hat] at ha
  cases ha
  exact ⟨g, hann, hann'⟩

/-! ### Runs -/

theorem Accounted.recv (h : Accounted host past s) (i : Nat) :
    Accounted host past (s.act host (.recv i)) := by
  rw [act, deliver]
  split
  · exact h
  · next m hbox =>
      have hrest : Accounted host past
          { s with toRecv := s.toRecv.eraseIdx i } :=
        { h with registering := fun hm =>
            h.registering (List.mem_of_mem_eraseIdx hm) }
      refine hrest.handleRecv ?_
      rintro k item rfl
      exact h.registering (List.mem_of_getElem? hbox)

theorem Accounted.send (h : Accounted host past s) (i : Nat)
    (buf : Vector UInt8 1200) :
    Accounted host past (s.act host (.send i buf)) := by
  obtain ⟨health, toSend, heq⟩ := act_send host s i buf
  rw [heq]
  exact { h with }

theorem Accounted.act (h : Accounted host past s) {e : ServerEvent S}
    (hmem : e ∈ past) : Accounted host past (s.act host e) := by
  cases e with
  | offer sdp g world => exact h.offer hmem
  | recv i => exact h.recv i
  | datagram buf addr => exact h.datagram hmem
  | clearData now => exact h.clearData now
  | client i now draw => exact h.client i now draw
  | poll i x => exact h.poll i x
  | delete => exact h.delete
  | sslRead c => exact h.sslRead c
  | sslWrite c message => exact h.sslWrite hmem
  | outgoing c => exact h.outgoing c
  | jitter now => exact h.stage rfl _
  | delay i now => exact h.delay i now
  | forward i => exact h.forward i
  | giveUp i => exact h.stage rfl _
  | rtc i now sched => exact h.rtc i now sched
  | send i buf => exact h.send i buf

end Accounted

theorem accounted_step {host : Host S M} {past : List (ServerEvent S)}
    {s : Server S} (h : Accounted host past s) (e : ServerEvent S) :
    Accounted host (past ++ [e]) (s.step host e) := by
  have hpast := h.mono (List.subset_append_left past [e])
  rw [step]
  split
  · exact hpast.act (List.mem_append_right _ (List.mem_singleton_self e))
  · exact hpast

theorem accounted_after (host : Host S M) (es : List (ServerEvent S)) :
    Accounted host es (after host es) :=
  Machine.run_invariant_past (accounted_init host)
    (fun _ _ e h => accounted_step h e) es

/-! ## What is sent -/

/-- What `UdpSend` sends at an event was waiting for it. -/
theorem mem_toSend_of_sends {host : Host S M} {s : Server S}
    {e : ServerEvent S} {m : WebRtcRequest} {d : SocketAddr × DataPacket}
    (h : (m, d) ∈ s.sends host e) :
    m ∈ s.toSend ∧ ∃ buf, datagramOf host buf m = .ok (some d) := by
  rw [sends, whenAllowed] at h
  split at h
  · cases e with
    | send i buf =>
        rw [datagrams] at h
        split at h
        · next m' hbox =>
            split at h
            · next d' hd =>
                cases List.mem_singleton.mp h
                exact ⟨List.mem_of_getElem? hbox, buf, hd⟩
            · cases h
        · cases h
    | _ => cases h
  · cases h

/-- The three ways to give `UdpSend` something to send. -/
theorem queues_cases {host : Host S M} {s : Server S} {e : ServerEvent S}
    {m : WebRtcRequest} (h : m ∈ s.queues host e) :
    (∃ buf req addr item, e = .datagram buf addr ∧
      WebRtcRequest.fromDatagram buf addr = .ok (.stun req addr) ∧
      s.recv.sessions.lookup req.session = some item ∧ m = .stun req addr) ∨
    (∃ message addr, .outgoing message addr ∈ s.toClients ∧
      m = .dtls message addr) ∨
    (∃ i now sched a p out, e = .rtc i now sched ∧ s.toRtc[i]? = some (a, p) ∧
      out ∈ (RtcActor.handle host.srtp s.clients.registry now sched p a).sent ∧
      m = .rtc out.packet out.addr) := by
  cases e with
  | datagram buf a =>
      rw [queues] at h
      split at h
      · next req addr hreq =>
          have haddr : addr = a := by
            rcases WebRtcRequest.fromDatagram_cases hreq with
              heq | ⟨r, heq, -⟩ | heq | heq <;> cases heq
            rfl
          subst haddr
          obtain ⟨eff, heff, hm⟩ := List.mem_filterMap.mp h
          obtain ⟨item, hat, ⟨media, rfl⟩ | rfl | rfl⟩ :=
            UdpRecv.mem_handleStun heff
          · cases hm
          · cases hm
            exact .inl ⟨buf, req, addr, item, rfl, hreq, hat, rfl⟩
          · cases hm
      · cases h
  | client i now draw =>
      rw [queues] at h
      split at h
      · next message addr hbox =>
          exact .inr (.inl ⟨message, addr, List.mem_of_getElem? hbox,
            List.mem_singleton.mp h⟩)
      · cases h
  | rtc i now sched =>
      rw [queues] at h
      split at h
      · next x hbox =>
          obtain ⟨out, hout, rfl⟩ := List.mem_map.mp h
          exact .inr (.inr ⟨i, now, sched, x.1, x.2, out, rfl, hbox, hout, rfl⟩)
      · cases h
  | _ => cases h

/-- The relayed packet was received, and it stays in a group. -/
theorem announced_of_relayed {host : Host S M} {es : List (ServerEvent S)}
    {a b : SocketAddr} {p packet : DataPacket}
    (h : Relayed host es a p b packet) :
    (a, p) ∈ es.flatMap received ∧
      ∃ g, Announced host es g a ∧ Announced host es g b := by
  obtain ⟨pre, i, now, sched, post, rfl, hbox, e, he, rfl, rfl⟩ := h
  have hsub : pre ⊆ pre ++ .rtc i now sched :: post :=
    List.subset_append_left _ _
  have hacc := accounted_after host pre
  have hmedia : (a, p) ∈ (after host pre).media :=
    List.mem_append_left _ (List.mem_of_getElem? hbox)
  obtain ⟨g, ha, hb⟩ := hacc.announced_of_mem_sent he
  exact ⟨received_mono hsub (hacc.media hmedia), g, ha.mono hsub, hb.mono hsub⟩

theorem justified_of_mem_toSend {host : Host S M} {es : List (ServerEvent S)}
    {m : WebRtcRequest} (h : m ∈ (after host es).toSend) :
    Justified host es m := by
  obtain ⟨pre, e, post, rfl, hm⟩ := queues_of_mem_toSend h
  have hsub : pre ⊆ pre ++ e :: post := List.subset_append_left _ _
  have hacc := accounted_after host pre
  rcases queues_cases hm with
    ⟨buf, req, addr, item, rfl, hreq, hat, rfl⟩ | ⟨message, addr, hbox, rfl⟩ |
    ⟨i, now, sched, a, p, out, rfl, hbox, hout, rfl⟩
  · have hmem : .datagram buf addr ∈ pre ++ .datagram buf addr :: post :=
      List.mem_append_right _ (List.mem_cons_self ..)
    exact ⟨⟨buf, hmem, hreq⟩, item.groupId, (hacc.sessions hat).mono hsub⟩
  · obtain ⟨c, hc, hwrote⟩ := hacc.mailed hbox
    exact ⟨(hacc.greeted hc).mono hsub, c, streams_after host pre hc _,
      hsub hwrote⟩
  · have hrelayed : Relayed host (pre ++ .rtc i now sched :: post) a p
        out.addr out.packet :=
      ⟨pre, i, now, sched, post, rfl, hbox, out, hout, rfl, rfl⟩
    obtain ⟨hreceived, g, ha, hb⟩ := announced_of_relayed hrelayed
    exact ⟨g, a, p, hreceived, hrelayed, ha, hb⟩

/-! ## Media -/

/-- In every run: a media datagram the server sends to `b` was made by `RtcActor`
of a media datagram the server received from some `a`, and `a` and `b` have
announced themselves in one and the same group, each by a binding request of its
own that names a session from an offer for that group. -/
theorem media_confined_to_groups (host : Host S M)
    (es : List (ServerEvent S)) (e : ServerEvent S) (message : DataPacket)
    (addr b : SocketAddr) (packet : DataPacket)
    (h : (.rtc message addr, b, packet) ∈ sends host (after host es) e) :
    ∃ g a p, (a, p) ∈ es.flatMap received ∧ Relayed host es a p b packet ∧
      Announced host es g a ∧ Announced host es g b := by
  obtain ⟨hmem, buf, hd⟩ := mem_toSend_of_sends h
  cases hd
  exact justified_of_mem_toSend hmem

/-- A server under the null cipher that signs with zeros. -/
def plainHost : Host Unit PlainMedia where
  srtp := SrtpLib.null
  sdp := namedLib "abcd"
  stun := StunLib.signing (fun _ _ => Vector.replicate 20 0) fun _ => 0
  data := ⟨"server", "password", []⟩
  sdpAddr := .host 9

/-- The check of the client of an offer with the name `abcd`. -/
def plainCheck : DataPacket :=
  (CheckRequest.plain (Stun.utf8 "server:abcd") (by decide +kernel)).bytes

/-- The first datagram of a handshake, as far as the server looks at it. -/
def clientHello : DataPacket := [22, 254, 253]

/-- The task of a client from the datagram that made it to the end of its
handshake. -/
def shaken (i : Nat) : List (ServerEvent Unit) :=
  [.poll i .writer, .poll i .state, .poll i (.entered .ready),
    .poll i (.accepted (.ok ⟨(), ()⟩))]

/-- A client at `addr`: its handshake and its announcement. -/
def joined (i : Nat) (addr : SocketAddr) : List (ServerEvent Unit) :=
  [.datagram clientHello addr, .client 0 0 fun _ => .least] ++ shaken i ++
    [.datagram plainCheck addr, .client 0 0 fun _ => .least,
      .client 0 0 fun _ => .least]

/-- Two clients of an offer for group 1, and two packets from the first. -/
def groupRun (first second : DataPacket) : List (ServerEvent Unit) :=
  [.offer (namedText "abcd") 1 ⟨fun _ => 0, 7, fun _ => 0⟩, .recv 0, .recv 0] ++
    joined 0 (.host 1) ++ joined 1 (.host 2) ++
    [.datagram first (.host 1), .jitter 0, .datagram second (.host 1),
      .jitter (1000 * 1000000), .forward 1, .rtc 0 0 []]

def oneGroup : List (ServerEvent Unit) :=
  groupRun (videoPacket 7) (videoPacket 8)

/-- The first of them as it goes out, with the counters of the server. -/
def sentPacket : DataPacket :=
  [128, 96, 0, 1, 0, 0, 0, 1, 0, 0, 0, 1, 42] ++ nullTag

theorem media_to_second_client :
    ∃ g a p, (a, p) ∈ oneGroup.flatMap received ∧
      Relayed plainHost oneGroup a p (.host 2) sentPacket ∧
      Announced plainHost oneGroup g a ∧
      Announced plainHost oneGroup g (.host 2) :=
  media_confined_to_groups plainHost oneGroup (.send 2 (Vector.replicate 1200 0))
    sentPacket (.host 2) (.host 2) sentPacket (by decide +kernel)

end Server

end RStreamer
