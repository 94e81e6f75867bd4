import RStreamer.Proofs.SessionExpiry
import RStreamer.Sdp.Attributes
import RStreamer.Server.Meta

/-!
# One client, two readings of its name

The name of a client reaches `UdpRecv` twice. The offer is registered under it,
as what is left of a printed attribute when the attribute's own name is cut out;
and every binding request carries it, as the bytes behind a colon. The session
is found if both readings come to the same string.

They do for every name of ICE characters, up to the length the STUN parser lets
through. `STUN_MAX_IDENTIFIER_LEN` is half of what ICE allows: a longer name is
registered, and no request is ever understood that carries it.
-/

namespace RStreamer

/-! ## The name in the offer -/

theorem replaceFrom_skip (pat new : List Char) :
    ∀ skipped rest : List Char,
      replaceFrom pat new skipped.length (skipped ++ rest) =
        replaceFrom pat new 0 rest := by
  intro skipped rest
  induction skipped with
  | nil => rfl
  | cons c skipped ih => exact ih

/-- A text that lacks a character of the pattern has no match. -/
theorem replaceFrom_of_notMem {pat new : List Char} {c : Char} (hc : c ∈ pat) :
    ∀ s : List Char, c ∉ s → replaceFrom pat new 0 s = s := by
  intro s
  induction s with
  | nil => intro _; rfl
  | cons d s ih =>
      intro hs
      have hno : ¬ pat.isPrefixOf (d :: s) = true := by
        rw [List.isPrefixOf_iff_prefix]
        exact fun hstart => hs (hstart.subset hc)
      rw [replaceFrom, if_neg hno, ih (fun h => hs (List.mem_cons_of_mem d h))]

theorem replaceFrom_append {pat : List Char} (hpat : pat ≠ [])
    (new s : List Char) :
    replaceFrom pat new 0 (pat ++ s) = new ++ replaceFrom pat new 0 s := by
  cases pat with
  | nil => exact absurd rfl hpat
  | cons c pat =>
      have hstart : (c :: pat).isPrefixOf (c :: (pat ++ s)) = true := by
        rw [List.isPrefixOf_iff_prefix]
        exact List.prefix_append (c :: pat) s
      rw [List.cons_append, replaceFrom, if_pos hstart, List.length_cons,
        Nat.add_sub_cancel, replaceFrom_skip]

theorem strReplace_iceUfrag {u : String} (hu : IceChars u) :
    strReplace ("ice-ufrag:" ++ u) "ice-ufrag:" "" = u := by
  have hcolon : ':' ∉ u.toList := by
    intro hmem
    exact absurd (hu ':' hmem) (by decide)
  rw [strReplace, String.toList_append, replaceFrom_append (by decide),
    replaceFrom_of_notMem (c := ':') (by decide) u.toList hcolon]
  exact String.ofList_toList

section Offer

variable {M : Type} {lib : SdpLib M}

/-- A section of an accepted offer is registered under its `ice-ufrag`. -/
theorem exists_registration
    (hdisplay : ∀ u, lib.display (.iceUfrag u) = "ice-ufrag:" ++ u)
    {sdp : String} {server : ServerData} {groupId : Nat} {sdpAddr : SocketAddr}
    {world : OfferWorld} {req : SdpSession M}
    (hreq : lib.parseSdp sdp true = .ok req) (hsession : req.session.isSome)
    {m : M} (hm : m ∈ req.media) {u : String} (hu : IceChars u)
    (hufrag : lib.getAttribute m .iceUfrag = some (.iceUfrag u)) :
    ∃ g ∈ (generateStreamerResponse lib sdp (some server) groupId sdpAddr
      world).registrations, g.session = ⟨server.user, u⟩ := by
  obtain ⟨session, hsome⟩ := Option.isSome_iff_exists.mp hsession
  have hregs : (generateStreamerResponse lib sdp (some server) groupId sdpAddr
      world).registrations = registrations lib req server groupId world.now := by
    simp only [generateStreamerResponse, hreq, hsome]
  have hname : u ∈ clientUsers lib req := by
    rw [clientUsers, List.mem_map]
    refine ⟨.iceUfrag u, List.mem_filterMap.mpr ⟨m, hm, hufrag⟩, ?_⟩
    rw [hdisplay, strReplace_iceUfrag hu]
  obtain ⟨i, hi, hiu⟩ := List.mem_iff_getElem.mp hname
  rw [hregs, registrations]
  refine ⟨_, List.mem_mapIdx.mpr ⟨i, hi, rfl⟩, ?_⟩
  rw [hiu]

theorem groupId_registrations {sdp : String} {recv : Option ServerData}
    {groupId : Nat} {sdpAddr : SocketAddr} {world : OfferWorld}
    {g : Registration} (hg : g ∈ (generateStreamerResponse lib sdp recv groupId
      sdpAddr world).registrations) : g.item.groupId = groupId := by
  obtain ⟨req, server, -, hmem⟩ := exists_of_mem_registrations hg
  rw [registrations, List.mem_mapIdx] at hmem
  obtain ⟨i, hi, rfl⟩ := hmem
  rfl

end Offer

/-! ## The name in a request -/

/-- A connectivity check as an ICE agent sends it: it ends with a message
integrity and a fingerprint, and has one user attribute before them. -/
structure CheckRequest where
  transactionId : TransactionId
  before : List Stun.Attribute
  user : Stun.Attribute
  after : List Stun.Attribute
  integrity : Stun.Attribute
  fingerprint : Stun.Attribute
  before_type : ∀ a ∈ before, a.type ≠ Stun.USER
  user_type : user.type = Stun.USER
  integrity_type : integrity.type = Stun.MESSAGE_INTEGRITY
  integrity_len : integrity.value.length = 20
  fingerprint_type : fingerprint.type = Stun.FINGERPRINT
  fingerprint_len : fingerprint.value.length = 4
  short : (Stun.encodeAttributes (before ++ user ::
    (after ++ [integrity, fingerprint]))).length < 65536

namespace CheckRequest

def bytes (c : CheckRequest) : DataPacket :=
  Stun.encodeRequest c.transactionId (c.before ++ c.user ::
    (c.after ++ [c.integrity, c.fingerprint]))

/-- The two names a check carries. -/
def Names (c : CheckRequest) (serverUser clientUser : String) : Prop :=
  c.user.value = Stun.utf8 (serverUser ++ ":" ++ clientUser)

theorem parse_bytes (c : CheckRequest) :
    Stun.parseStunBindingRequest c.bytes =
      Stun.parseUser c.transactionId c.user.value := by
  have hparse := Stun.parse_encodeRequest c.transactionId c.before_type
    c.user_type c.short []
  rw [List.append_nil] at hparse
  rw [bytes, hparse, if_pos (Stun.room_integrity c.integrity_len _ _)]

theorem not_hasRtpHeader (c : CheckRequest) : ¬ HasRtpHeader c.bytes := by
  rintro ⟨-, hversion⟩
  have hzero : c.bytes.getD 0 0 = 0 := rfl
  rw [hzero] at hversion
  revert hversion
  decide

/-- What the receive loop makes of a check is up to the user attribute. -/
theorem fromDatagram_bytes (c : CheckRequest) (addr : SocketAddr)
    {res : Option StunBindingRequest}
    (hparse : Stun.parseUser c.transactionId c.user.value = .ok res) :
    WebRtcRequest.fromDatagram c.bytes addr =
      .ok ((res.map fun req => .stun req addr).getD .unknown) := by
  have hdtls : isDtls c.bytes = .ok false := rfl
  rw [WebRtcRequest.fromDatagram, RtpHeader.isRtpHeader_eq, Bytes.ok_bind,
    decide_eq_false c.not_hasRtpHeader, if_neg Bool.false_ne_true, c.parse_bytes,
    hparse, Bytes.ok_bind]
  cases res with
  | some req => rfl
  | none =>
      simp only []
      rw [hdtls]
      rfl

/-- A check that carries two names of ICE characters is understood up to the
length the parser allows, and unknown beyond it. -/
theorem fromDatagram_of_names {c : CheckRequest} {serverUser u : String}
    (hnames : c.Names serverUser u) (hserver : IceChars serverUser)
    (hslen : serverUser.length ≤ STUN_MAX_IDENTIFIER_LEN) (hu : IceChars u)
    (addr : SocketAddr) :
    WebRtcRequest.fromDatagram c.bytes addr =
      .ok (if u.length ≤ STUN_MAX_IDENTIFIER_LEN then
        .stun ⟨c.transactionId, u, serverUser⟩ addr else .unknown) := by
  have hvalue := Stun.utf8_colon serverUser u
  rw [← hnames] at hvalue
  have hcolon := Stun.colon_notMem_utf8 hserver
  rw [← Stun.length_utf8 hserver] at hslen
  split
  · next hlen =>
      rw [← Stun.length_utf8 hu] at hlen
      exact c.fromDatagram_bytes addr
        (Stun.parseUser_eq_some.mpr ⟨rfl, hvalue, hcolon, hslen, hlen⟩)
  · next hlen =>
      refine @CheckRequest.fromDatagram_bytes c addr none ?_
      have hlong : (Stun.utf8 u).length > STUN_MAX_IDENTIFIER_LEN := by
        rw [Stun.length_utf8 hu]
        exact Nat.lt_of_not_le hlen
      rw [hvalue, Stun.parseUser_split _ hcolon, if_pos (by simp [hlong])]

end CheckRequest

/-! ## The session -/

namespace UdpRecv

theorem groupId_mem_handleStun {s : UdpRecv} {req : StunBindingRequest}
    {item : SessionStorageItem} (hs : s.sessions.lookup req.session = some item)
    {addr a : SocketAddr} {id : Nat} {isSender : Bool} :
    .groupId id a isSender ∈ (s.handleStun req addr).2 ↔
      id = item.groupId ∧ a = addr ∧ isSender = item.isSender := by
  rw [handleStun, hs]
  cases hmedia : s.mediaSessions.lookup req.remoteUser <;> simp

end UdpRecv

/-- A section with a name of ICE characters that the STUN parser lets through:
its offer is registered under that name, and as long as no later message for it
is handled and no tick finds the session too old, every connectivity check that
carries the two names is a STUN request, finds the session, and joins the client
to the group of the offer. -/
theorem client_name_found {M : Type} (lib : SdpLib M)
    (hdisplay : ∀ u, lib.display (.iceUfrag u) = "ice-ufrag:" ++ u)
    (userDraw : Vector (Fin 62) 12) (passwordDraw : Vector (Fin 62) 24)
    (digest : List UInt8) (server : ServerData)
    (hserver : server = (ServerMeta.new userDraw passwordDraw).data digest)
    (sdp : String) (groupId : Nat) (sdpAddr : SocketAddr) (world : OfferWorld)
    (req : SdpSession M) (hreq : lib.parseSdp sdp true = .ok req)
    (hsession : req.session.isSome) (m : M) (hm : m ∈ req.media) (u : String)
    (hu : IceChars u) (hlen : u.length ≤ 128)
    (hufrag : lib.getAttribute m .iceUfrag = some (.iceUfrag u)) :
    (∃ g ∈ (generateStreamerResponse lib sdp (some server) groupId sdpAddr
        world).registrations, g.session = ⟨server.user, u⟩) ∧
      ∀ g ∈ (generateStreamerResponse lib sdp (some server) groupId sdpAddr
        world).registrations, g.session = ⟨server.user, u⟩ →
      ∀ pre now post s,
        s = UdpRecv.after (pre ++ .session g.session g.item now :: post) →
        (∀ e ∈ post, UdpRecv.offerFor g.session e = none) →
        (∀ t, .clearData t ∈ post → g.item.expired t = false) →
        ∀ (c : CheckRequest) (addr : SocketAddr), c.Names server.user u →
          ∃ r, WebRtcRequest.fromDatagram c.bytes addr = .ok (.stun r addr) ∧
            s.sessions.lookup r.session = some g.item ∧
            ∀ id a isSender,
              .groupId id a isSender ∈ (s.handleStun r addr).2 ↔
                id = groupId ∧ a = addr ∧ isSender = g.item.isSender := by
  refine ⟨exists_registration hdisplay hreq hsession hm hu hufrag, ?_⟩
  intro g hg hname pre now post s hs hother hyoung c addr hnames
  have hchars : IceChars server.user := by
    rw [hserver]
    exact iceChars_randString _
  have hshort : server.user.length ≤ STUN_MAX_IDENTIFIER_LEN := by
    rw [hserver]
    show (randString _).length ≤ 128
    rw [length_randString, Vector.length_toList]
    decide
  have hfound : s.sessions.lookup (StunBindingRequest.session
      ⟨c.transactionId, u, server.user⟩) = some g.item := by
    show s.sessions.lookup ⟨server.user, u⟩ = _
    rw [hs, ← hname]
    exact UdpRecv.stored_after hother hyoung
  have hdatagram :=
    CheckRequest.fromDatagram_of_names hnames hchars hshort hu addr
  rw [if_pos (show u.length ≤ STUN_MAX_IDENTIFIER_LEN from hlen)] at hdatagram
  refine ⟨⟨c.transactionId, u, server.user⟩, hdatagram, hfound, ?_⟩
  intro id a isSender
  rw [UdpRecv.groupId_mem_handleStun hfound, groupId_registrations hg]

/-! ## Names of four and of 129 characters -/

theorem length_encode_plain {value : List UInt8} (hlen : value.length ≤ 512) :
    (Stun.encodeAttributes ([] ++ .zeroPadded Stun.USER value :: ([] ++
      [.zeroPadded Stun.MESSAGE_INTEGRITY (List.replicate 20 0),
        .zeroPadded Stun.FINGERPRINT (List.replicate 4 0)]))).length < 65536 := by
  have hpad : Stun.paddedLen value.length ≤ 516 := by
    rw [Stun.paddedLen, STUN_ALIGNMENT]
    omega
  have huser := (Stun.Attribute.zeroPadded Stun.USER value).length_encode
  simp only [List.nil_append, Stun.encodeAttributes_cons, List.length_append,
    huser]
  show 4 + Stun.paddedLen value.length + (24 + (8 + 0)) < 65536
  omega

/-- A check with nothing but what it needs. -/
def CheckRequest.plain (value : List UInt8) (hlen : value.length ≤ 512) :
    CheckRequest where
  transactionId := Vector.replicate 12 7
  before := []
  user := .zeroPadded Stun.USER value
  after := []
  integrity := .zeroPadded Stun.MESSAGE_INTEGRITY (List.replicate 20 0)
  fingerprint := .zeroPadded Stun.FINGERPRINT (List.replicate 4 0)
  before_type _ ha := absurd ha List.not_mem_nil
  user_type := rfl
  integrity_type := rfl
  integrity_len := rfl
  fingerprint_type := rfl
  fingerprint_len := rfl
  short := length_encode_plain hlen

/-- A name of `n` characters. -/
def nameOf (n : Nat) : String := String.ofList (List.replicate n 'a')

theorem iceChars_nameOf (n : Nat) : IceChars (nameOf n) := by
  intro c hc
  rw [nameOf, String.toList_ofList] at hc
  rw [List.eq_of_mem_replicate hc]
  decide

theorem length_nameOf (n : Nat) : (nameOf n).length = n := by
  rw [nameOf, String.length_ofList, List.length_replicate]

/-- A server that drew zeros. -/
def zeroServer : ServerData :=
  (ServerMeta.new (Vector.replicate 12 0) (Vector.replicate 24 0)).data []

def namedText (u : String) : String := clientText u "" ""

def namedLib (u : String) : SdpLib PlainMedia :=
  SdpLib.plain (namedText u) (clientOffer u [] [])

def answerNamed (u : String) : Response PlainMedia :=
  generateStreamerResponse (namedLib u) (namedText u) (some zeroServer) 1
    (.host 9) ⟨fun _ => 0, 7, fun _ => 0⟩

/-- The check of a client with a name of `n` characters. -/
def namedCheck (n : Nat) (hn : n ≤ 129) : CheckRequest :=
  .plain (Stun.utf8 (zeroServer.user ++ ":" ++ nameOf n)) (by
    have hserver : (Stun.utf8 zeroServer.user).length = 12 := by decide +kernel
    rw [Stun.utf8_colon, List.length_append, List.length_cons, hserver,
      Stun.length_utf8 (iceChars_nameOf n), length_nameOf]
    omega)

theorem short_name_found : ∃ g ∈ (answerNamed (nameOf 4)).registrations,
    ∃ r, WebRtcRequest.fromDatagram (namedCheck 4 (by decide)).bytes (.host 1) =
        .ok (.stun r (.host 1)) ∧
      (UdpRecv.after ([] ++ .session g.session g.item 0 ::
        [.clearData 1])).sessions.lookup r.session = some g.item := by
  have hlen : (nameOf 4).length ≤ 128 := by
    rw [length_nameOf]
    decide
  obtain ⟨⟨g, hg, hname⟩, hfound⟩ := client_name_found (namedLib (nameOf 4))
    (fun _ => rfl) (Vector.replicate 12 0) (Vector.replicate 24 0) [] zeroServer
    rfl (namedText (nameOf 4)) 1 (.host 9) ⟨fun _ => 0, 7, fun _ => 0⟩
    (clientOffer (nameOf 4) [] []) (SdpLib.parse_plain _ _) rfl
    (clientSection (nameOf 4) []) (List.mem_singleton_self _) (nameOf 4)
    (iceChars_nameOf 4) hlen rfl
  have hyoung : ∀ t, .clearData t ∈ [SessionEvent.clearData 1] →
      g.item.expired t = false := by
    intro t ht
    cases List.mem_singleton.mp ht
    exact SessionStorageItem.expired_eq_false_iff.mpr
      (Nat.le_trans (by decide) (Nat.le_add_left sessionTtl g.item.ttl))
  obtain ⟨r, hr, hlookup, -⟩ := hfound g hg hname [] 0 [.clearData 1] _ rfl
    (by simp [UdpRecv.offerFor]) hyoung (namedCheck 4 (by decide)) (.host 1) rfl
  exact ⟨g, hg, r, hr, hlookup⟩

/-- A client with a name of 129 characters, of the 256 that ICE allows, is
registered and stored, and its check is dropped. -/
theorem long_name_unknown :
    IceChars (nameOf 129) ∧ (nameOf 129).length = 129 ∧
    ∃ g ∈ (answerNamed (nameOf 129)).registrations,
      g.session = ⟨zeroServer.user, nameOf 129⟩ ∧
      (UdpRecv.after [.session g.session g.item 0]).sessions.lookup g.session =
        some g.item ∧
      (namedCheck 129 (by decide)).Names zeroServer.user (nameOf 129) ∧
      WebRtcRequest.fromDatagram (namedCheck 129 (by decide)).bytes (.host 1) =
        .ok .unknown := by
  refine ⟨iceChars_nameOf 129, length_nameOf 129, ?_⟩
  obtain ⟨g, hg, hname⟩ : ∃ g ∈ (answerNamed (nameOf 129)).registrations,
      g.session = ⟨zeroServer.user, nameOf 129⟩ :=
    exists_registration (fun _ => rfl) (SdpLib.parse_plain _ _) rfl
      (List.mem_singleton_self (clientSection _ [])) (iceChars_nameOf 129) rfl
  have hstored : (UdpRecv.after [.session g.session g.item 0]).sessions.lookup
      g.session = some g.item :=
    @UdpRecv.stored_after _ _ [] [] 0 (by simp) (by simp)
  have hnames : (namedCheck 129 (by decide)).Names zeroServer.user
      (nameOf 129) := rfl
  refine ⟨g, hg, hname, hstored, hnames, ?_⟩
  rw [CheckRequest.fromDatagram_of_names hnames (iceChars_randString _)
    (by decide +kernel) (iceChars_nameOf 129), if_neg]
  rw [length_nameOf]
  decide

end RStreamer
