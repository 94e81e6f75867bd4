import RStreamer.Sdp.Attributes

/-!
# Whose transport an answer describes

The sections of an answer are those of the offer, and what they say about the
transport has to be the server's: a client that reads its own address back would
check the connectivity to itself. Nearly every attribute that tells is replaced
by `set_attribute`, or taken out. The candidate is not: it is appended, behind
whatever candidates the offer came with.

So the answer is the server's own exactly if no section of the offer has a
candidate yet, which is how a browser that trickles its candidates offers, and
not how one does that has gathered them before.
-/

namespace RStreamer

open Edit (edit ofTag)

/-- An attribute of an answer that, if it tells who the other party is, names
the server. -/
def SdpAttribute.ServersOwn (server : ServerData) (addr : SocketAddr) :
    SdpAttribute → Prop
  | .candidate c => ∃ priority, c = hostCandidate addr priority
  | .iceUfrag ufrag => ufrag = server.user
  | .icePwd password => password = server.password
  | .fingerprint f => f = ⟨.sha256, server.digest⟩
  | .setup s => s = .passive
  | .rtcp r => r = ⟨addr.port, some (.ip addr.ip)⟩
  | .msid _ | .ssrc _ | .ssrcGroup _ => False
  | _ => True

def SdpAttributeType.isEdited (t : SdpAttributeType) : Bool :=
  t.isCodec || decide (t ∈ [.msid, .recvonly, .sendonly, .ssrcGroup, .ssrc,
    .icePwd, .iceUfrag, .fingerprint, .setup, .rtcp, .rtcpMux, .candidate,
    .endOfCandidates])

/-- The attributes an answer leaves as they are, such as the `mid` that tells a
section from the others. -/
def SdpAttribute.untouched (a : SdpAttribute) : Bool := !a.type.isEdited

/-- Section `m'` of an answer stands for section `m` of the offer, and describes
the server's transport only. -/
structure DescribesServer {M : Type} (lib : SdpLib M)
    (connection : M → Option SdpConnection) (server : ServerData)
    (addr : SocketAddr) (m m' : M) : Prop where
  untouched : (lib.getAttributes m').filter SdpAttribute.untouched =
    (lib.getAttributes m).filter SdpAttribute.untouched
  own : ∀ a ∈ lib.getAttributes m', a.ServersOwn server addr
  candidate : ∃ a,
    ofTag SdpAttribute.type .candidate (lib.getAttributes m') = [a]
  connection : connection m' = some ⟨.ip addr.ip, none, none⟩

/-- The kinds of attribute that are edited the same way in every section. -/
def SdpAttributeType.isFixed (t : SdpAttributeType) : Bool :=
  !t.isCodec && decide (t ∉ [.recvonly, .sendonly])

/-- The edits of an answered section other than those of its direction. -/
def fixedEdits (server : ServerData) (addr : SocketAddr) (priority : UInt32) :
    List AttributeEdit :=
  .remove .msid :: .remove .ssrcGroup :: .remove .ssrc ::
    serverEdits server addr priority

section Section

variable {M : Type} {lib : SdpLib M} {server : ServerData} {addr : SocketAddr}
  {priority : UInt32} {m m' : M}

theorem filter_answerEdits (l : List SdpAttribute) {t : SdpAttributeType}
    (ht : t.isFixed) :
    ((answerEdits server addr priority l).filter
        fun e => e.target SdpAttribute.type = t) =
      (fixedEdits server addr priority).filter
        fun e => e.target SdpAttribute.type = t := by
  have hturn : ((turnEdits l).filter
      fun e => e.target SdpAttribute.type = t) = [] := by
    obtain ⟨hrecv, hsend⟩ : t ≠ .recvonly ∧ t ≠ .sendonly := by
      simpa using (Bool.and_eq_true_iff.mp ht).2
    rw [turnEdits]
    split
    · split
      · rfl
      · simp [Edit.target, SdpAttribute.type, hrecv.symm, hsend.symm]
    · simp [Edit.target, SdpAttribute.type, hrecv.symm, hsend.symm]
  rw [answerEdits, uselessEdits, List.cons_append, List.cons_append,
    List.filter_cons, List.filter_append, List.filter_append, hturn,
    List.nil_append, ← List.filter_append, fixedEdits, List.filter_cons]
  rfl

/-- What an answered section has of one kind of attribute. -/
theorem ofTag_answerSection (h : lib.Documented)
    (hm : answerSection lib m server addr priority = .ok m')
    {t : SdpAttributeType} (ht : t.isFixed) :
    ofTag SdpAttribute.type t (lib.getAttributes m') =
      edit SdpAttribute.type (ofTag SdpAttribute.type t (lib.getAttributes m))
        ((fixedEdits server addr priority).filter
          fun e => e.target SdpAttribute.type = t) := by
  have hcodec : t.isCodec = false := by
    simpa using (Bool.and_eq_true_iff.mp ht).1
  rw [← SdpLib.ofTag_others m' hcodec, h.others_answerSection hm,
    Edit.ofTag_edit, filter_answerEdits _ ht, SdpLib.ofTag_others m hcodec]

theorem eq_of_set (h : lib.Documented)
    (hm : answerSection lib m server addr priority = .ok m')
    {a b : SdpAttribute} (hb : b.type.isFixed)
    (hset : ((fixedEdits server addr priority).filter
      fun e => e.target SdpAttribute.type = b.type) = [.set b])
    (ha : a ∈ lib.getAttributes m') (hab : a.type = b.type) : a = b := by
  have hmem : a ∈ ofTag SdpAttribute.type b.type (lib.getAttributes m') :=
    Edit.mem_ofTag.mpr ⟨ha, hab⟩
  rw [ofTag_answerSection h hm hb, hset, Edit.ofTag_set rfl] at hmem
  exact List.mem_singleton.mp hmem

theorem ne_of_remove (h : lib.Documented)
    (hm : answerSection lib m server addr priority = .ok m')
    {a : SdpAttribute} {t : SdpAttributeType} (ht : t.isFixed)
    (hremove : ((fixedEdits server addr priority).filter
      fun e => e.target SdpAttribute.type = t) = [.remove t])
    (ha : a ∈ lib.getAttributes m') : a.type ≠ t := by
  intro hat
  have hmem : a ∈ ofTag SdpAttribute.type t (lib.getAttributes m') :=
    Edit.mem_ofTag.mpr ⟨ha, hat⟩
  rw [ofTag_answerSection h hm ht, hremove, Edit.ofTag_remove] at hmem
  cases hmem

/-- The candidates of an answered section: those of the offer's, and the
server's behind them. -/
theorem candidates_answerSection (h : lib.Documented)
    (hm : answerSection lib m server addr priority = .ok m') :
    ofTag SdpAttribute.type .candidate (lib.getAttributes m') =
      ofTag SdpAttribute.type .candidate (lib.getAttributes m) ++
        [.candidate (hostCandidate addr priority)] := by
  rw [ofTag_answerSection h hm rfl]
  rfl

theorem serversOwn_answerSection (h : lib.Documented)
    (hm : answerSection lib m server addr priority = .ok m')
    (hgathered : ∀ c, .candidate c ∉ lib.getAttributes m)
    {a : SdpAttribute} (ha : a ∈ lib.getAttributes m') :
    a.ServersOwn server addr := by
  cases a with
  | candidate c =>
      have hmem : .candidate c ∈
          ofTag SdpAttribute.type .candidate (lib.getAttributes m') :=
        Edit.mem_ofTag.mpr ⟨ha, rfl⟩
      rw [candidates_answerSection h hm, List.mem_append, Edit.mem_ofTag,
        List.mem_singleton] at hmem
      rcases hmem with ⟨hold, -⟩ | hnew
      · exact absurd hold (hgathered c)
      · exact ⟨priority, SdpAttribute.candidate.inj hnew⟩
  | iceUfrag ufrag =>
      have heq := eq_of_set h hm (b := .iceUfrag server.user) rfl rfl
        ha rfl
      exact SdpAttribute.iceUfrag.inj heq
  | icePwd password =>
      have heq := eq_of_set h hm (b := .icePwd server.password) rfl
        rfl ha rfl
      exact SdpAttribute.icePwd.inj heq
  | fingerprint f =>
      have heq := eq_of_set h hm (b := .fingerprint ⟨.sha256, server.digest⟩)
        rfl rfl ha rfl
      exact SdpAttribute.fingerprint.inj heq
  | setup s =>
      have heq := eq_of_set h hm (b := .setup .passive) rfl rfl ha rfl
      exact SdpAttribute.setup.inj heq
  | rtcp r =>
      have heq := eq_of_set h hm (b := .rtcp ⟨addr.port, some (.ip addr.ip)⟩)
        rfl rfl ha rfl
      exact SdpAttribute.rtcp.inj heq
  | msid id => exact ne_of_remove h hm (t := .msid) rfl rfl ha rfl
  | ssrc value =>
      exact ne_of_remove h hm (t := .ssrc) rfl rfl ha rfl
  | ssrcGroup value =>
      exact ne_of_remove h hm (t := .ssrcGroup) rfl rfl ha rfl
  | endOfCandidates | group | iceLite | iceOptions | msidSemantic | recvonly
  | rtcpMux | rtpmap | sendonly | other => exact trivial

theorem isEdited_target {l : List SdpAttribute} {e : AttributeEdit}
    (he : e ∈ answerEdits server addr priority l) :
    (e.target SdpAttribute.type).isEdited := by
  have hall : (answerEdits server addr priority l).all
      fun e => (e.target SdpAttribute.type).isEdited := by
    rw [answerEdits, uselessEdits, turnEdits]
    split
    · split <;> rfl
    · rfl
  exact List.all_eq_true.mp hall e he

theorem filter_untouched_others (m : M) :
    (lib.others m).filter SdpAttribute.untouched =
      (lib.getAttributes m).filter SdpAttribute.untouched := by
  rw [SdpLib.others, List.filter_filter]
  refine List.filter_congr fun a _ => ?_
  rw [SdpAttribute.untouched, SdpAttributeType.isEdited, SdpAttribute.isCodec]
  cases a.type.isCodec with
  | true => rfl
  | false => rw [Bool.not_false, Bool.and_true]

theorem untouched_answerSection (h : lib.Documented)
    (hm : answerSection lib m server addr priority = .ok m') :
    (lib.getAttributes m').filter SdpAttribute.untouched =
      (lib.getAttributes m).filter SdpAttribute.untouched := by
  rw [← filter_untouched_others, h.others_answerSection hm, Edit.filter_edit,
    filter_untouched_others]
  intro e he a ha
  rw [SdpAttribute.untouched, ha, isEdited_target he, Bool.not_true]

/-- An answered section describes the server if the offer's has no candidate:
one that it has stays next to the server's. -/
theorem describesServer_iff (h : lib.Documented)
    {connection : M → Option SdpConnection}
    (hconn : ∀ m c, connection (lib.setConnection m c) = some c)
    (hm : answerSection lib m server addr priority = .ok m') :
    DescribesServer lib connection server addr m m' ↔
      ∀ c, .candidate c ∉ lib.getAttributes m := by
  constructor
  · intro hserver c hc
    obtain ⟨a, ha⟩ := hserver.candidate
    rw [candidates_answerSection h hm] at ha
    have hmem : .candidate c ∈
        ofTag SdpAttribute.type .candidate (lib.getAttributes m) :=
      Edit.mem_ofTag.mpr ⟨hc, rfl⟩
    obtain ⟨hold, -⟩ := List.append_eq_singleton_iff.mp ha |>.resolve_right
      (by simp)
    rw [hold] at hmem
    cases hmem
  · intro hgathered
    refine ⟨untouched_answerSection h hm,
      fun a => serversOwn_answerSection h hm hgathered,
      ⟨.candidate (hostCandidate addr priority), ?_⟩, ?_⟩
    · have hnone : ofTag SdpAttribute.type .candidate
          (lib.getAttributes m) = [] := by
        refine List.eq_nil_iff_forall_not_mem.mpr fun a ha => ?_
        obtain ⟨hmem, htype⟩ := Edit.mem_ofTag.mp ha
        cases a with
        | candidate c => exact hgathered c hmem
        | _ => cases htype
      rw [candidates_answerSection h hm, hnone, List.nil_append]
    · simp only [answerSection, bind_eq_ok] at hm
      obtain ⟨m₁, -, m₂, -, hm'⟩ := hm
      cases hm'
      exact hconn m₂ _

theorem forall₂_describesServer_iff (h : lib.Documented)
    {connection : M → Option SdpConnection}
    (hconn : ∀ m c, connection (lib.setConnection m c) = some c)
    {priority : Nat → UInt32} {i : Nat} {media answer : List M}
    (hmedia : answerMedia lib server addr priority i media = .ok answer) :
    List.Forall₂ (DescribesServer lib connection server addr) media answer ↔
      ∀ m ∈ media, ∀ c, .candidate c ∉ lib.getAttributes m := by
  refine forall₂_iff_forall_mem (forall₂_answerMedia hmedia) ?_
  rintro m m' ⟨p, hm⟩
  exact describesServer_iff h hconn hm

/-- An answer has the sections of the offer, in their order, and describes the
server's transport alone if and only if no section of the offer has a candidate
in it. -/
theorem answer_describes_server_iff (lib : SdpLib M) (h : lib.Documented)
    (connection : M → Option SdpConnection)
    (hconn : ∀ m c, connection (lib.setConnection m c) = some c)
    (sdp : String) (server : ServerData) (groupId : Nat) (sdpAddr : SocketAddr)
    (world : OfferWorld) (req answer : SdpSession M)
    (hreq : lib.parseSdp sdp true = .ok req)
    (hanswer : (generateStreamerResponse lib sdp (some server) groupId sdpAddr
      world).answer = .ok answer) :
    List.Forall₂ (DescribesServer lib connection server sdpAddr)
        req.media answer.media ↔
      ∀ m ∈ req.media, ∀ c, .candidate c ∉ lib.getAttributes m := by
  obtain ⟨server', hserver, hmedia⟩ := answer_eq_ok hreq hanswer
  cases hserver
  exact forall₂_describesServer_iff h hconn hmedia

end Section

/-! ## An offer before and after its candidates are gathered -/

def trickledOffer : SdpSession PlainMedia := clientOffer "abcd" [] []

def trickledText : String := clientText "abcd" "" ""

theorem trickled_offer_describes_server : ∃ answer,
    (answerClient trickledText trickledOffer).answer = .ok answer ∧
      List.Forall₂ (DescribesServer (SdpLib.plain trickledText trickledOffer)
        PlainMedia.connection ⟨"server", "password", []⟩ (.host 9))
          trickledOffer.media answer.media := by
  obtain ⟨answer, hanswer⟩ := exists_ok_of_isOk
    (x := (answerClient trickledText trickledOffer).answer) (by decide +kernel)
  refine ⟨answer, hanswer, ?_⟩
  refine (answer_describes_server_iff _ (SdpLib.documented_plain _ _)
    PlainMedia.connection (fun _ _ => rfl) trickledText _ 1 (.host 9) _
      trickledOffer answer (SdpLib.parse_plain _ _) hanswer).mpr ?_
  intro m hm c hc
  obtain rfl := List.mem_singleton.mp hm
  simp [SdpLib.plain, clientSection] at hc

/-- The host candidate of the client at `SocketAddr.host 1`. -/
def gatheredCandidate : SdpAttributeCandidate :=
  { hostCandidate (.host 1) 2122260223 with foundation := "1" }

def gatheredOffer : SdpSession PlainMedia :=
  clientOffer "abcd" [] [.candidate gatheredCandidate]

def gatheredText : String :=
  clientText "abcd" "" "a=candidate:1 1 UDP 2122260223 10.0.0.1 5000 typ host\r\n"

/-- The answer to a client that has gathered its candidate names the client's
address next to the server's. -/
theorem gathered_candidate_stays : ∃ answer,
    (answerClient gatheredText gatheredOffer).answer = .ok answer ∧
      ¬ List.Forall₂ (DescribesServer (SdpLib.plain gatheredText gatheredOffer)
        PlainMedia.connection ⟨"server", "password", []⟩ (.host 9))
          gatheredOffer.media answer.media := by
  obtain ⟨answer, hanswer⟩ := exists_ok_of_isOk
    (x := (answerClient gatheredText gatheredOffer).answer) (by decide +kernel)
  refine ⟨answer, hanswer, fun hall => ?_⟩
  obtain ⟨server, hserver, hmedia⟩ :=
    answer_eq_ok (SdpLib.parse_plain _ _) hanswer
  cases hserver
  have hnone := (forall₂_describesServer_iff (SdpLib.documented_plain _ _)
    (fun _ _ => rfl) hmedia).mp hall
  refine hnone _ (List.mem_singleton_self _) gatheredCandidate ?_
  simp [SdpLib.plain, clientSection]

end RStreamer
