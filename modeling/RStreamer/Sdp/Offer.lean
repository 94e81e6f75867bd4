import RStreamer.Sdp.Media
import RStreamer.Server.Sessions

/-!
# The answer to an offer (`sdp/mod.rs`)

`generate_streamer_response` parses an offer, registers a session and the codec
table of the offer for every `ice-ufrag` in it, and answers with the offer's own
media sections, edited in place: the direction turned round, the codecs the
server does not forward taken out, and the transport replaced by the server's.

The registrations are sent before the sections are edited, so an offer whose
answer fails has been registered all the same.
-/

namespace RStreamer

/-- `server::udp::ServerData`, with the fields of its `meta` and `crypto` that an
answer carries. -/
structure ServerData where
  user : String
  password : String
  digest : List UInt8

/-- `SdpResponseGeneratorError` -/
inductive SdpResponseGeneratorError where
  | sdpParserError (e : SdpParserError)
  | sdpParserInternalError (e : SdpParserInternalError)
  | mailBoxError
  | customError (m : String)

/-- What the world contributes to one answer: the readings of the wall clock and
the numbers drawn from `ThreadRng`, in the order they are asked for. -/
structure OfferWorld where
  now : Nat → SystemTime
  sessionId : UInt16
  priority : Nat → UInt32

/-- `is_supported_format` -/
def isSupportedFormat (format : String) : Bool :=
  decide (format ∈ ["PCMU/8000", "PCMA/8000", "G722/8000", "H264/90000",
    "telephone-event/8000", "opus/48000", "VP8/90000", "VP9/90000"])

/-- `format!("{}/{}", s.codec_name, s.frequency)` -/
def SdpAttributeRtpmap.format (s : SdpAttributeRtpmap) : String :=
  s.codecName ++ "/" ++ toString s.frequency

/-! ## Editing a section -/

section Edit

variable {M : Type} (lib : SdpLib M)

/-- What the server receives the client sends, and the other way round. -/
def turnDirection (m : M) : Except SdpParserInternalError M :=
  if (lib.getAttribute m .recvonly).isSome then
    lib.setAttribute (lib.removeAttribute m .recvonly) .sendonly
  else if (lib.getAttribute m .sendonly).isSome then
    lib.setAttribute (lib.removeAttribute m .sendonly) .recvonly
  else
    .ok m

/-- `remove_useless_attributes` -/
def removeUselessAttributes (m : M) : Except SdpParserInternalError M := do
  let m ← turnDirection lib (lib.removeAttribute m .msid)
  return lib.removeAttribute (lib.removeAttribute m .ssrcGroup) .ssrc

/-- `good_codecs` -/
def goodCodecs (m : M) : List SdpAttributeRtpmap :=
  (lib.getAttributes m).filterMap fun
    | .rtpmap s => if isSupportedFormat s.format then some s else none
    | _ => none

/-- The one candidate of an answer. -/
def hostCandidate (addr : SocketAddr) (priority : UInt32) :
    SdpAttributeCandidate where
  foundation := "0"
  priority := priority.toUInt64
  address := .ip addr.ip
  port := addr.port.toUInt32
  cType := .host
  raddr := none
  rport := none
  tcpType := none
  generation := none
  ufrag := none
  networkcost := none
  transport := .udp
  component := 1
  unknownExtensions := []

/-- `set_attributes` -/
def setAttributes (m : M) (server : ServerData) (addr : SocketAddr)
    (priority : UInt32) : Except SdpParserInternalError M := do
  let m ← (goodCodecs lib m).foldlM lib.addCodec (lib.removeCodecs m)
  let m ← lib.setAttribute m (.icePwd server.password)
  let m ← lib.setAttribute m (.iceUfrag server.user)
  let m ← lib.setAttribute m (.fingerprint ⟨.sha256, server.digest⟩)
  let m ← lib.setAttribute m (.setup .passive)
  let m ← lib.setAttribute m (.rtcp ⟨addr.port, some (.ip addr.ip)⟩)
  let m ← lib.setAttribute m .rtcpMux
  let m ← lib.addAttribute m (.candidate (hostCandidate addr priority))
  lib.setAttribute m .endOfCandidates

/-- One section of the answer, from the section of the offer. -/
def answerSection (m : M) (server : ServerData) (addr : SocketAddr)
    (priority : UInt32) : Except SdpParserInternalError M := do
  let m := lib.setPort m addr.port.toUInt32
  let m ← removeUselessAttributes lib m
  let m ← setAttributes lib m server addr priority
  return lib.setConnection m ⟨.ip addr.ip, none, none⟩

/-- The sections of the answer; `i` counts the priorities drawn so far. -/
def answerMedia (server : ServerData) (addr : SocketAddr)
    (priority : Nat → UInt32) : Nat → List M →
      Except SdpParserInternalError (List M)
  | _, [] => .ok []
  | i, m :: ms => do
      let m ← answerSection lib m server addr (priority i)
      let ms ← answerMedia server addr priority (i + 1) ms
      return m :: ms

end Edit

/-! ## Registering the offer -/

/-- `str::replace`, for a pattern that is not empty: every match, from the left,
that does not overlap the one before. `n` characters of a match are left. -/
def replaceFrom (pat new : List Char) : Nat → List Char → List Char
  | _, [] => []
  | n + 1, _ :: cs => replaceFrom pat new n cs
  | 0, c :: cs =>
      if pat.isPrefixOf (c :: cs) then
        new ++ replaceFrom pat new (pat.length - 1) cs
      else c :: replaceFrom pat new 0 cs

/-- `str::replace` -/
def strReplace (s pat new : String) : String :=
  String.ofList (replaceFrom pat.toList new.toList 0 s.toList)

/-- `SessionMessage` and `MediaUserMessage` for one `ice-ufrag`. -/
structure Registration where
  session : Session
  item : SessionStorageItem
  media : MediaList

section Respond

variable {M : Type} (lib : SdpLib M)

/-- The names of the client, one for each section that has an `ice-ufrag`. -/
def clientUsers (req : SdpSession M) : List String :=
  (req.media.filterMap fun m => lib.getAttribute m .iceUfrag).map fun a =>
    strReplace (lib.display a) "ice-ufrag:" ""

/-- What an offer sends to `UdpRecv`. -/
def registrations (req : SdpSession M) (server : ServerData) (groupId : Nat)
    (now : Nat → SystemTime) : List Registration :=
  (clientUsers lib req).mapIdx fun i clientUser =>
    { session := ⟨server.user, clientUser⟩
      item :=
        { groupId := groupId
          ttl := now i
          isSender := (lib.sessionAttribute req .sendonly).isSome }
      media := MediaList.ofMedia lib req.media }

/-- The group attribute of the offer, or one that bundles all its sections. -/
def groupOf (req : SdpSession M) : SdpAttribute :=
  (lib.sessionAttribute req .group).getD
    (.group ⟨.bundle, (List.range req.media.length).map toString⟩)

/-- The answer to a parsed offer. -/
def respond (req : SdpSession M) (session : String) (server : ServerData)
    (sdpAddr : SocketAddr) (world : OfferWorld) :
    Except SdpParserInternalError (SdpSession M) := do
  let media ← answerMedia lib server sdpAddr world.priority 0 req.media
  let origin := { req.origin with
    username := "-"
    sessionId := world.sessionId.toUInt64
    unicastAddr := .ip sdpAddr.ip }
  let res := lib.newSession req.version origin session
  let res ← lib.addSessionAttribute res (.msidSemantic ⟨"WMS", []⟩)
  let res ← lib.addSessionAttribute res (groupOf lib req)
  let res ← lib.addSessionAttribute res .iceLite
  let res ← lib.addSessionAttribute res (.iceOptions ["trickle"])
  return { res with timing := some ⟨0, 0⟩, media := media }

/-- What one offer leads to: the messages to `UdpRecv` and the answer. -/
structure Response (M : Type) where
  registrations : List Registration
  answer : Except SdpResponseGeneratorError (SdpSession M)

/-- `generate_streamer_response`. `recv` is the reply to `ServerDataRequest`,
`none` if `UdpRecv` has stopped; an actor that has replied takes the messages
that follow. -/
def generateStreamerResponse (sdp : String) (recv : Option ServerData)
    (groupId : Nat) (sdpAddr : SocketAddr) (world : OfferWorld) : Response M :=
  match lib.parseSdp sdp true with
  | .error e => ⟨[], .error (.sdpParserError e)⟩
  | .ok req =>
      match recv with
      | none => ⟨[], .error .mailBoxError⟩
      | some server =>
          match req.session with
          | none => ⟨[], .error (.customError "Session is empty")⟩
          | some session =>
              ⟨registrations lib req server groupId world.now,
                (respond lib req session server sdpAddr world).mapError
                  .sdpParserInternalError⟩

end Respond

/-! ## What an answer lists -/

theorem bind_eq_ok {ε α β : Type} {x : Except ε α} {f : α → Except ε β}
    {b : β} : (x >>= f) = .ok b ↔ ∃ a, x = .ok a ∧ f a = .ok b := by
  cases x with
  | error e => exact ⟨fun h => (by cases h), fun ⟨_, h, _⟩ => (by cases h)⟩
  | ok a =>
      refine ⟨fun h => ⟨a, rfl, h⟩, ?_⟩
      rintro ⟨a', ha, h⟩
      cases ha
      exact h

theorem exists_ok_of_isOk {ε α : Type} {x : Except ε α} (h : x.isOk = true) :
    ∃ a, x = .ok a := by
  cases x with
  | error e => cases h
  | ok a => exact ⟨a, rfl⟩

section Lists

variable {M : Type} {lib : SdpLib M}

/-- The rtpmaps of some sections, in order. -/
def SdpLib.rtpmaps (lib : SdpLib M) (media : List M) :
    List SdpAttributeRtpmap :=
  (media.flatMap lib.getAttributes).filterMap SdpAttribute.asRtpmap

theorem SdpLib.rtpmaps_cons (lib : SdpLib M) (m : M) (ms : List M) :
    lib.rtpmaps (m :: ms) = lib.rtpmaps [m] ++ lib.rtpmaps ms := by
  simp [SdpLib.rtpmaps]

theorem goodCodecs_eq (m : M) : goodCodecs lib m =
    (lib.rtpmaps [m]).filter fun r => isSupportedFormat r.format := by
  rw [goodCodecs, SdpLib.rtpmaps, List.flatMap_singleton, List.filter_filterMap]
  refine List.filterMap_congr fun a _ => ?_
  cases a <;> rfl

/-- The rtpmaps and the formats of a section stay as they are. -/
structure SameCodecs (lib : SdpLib M) (m m' : M) : Prop where
  rtpmaps : lib.rtpmaps [m'] = lib.rtpmaps [m]
  formats : lib.formats m' = lib.formats m

theorem SameCodecs.trans {m m' m'' : M} (h : SameCodecs lib m m')
    (h' : SameCodecs lib m' m'') : SameCodecs lib m m'' :=
  ⟨h'.rtpmaps.trans h.rtpmaps, h'.formats.trans h.formats⟩

namespace SdpLib.Lawful

theorem sameCodecs_removeAttribute (h : lib.Lawful) (m : M)
    {t : SdpAttributeType} (ht : t ≠ .rtpmap) :
    SameCodecs lib m (lib.removeAttribute m t) := by
  refine ⟨?_, h.formats_removeAttribute m t⟩
  rw [rtpmaps, rtpmaps, List.flatMap_singleton, List.flatMap_singleton,
    h.getAttributes_removeAttribute, List.filterMap_filter]
  refine List.filterMap_congr fun a _ => ?_
  by_cases ha : a.type = t
  · rw [asRtpmap_eq_none_iff.mpr (ha ▸ ht)]
    simp
  · simp [ha]

theorem sameCodecs_addAttribute (h : lib.Lawful) {m m' : M}
    {a : SdpAttribute} (ha : a.asRtpmap = none)
    (hadd : lib.addAttribute m a = .ok m') : SameCodecs lib m m' := by
  obtain ⟨hattrs, hformats⟩ := h.addAttribute hadd
  refine ⟨?_, hformats⟩
  rw [rtpmaps, rtpmaps, List.flatMap_singleton, List.flatMap_singleton, hattrs,
    List.filterMap_append, List.filterMap_cons_none ha,
    List.filterMap_nil, List.append_nil]

theorem sameCodecs_setAttribute (h : lib.Lawful) {m m' : M}
    {a : SdpAttribute} (ha : a.asRtpmap = none)
    (hset : lib.setAttribute m a = .ok m') : SameCodecs lib m m' := by
  rw [h.setAttribute] at hset
  exact (h.sameCodecs_removeAttribute m (asRtpmap_eq_none_iff.mp ha)).trans
    (h.sameCodecs_addAttribute ha hset)

theorem formats_addCodecs (h : lib.Lawful) :
    ∀ (rs : List SdpAttributeRtpmap) {m m' : M},
      rs.foldlM lib.addCodec m = .ok m' →
      lib.formats m' = lib.formats m ++ rs.map SdpAttributeRtpmap.payloadType := by
  intro rs
  induction rs with
  | nil =>
      intro m m' hm
      cases hm
      simp
  | cons r rs ih =>
      intro m m' hm
      rw [List.foldlM_cons, bind_eq_ok] at hm
      obtain ⟨m₁, hadd, hrest⟩ := hm
      rw [ih hrest, (h.addCodec hadd).1, List.map_cons, List.append_assoc]
      rfl

theorem sameCodecs_turnDirection (h : lib.Lawful) {m m' : M}
    (hm : turnDirection lib m = .ok m') : SameCodecs lib m m' := by
  rw [turnDirection] at hm
  split at hm
  · exact (h.sameCodecs_removeAttribute m (by decide)).trans
      (h.sameCodecs_setAttribute rfl hm)
  · split at hm
    · exact (h.sameCodecs_removeAttribute m (by decide)).trans
        (h.sameCodecs_setAttribute rfl hm)
    · cases hm
      exact ⟨rfl, rfl⟩

theorem sameCodecs_removeUselessAttributes (h : lib.Lawful) {m m' : M}
    (hm : removeUselessAttributes lib m = .ok m') : SameCodecs lib m m' := by
  rw [removeUselessAttributes, bind_eq_ok] at hm
  obtain ⟨m₁, hturn, hm'⟩ := hm
  cases hm'
  exact (h.sameCodecs_removeAttribute m (by decide)).trans
    ((h.sameCodecs_turnDirection hturn).trans
      ((h.sameCodecs_removeAttribute m₁ (by decide)).trans
        (h.sameCodecs_removeAttribute _ (by decide))))

/-- The formats of an edited section are the codecs added to it: every other
edit leaves them alone. -/
theorem formats_setAttributes (h : lib.Lawful) {m m' : M} {server : ServerData}
    {addr : SocketAddr} {priority : UInt32}
    (hm : setAttributes lib m server addr priority = .ok m') :
    lib.formats m' =
      (goodCodecs lib m).map SdpAttributeRtpmap.payloadType := by
  simp only [setAttributes, bind_eq_ok] at hm
  obtain ⟨m₀, hcodecs, m₁, hpwd, m₂, hufrag, m₃, hfinger, m₄, hsetup, m₅, hrtcp,
    m₆, hmux, m₇, hcand, hend⟩ := hm
  rw [(h.sameCodecs_setAttribute rfl hend).formats,
    (h.sameCodecs_addAttribute rfl hcand).formats,
    (h.sameCodecs_setAttribute rfl hmux).formats,
    (h.sameCodecs_setAttribute rfl hrtcp).formats,
    (h.sameCodecs_setAttribute rfl hsetup).formats,
    (h.sameCodecs_setAttribute rfl hfinger).formats,
    (h.sameCodecs_setAttribute rfl hufrag).formats,
    (h.sameCodecs_setAttribute rfl hpwd).formats,
    h.formats_addCodecs _ hcodecs, (h.removeCodecs m).1, List.nil_append]

theorem formats_answerSection (h : lib.Lawful) {m m' : M} {server : ServerData}
    {addr : SocketAddr} {priority : UInt32}
    (hm : answerSection lib m server addr priority = .ok m') :
    lib.formats m' = ((lib.rtpmaps [m]).filter fun r =>
      isSupportedFormat r.format).map SdpAttributeRtpmap.payloadType := by
  simp only [answerSection, bind_eq_ok] at hm
  obtain ⟨m₁, hremove, m₂, hset, hm'⟩ := hm
  cases hm'
  have hport : lib.rtpmaps [lib.setPort m addr.port.toUInt32] =
      lib.rtpmaps [m] := by
    rw [rtpmaps, rtpmaps, List.flatMap_singleton, List.flatMap_singleton,
      (h.setPort m _).1]
  rw [(h.setConnection m₂ _).2, h.formats_setAttributes hset, goodCodecs_eq,
    (h.sameCodecs_removeUselessAttributes hremove).rtpmaps, hport]

theorem mem_formats_answerMedia (h : lib.Lawful) {server : ServerData}
    {addr : SocketAddr} {priority : Nat → UInt32} {p : UInt8} :
    ∀ {media : List M} {i : Nat} {answer : List M},
      answerMedia lib server addr priority i media = .ok answer →
      ((∃ m ∈ answer, p ∈ lib.formats m) ↔
        ∃ r ∈ lib.rtpmaps media,
          isSupportedFormat r.format ∧ r.payloadType = p) := by
  intro media
  induction media with
  | nil =>
      intro i answer ha
      cases ha
      simp [rtpmaps]
  | cons m ms ih =>
      intro i answer ha
      simp only [answerMedia, bind_eq_ok] at ha
      obtain ⟨m', hm, ms', hms, ha'⟩ := ha
      cases ha'
      rw [rtpmaps_cons]
      simp only [List.mem_cons, exists_eq_left, List.mem_append, or_and_right,
        exists_or, ih hms, h.formats_answerSection hm, List.mem_map,
        List.mem_filter, and_assoc]

end SdpLib.Lawful

theorem media_respond {req answer : SdpSession M} {session : String}
    {server : ServerData} {sdpAddr : SocketAddr} {world : OfferWorld}
    (ha : respond lib req session server sdpAddr world = .ok answer) :
    answerMedia lib server sdpAddr world.priority 0 req.media =
      .ok answer.media := by
  simp only [respond, bind_eq_ok] at ha
  obtain ⟨media, hmedia, r₁, -, r₂, -, r₃, -, r₄, -, hans⟩ := ha
  cases hans
  exact hmedia

/-- What an answered offer went through: it has a session name, its names were
registered and its sections edited. -/
theorem response_of_answer {sdp : String} {recv : Option ServerData}
    {groupId : Nat} {sdpAddr : SocketAddr} {world : OfferWorld}
    {req answer : SdpSession M} (hreq : lib.parseSdp sdp true = .ok req)
    (ha : (generateStreamerResponse lib sdp recv groupId sdpAddr world).answer =
      .ok answer) :
    ∃ server session, recv = some server ∧
      (generateStreamerResponse lib sdp recv groupId sdpAddr
        world).registrations = registrations lib req server groupId world.now ∧
      respond lib req session server sdpAddr world = .ok answer := by
  cases recv with
  | none => simp [generateStreamerResponse, hreq] at ha
  | some server =>
      cases hsession : req.session with
      | none => simp [generateStreamerResponse, hreq, hsession] at ha
      | some session =>
          simp only [generateStreamerResponse, hreq, hsession] at ha ⊢
          refine ⟨server, session, rfl, rfl, ?_⟩
          cases hres : respond lib req session server sdpAddr world with
          | error e => rw [hres] at ha; cases ha
          | ok res =>
              rw [hres] at ha
              cases ha
              rfl

theorem answer_eq_ok {sdp : String} {recv : Option ServerData} {groupId : Nat}
    {sdpAddr : SocketAddr} {world : OfferWorld} {req answer : SdpSession M}
    (hreq : lib.parseSdp sdp true = .ok req)
    (ha : (generateStreamerResponse lib sdp recv groupId sdpAddr world).answer =
      .ok answer) :
    ∃ server, recv = some server ∧
      answerMedia lib server sdpAddr world.priority 0 req.media =
        .ok answer.media := by
  obtain ⟨server, session, hrecv, -, hres⟩ := response_of_answer hreq ha
  exact ⟨server, hrecv, media_respond hres⟩

/-- The payload types an answer lists are those of the supported rtpmaps of the
offer. -/
theorem SdpLib.Lawful.mem_formats_answer (h : lib.Lawful) {sdp : String}
    {recv : Option ServerData} {groupId : Nat} {sdpAddr : SocketAddr}
    {world : OfferWorld} {req answer : SdpSession M}
    (hreq : lib.parseSdp sdp true = .ok req)
    (ha : (generateStreamerResponse lib sdp recv groupId sdpAddr world).answer =
      .ok answer) (p : UInt8) :
    (∃ m ∈ answer.media, p ∈ lib.formats m) ↔
      ∃ r ∈ lib.rtpmaps req.media,
        isSupportedFormat r.format ∧ r.payloadType = p := by
  obtain ⟨server, -, hmedia⟩ := answer_eq_ok hreq ha
  exact h.mem_formats_answerMedia hmedia

/-- A registration comes from an offer that was parsed. -/
theorem exists_of_mem_registrations {sdp : String} {recv : Option ServerData}
    {groupId : Nat} {sdpAddr : SocketAddr} {world : OfferWorld}
    {g : Registration} (hg : g ∈ (generateStreamerResponse lib sdp recv groupId
      sdpAddr world).registrations) :
    ∃ req server, lib.parseSdp sdp true = .ok req ∧
      g ∈ registrations lib req server groupId world.now := by
  rw [generateStreamerResponse] at hg
  split at hg
  · cases hg
  · next req hreq =>
      split at hg
      · cases hg
      · split at hg
        · cases hg
        · exact ⟨req, _, hreq, hg⟩

/-- Every registration carries the codec table of the whole offer. -/
theorem media_registrations {sdp : String} {recv : Option ServerData}
    {groupId : Nat} {sdpAddr : SocketAddr} {world : OfferWorld}
    {req : SdpSession M} (hreq : lib.parseSdp sdp true = .ok req)
    {g : Registration} (hg : g ∈ (generateStreamerResponse lib sdp recv groupId
      sdpAddr world).registrations) :
    g.media = MediaList.ofMedia lib req.media := by
  obtain ⟨req', server, hreq', hmem⟩ := exists_of_mem_registrations hg
  rw [hreq] at hreq'
  cases hreq'
  rw [registrations, List.mem_mapIdx] at hmem
  obtain ⟨i, hi, rfl⟩ := hmem
  rfl

end Lists

end RStreamer
