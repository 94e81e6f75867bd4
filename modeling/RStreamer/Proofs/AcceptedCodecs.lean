import RStreamer.Client.Metered
import RStreamer.Client.RtcActor
import RStreamer.Sdp.Offer

/-!
# Which accepted codecs are forwarded

An answer accepts every rtpmap of the offer whose format the server supports,
and says so in the formats of its sections. What the server then looks a packet
up in is another list, the codec table of the offer, filled with the same
rtpmaps but holding each codec name once. Browsers offer one codec under several
payload types, all with one name, and of those the table keeps the last: the
answer accepts them all, and a packet of any other one ends in `CodecNotSet`.

So the two agree exactly if the last rtpmap of every accepted payload type is
also the last rtpmap of its codec name (`LastNamed`). In one direction that is
what the table holds (`getName_ofRtpmaps`); in the other a payload type with a
name and a frequency has counters as soon as its table has arrived, and without
counters missing nothing in the handler is `CodecNotSet`.
-/

namespace RStreamer

open Registry

/-! ## Packets without a codec -/

namespace RtcActor

variable {S : Type} (lib : SrtpLib S)

/-- The errors of the forwarding half of the handler. -/
def ForwardError (addr : SocketAddr) (e : ErrorParse) : Prop :=
  e = .clientNotReady addr ∨ e = .srtp

theorem ForwardError.ne_codecNotSet {addr a : SocketAddr} {e : ErrorParse}
    (h : ForwardError addr e) : e ≠ .codecNotSet a := by
  rcases h with rfl | rfl <;> simp

theorem forwardError_sendTo {addr : SocketAddr} {p : Prepared} {r : Registry S}
    {recv : Receiver} {e : ErrorParse}
    (h : (sendTo lib addr p r recv).2 = .error e) : ForwardError addr e := by
  rw [sendTo] at h
  split at h
  · cases h
    exact .inl rfl
  · simp only [] at h
    split at h
    · cases h
      exact .inr rfl
    · cases h

theorem mem_of_firstError {e : ErrorParse}
    {results : List (Receiver × Except ErrorParse Emission)}
    (h : firstError results = .error e) : ∃ res ∈ results, res.2 = .error e := by
  rw [firstError] at h
  split at h
  · next e' hfind =>
      cases h
      obtain ⟨res, hres, hsome⟩ := List.exists_of_findSome?_eq_some hfind
      refine ⟨res, hres, ?_⟩
      split at hsome
      · cases hsome
      · next heq => cases hsome; exact heq
  · cases h

theorem forwardError_forward {addr : SocketAddr} {p : Prepared} {r : Registry S}
    {c : ClientRef} {sched : List Receiver} {e : ErrorParse}
    (h : (forward lib addr p r c sched).result = .error e) :
    ForwardError addr e := by
  rw [forward] at h
  split at h
  · rw [sendUpstream] at h
    split at h
    · cases h
    split at h
    · cases h
    split at h
    · cases h
    simp only [] at h
    split at h
    · cases h
      exact .inr rfl
    · cases h
  · obtain ⟨res, hres, he⟩ := mem_of_firstError h
    have hall : ∀ res ∈ (ParIter.tryForEach (sendTo lib addr p) r
        (liveReceivers r c) sched).2, res.1 ∈ liveReceivers r c ∧
          ∀ e, res.2 = .error e → ForwardError addr e :=
      (ParIter.tryForEach_invariant (I := fun _ => True)
        (R := fun _ out => ∀ e, out = .error e → ForwardError addr e)
        (fun _ _ _ _ => ⟨trivial, fun _ => forwardError_sendTo lib⟩) trivial
        sched).2
    exact (hall res hres).2 e he

theorem runtimeOf_process {r : Registry S} {now : Instant}
    {sched : List Receiver} {message : DataPacket} {addr a : SocketAddr}
    {c : ClientRef} {rtcp : Bool} {header : RtpHeader}
    (h : (process lib r now sched message addr c rtcp header).result =
      .error (.codecNotSet a)) :
    runtimeOf (r.heap c)
      (codecNFrequency (r.heap c).media false header.payload) = none := by
  rw [process] at h
  split at h
  · cases h
  · simp only [] at h
    split at h
    · cases h
    · split at h
      · exact absurd rfl (forwardError_forward lib h).ne_codecNotSet
      · next hrtp =>
          rw [Bool.not_eq_true] at hrtp
          subst hrtp
          split at h
          · cases h
          · rw [handleRtp] at h
            split at h
            · next hnone => simpa [modifyClient_heap_self, runtimeOf] using hnone
            · exact absurd rfl (forwardError_forward lib h).ne_codecNotSet

/-- A packet ends in `CodecNotSet` only if its payload type leads to no
counters. -/
theorem runtimeOf_of_codecNotSet {r : Registry S} {now : Instant}
    {sched : List Receiver} {message : DataPacket} {addr a : SocketAddr}
    (h : (handle lib r now sched message addr).result =
      .error (.codecNotSet a)) :
    ∃ c header, r.clientAt addr = some c ∧
      RtpHeader.fromBuf message = .ok (.ok header) ∧
      runtimeOf (r.heap c)
        (codecNFrequency (r.heap c).media false header.payload) = none := by
  rw [handle] at h
  cases hat : r.clientAt addr with
  | none => rw [hat] at h; cases h
  | some c =>
      rw [hat] at h
      simp only [] at h
      split at h
      · next header hheader =>
          exact ⟨c, header, rfl, hheader, runtimeOf_process lib h⟩
      · next e hbuf =>
          rw [RtpHeader.fromBuf_eq] at hbuf
          split at hbuf
          · cases hbuf
          · cases hbuf
            cases h
      · cases h

end RtcActor

/-- Once a codec table has arrived, the payload types it has a name for have
counters. -/
theorem runtimeOf_mediaAddr {S : Type} {r : Registry S} {addr : SocketAddr}
    {c : ClientRef} (hat : r.clientAt addr = some c) {media : MediaList}
    (now : Instant) (draw : UInt32 → RuntimeDraw) {p : UInt8} {name : String}
    {f : UInt32} (hname : media.getName p = some name)
    (hf : media.getFrequency p = some f) :
    RtcActor.runtimeOf ((r.mediaAddr addr media now draw).heap c)
      (RtcActor.codecNFrequency
        ((r.mediaAddr addr media now draw).heap c).media false p) ≠ none := by
  have hcount := counters_mediaAddr hat media now draw f
  rw [if_pos (MediaList.mem_getFrequencies hf), counters] at hcount
  rw [media_mediaAddr hat, RtcActor.codecNFrequency, if_neg (by simp)]
  simp [RtcActor.runtimeOf, hname, hf, hcount]

/-! ## Accepted and forwarded -/

section

variable {S M : Type}

/-- The table names `p` as an rtpmap of the list does, and has its frequency. -/
def Declared (rs : List SdpAttributeRtpmap) (media : MediaList) (p : UInt8) :
    Prop :=
  ∃ r ∈ rs, r.payloadType = p ∧ media.getName p = some r.codecName ∧
    media.getFrequency p = some r.frequency

/-- No packet with payload type `p` ends in `CodecNotSet` after the table has
arrived, whatever the server was doing then. -/
def Forwards (srtp : SrtpLib S) (media : MediaList) (p : UInt8) : Prop :=
  ∀ (r : Registry S) (addr : SocketAddr) (c : ClientRef) (now : Instant)
    (draw : UInt32 → RuntimeDraw) (later : Instant) (sched : List Receiver)
    (message : DataPacket) (header : RtpHeader), r.clientAt addr = some c →
    RtpHeader.fromBuf message = .ok (.ok header) → header.payload = p →
    (RtcActor.handle srtp (ClientActor.handle r (.mediaAddr addr media now draw))
      later sched message addr).result ≠ .error (.codecNotSet addr)

/-- Every payload type listed in an answer is declared and forwarded by the
table of the offer. -/
def AcceptedForwarded (srtp : SrtpLib S) (lib : SdpLib M)
    (offer answer : List M) : Prop :=
  ∀ m ∈ answer, ∀ p ∈ lib.formats m,
    Declared (lib.rtpmaps offer) (MediaList.ofMedia lib offer) p ∧
      Forwards srtp (MediaList.ofMedia lib offer) p

/-- The last rtpmap of every supported payload type is the last one of its
name. -/
def LastNamed (rs : List SdpAttributeRtpmap) : Prop :=
  ∀ r ∈ rs, isSupportedFormat r.format → ∀ q post,
    LastWith (fun x => x.payloadType = r.payloadType) rs q post →
    LastWith (fun x => x.codecName = q.codecName) rs q post

theorem declared_ofRtpmaps_iff {rs : List SdpAttributeRtpmap}
    {r : SdpAttributeRtpmap} (hr : r ∈ rs) :
    Declared rs (MediaList.ofRtpmaps rs) r.payloadType ↔ ∀ q post,
      LastWith (fun x => x.payloadType = r.payloadType) rs q post →
      LastWith (fun x => x.codecName = q.codecName) rs q post := by
  constructor
  · rintro ⟨d, -, -, hname, -⟩ q post hq
    obtain ⟨q', post', hid, hlast⟩ :=
      (MediaList.getName_ofRtpmaps rs _ _).mp hname
    obtain ⟨rfl, rfl⟩ := hq.unique hid
    have hnamed : q.codecName = d.codecName := hlast.2.1
    rw [hnamed]
    exact hlast
  · intro h
    obtain ⟨q, post, hq⟩ :=
      LastWith.exists_of_mem (P := fun x => x.payloadType = r.payloadType) hr rfl
    refine ⟨q, hq.mem, hq.2.1, ?_, ?_⟩
    · exact (MediaList.getName_ofRtpmaps rs _ _).mpr ⟨q, post, hq, h q post hq⟩
    · exact (MediaList.getFrequency_ofRtpmaps rs _ _).mpr ⟨q, post, hq, rfl⟩

theorem Declared.forwards {rs : List SdpAttributeRtpmap} {media : MediaList}
    {p : UInt8} (h : Declared rs media p) (srtp : SrtpLib S) :
    Forwards srtp media p := by
  obtain ⟨d, -, -, hname, hf⟩ := h
  intro r addr c now draw later sched message header hat hheader hp hres
  rw [ClientActor.handle_mediaAddr] at hres
  obtain ⟨c', header', hat', hheader', hnone⟩ :=
    RtcActor.runtimeOf_of_codecNotSet srtp hres
  rw [clientAt, clientStorage_mediaAddr, ← clientAt, hat] at hat'
  rw [hheader] at hheader'
  cases hat'
  cases hheader'
  subst hp
  exact runtimeOf_mediaAddr hat now draw hname hf hnone

/-- An offer that is answered leaves its codec table with every registration,
and every payload type the answer lists is declared and forwarded by that table
if and only if the last rtpmap of each of them is the last one of its name. -/
theorem accepted_codecs_forwarded_iff (srtp : SrtpLib S) (lib : SdpLib M)
    (hlib : lib.Lawful) (sdp : String) (recv : Option ServerData)
    (groupId : Nat) (sdpAddr : SocketAddr) (world : OfferWorld)
    (req answer : SdpSession M) (hreq : lib.parseSdp sdp true = .ok req)
    (hanswer : (generateStreamerResponse lib sdp recv groupId sdpAddr
      world).answer = .ok answer) :
    (∀ g ∈ (generateStreamerResponse lib sdp recv groupId sdpAddr
        world).registrations, g.media = MediaList.ofMedia lib req.media) ∧
      (AcceptedForwarded srtp lib req.media answer.media ↔
        LastNamed (lib.rtpmaps req.media)) := by
  have hlisted := hlib.mem_formats_answer hreq hanswer
  refine ⟨fun g hg => media_registrations hreq hg, ?_, ?_⟩
  · intro h r hr hsupported
    obtain ⟨m, hm, hp⟩ :=
      (hlisted r.payloadType).mpr ⟨r, hr, hsupported, rfl⟩
    exact (declared_ofRtpmaps_iff hr).mp (h m hm r.payloadType hp).1
  · intro h m hm p hp
    obtain ⟨r, hr, hsupported, rfl⟩ := (hlisted p).mp ⟨m, hm, hp⟩
    have hdecl := (declared_ofRtpmaps_iff hr).mpr (h r hr hsupported)
    exact ⟨hdecl, hdecl.forwards srtp⟩

end

/-! ## One codec under two payload types -/

/-- An offer of one video section with the given rtpmaps. -/
def videoOffer (rs : List SdpAttributeRtpmap) : SdpSession PlainMedia where
  version := 0
  origin := ⟨"-", 1, 2, .ip (SocketAddr.host 1).ip⟩
  session := some "-"
  timing := some ⟨0, 0⟩
  attributes := []
  media := [
    { formats := rs.map fun r => r.payloadType
      attributes := .iceUfrag "abcd" :: rs.map .rtpmap
      port := 9
      connection := some ⟨.ip (SocketAddr.host 1).ip, none, none⟩ }]

/-- The lines of such an offer that do not depend on the rtpmaps. -/
def videoText (formats rtpmaps : String) : String :=
  "v=0\r\no=- 1 2 IN IP4 10.0.0.1\r\ns=-\r\nt=0 0\r\n" ++
    "m=video 9 UDP/TLS/RTP/SAVPF " ++ formats ++ "\r\nc=IN IP4 10.0.0.1\r\n" ++
    "a=ice-ufrag:abcd\r\n" ++ rtpmaps

def answerVideo (text : String) (rs : List SdpAttributeRtpmap) :
    Response PlainMedia :=
  generateStreamerResponse (SdpLib.plain text (videoOffer rs)) text
    (some ⟨"server", "password", []⟩) 1 (.host 9) ⟨fun _ => 0, 7, fun _ => 0⟩

def h264NVp8 : List SdpAttributeRtpmap :=
  [⟨102, "H264", 90000, none⟩, ⟨96, "VP8", 90000, none⟩]

def h264NVp8Text : String :=
  videoText "102 96" "a=rtpmap:102 H264/90000\r\na=rtpmap:96 VP8/90000\r\n"

theorem lastNamed_of_nodup {rs : List SdpAttributeRtpmap}
    (h : (rs.map SdpAttributeRtpmap.codecName).Nodup) : LastNamed rs := by
  rintro - - - q post ⟨⟨pre, rfl⟩, -, -⟩
  refine ⟨⟨pre, rfl⟩, rfl, fun y hy hname => ?_⟩
  rw [List.map_append, List.map_cons] at h
  have hnot := (List.nodup_cons.mp (List.nodup_append.mp h).2.1).1
  exact hnot (hname ▸ List.mem_map_of_mem hy)

theorem h264_and_vp8_forwarded : ∃ answer,
    (answerVideo h264NVp8Text h264NVp8).answer = .ok answer ∧
      AcceptedForwarded SrtpLib.null
        (SdpLib.plain h264NVp8Text (videoOffer h264NVp8))
        (videoOffer h264NVp8).media answer.media := by
  obtain ⟨answer, hanswer⟩ := exists_ok_of_isOk
    (x := (answerVideo h264NVp8Text h264NVp8).answer) (by decide +kernel)
  refine ⟨answer, hanswer, ?_⟩
  exact (accepted_codecs_forwarded_iff SrtpLib.null _ (SdpLib.lawful_plain _ _)
    h264NVp8Text _ 1 (.host 9) _ _ answer (SdpLib.parse_plain _ _) hanswer).2.mpr
      (lastNamed_of_nodup (by decide +kernel))

def h264Twice : List SdpAttributeRtpmap :=
  [⟨102, "H264", 90000, none⟩, ⟨104, "H264", 90000, none⟩]

def h264TwiceText : String :=
  videoText "102 104"
    "a=rtpmap:102 H264/90000\r\na=rtpmap:104 H264/90000\r\n"

/-- Both payload types of the codec are accepted, and the first has no name. -/
theorem h264_twice_not_forwarded :
    ¬ ∀ (lib : SdpLib PlainMedia), lib.Lawful → ∀ (sdp : String)
      (recv : Option ServerData) (groupId : Nat) (sdpAddr : SocketAddr)
      (world : OfferWorld) (req answer : SdpSession PlainMedia),
      lib.parseSdp sdp true = .ok req →
      (generateStreamerResponse lib sdp recv groupId sdpAddr world).answer =
        .ok answer →
      AcceptedForwarded SrtpLib.null lib req.media answer.media := by
  intro h
  obtain ⟨answer, hanswer⟩ := exists_ok_of_isOk
    (x := (answerVideo h264TwiceText h264Twice).answer) (by decide +kernel)
  have hlib := SdpLib.lawful_plain h264TwiceText (videoOffer h264Twice)
  have hreq := SdpLib.parse_plain h264TwiceText (videoOffer h264Twice)
  -- 102 is in the answer's formats, as the payload type of the first rtpmap
  obtain ⟨m, hm, hp⟩ := (hlib.mem_formats_answer hreq hanswer 102).mpr
    ⟨⟨102, "H264", 90000, none⟩, List.mem_cons_self .., by decide +kernel, rfl⟩
  obtain ⟨⟨d, -, -, hname, -⟩, -⟩ :=
    h _ hlib _ _ _ _ _ _ answer hreq hanswer m hm 102 hp
  have hnone : (MediaList.ofMedia (SdpLib.plain h264TwiceText
      (videoOffer h264Twice)) (videoOffer h264Twice).media).getName 102 =
        none := by
    decide +kernel
  rw [hnone] at hname
  cases hname

end RStreamer
