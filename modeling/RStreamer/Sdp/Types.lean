import RStreamer.Basic

/-!
# Session descriptions (`webrtc-sdp`)

The SDP parser and its types are the crate `webrtc-sdp`, outside the repository.
The attributes the program builds or asks for are listed here with the fields it
fills in; any other attribute is `other`. `SdpLib` is the crate's interface, a
parameter of everything above: a media section is a value of an arbitrary type
`M`, edited by the crate's calls, and the calls that check an attribute may
refuse it.
-/

namespace RStreamer

/-- `std::net::IpAddr` -/
inductive IpAddr where
  | v4 (octets : Vector UInt8 4)
  | v6 (octets : Vector UInt8 16)

def SocketAddr.ip : SocketAddr → IpAddr
  | .v4 ip _ => .v4 ip
  | .v6 ip _ _ _ => .v6 ip

def SocketAddr.port : SocketAddr → UInt16
  | .v4 _ port => port
  | .v6 _ port _ _ => port

/-! ## Attributes -/

inductive AddressType where
  | ipV4
  | ipV6

inductive ExplicitlyTypedAddress where
  | ip (ip : IpAddr)
  | fqdn (addressType : AddressType) (domain : String)

inductive Address where
  | ip (ip : IpAddr)
  | fqdn (domain : String)

structure SdpAttributeRtpmap where
  payloadType : UInt8
  codecName : String
  frequency : UInt32
  channels : Option UInt32

inductive SdpAttributeFingerprintHashType where
  | sha1 | sha224 | sha256 | sha384 | sha512

structure SdpAttributeFingerprint where
  hashAlgorithm : SdpAttributeFingerprintHashType
  fingerprint : List UInt8

inductive SdpAttributeSetup where
  | active | actpass | holdconn | passive

structure SdpAttributeRtcp where
  port : UInt16
  unicastAddr : Option ExplicitlyTypedAddress

inductive SdpAttributeCandidateTransport where
  | udp | tcp

inductive SdpAttributeCandidateType where
  | host | srflx | prflx | relay

inductive SdpAttributeCandidateTcpType where
  | active | passive | simultaneous

structure SdpAttributeCandidate where
  foundation : String
  component : UInt32
  transport : SdpAttributeCandidateTransport
  priority : UInt64
  address : Address
  port : UInt32
  cType : SdpAttributeCandidateType
  raddr : Option Address
  rport : Option UInt32
  tcpType : Option SdpAttributeCandidateTcpType
  generation : Option UInt32
  ufrag : Option String
  networkcost : Option UInt32
  unknownExtensions : List (String × String)

inductive SdpAttributeGroupSemantic where
  | bundle
  | other (name : String)

structure SdpAttributeGroup where
  semantics : SdpAttributeGroupSemantic
  tags : List String

structure SdpAttributeMsidSemantic where
  semantic : String
  msids : List String

inductive SdpAttribute where
  | candidate (c : SdpAttributeCandidate)
  | endOfCandidates
  | fingerprint (f : SdpAttributeFingerprint)
  | group (g : SdpAttributeGroup)
  | iceLite
  | iceOptions (options : List String)
  | icePwd (password : String)
  | iceUfrag (ufrag : String)
  | msid (id : String)
  | msidSemantic (m : SdpAttributeMsidSemantic)
  | recvonly
  | rtcp (r : SdpAttributeRtcp)
  | rtcpMux
  | rtpmap (r : SdpAttributeRtpmap)
  | sendonly
  | setup (s : SdpAttributeSetup)
  | ssrc (value : String)
  | ssrcGroup (value : String)
  | other (name value : String)

inductive SdpAttributeType where
  | candidate | endOfCandidates | fingerprint | group | iceLite | iceOptions
  | icePwd | iceUfrag | msid | msidSemantic | recvonly | rtcp | rtcpMux | rtpmap
  | sendonly | setup | ssrc | ssrcGroup
  | other (name : String)
  deriving DecidableEq

/-- `SdpAttributeType::from` -/
def SdpAttribute.type : SdpAttribute → SdpAttributeType
  | .candidate _ => .candidate
  | .endOfCandidates => .endOfCandidates
  | .fingerprint _ => .fingerprint
  | .group _ => .group
  | .iceLite => .iceLite
  | .iceOptions _ => .iceOptions
  | .icePwd _ => .icePwd
  | .iceUfrag _ => .iceUfrag
  | .msid _ => .msid
  | .msidSemantic _ => .msidSemantic
  | .recvonly => .recvonly
  | .rtcp _ => .rtcp
  | .rtcpMux => .rtcpMux
  | .rtpmap _ => .rtpmap
  | .sendonly => .sendonly
  | .setup _ => .setup
  | .ssrc _ => .ssrc
  | .ssrcGroup _ => .ssrcGroup
  | .other name _ => .other name

/-- The pattern `Rtpmap(s)`. -/
def SdpAttribute.asRtpmap : SdpAttribute → Option SdpAttributeRtpmap
  | .rtpmap r => some r
  | _ => none

/-! ## Sessions -/

structure SdpOrigin where
  username : String
  sessionId : UInt64
  sessionVersion : UInt64
  unicastAddr : ExplicitlyTypedAddress

structure SdpTiming where
  start : UInt64
  stop : UInt64

structure SdpConnection where
  address : ExplicitlyTypedAddress
  ttl : Option UInt8
  amount : Option UInt32

structure SdpSession (M : Type) where
  version : UInt64
  origin : SdpOrigin
  session : Option String
  timing : Option SdpTiming
  attributes : List SdpAttribute
  media : List M

/-- `SdpParserError`, by the text it prints. -/
structure SdpParserError where
  text : String

/-- `SdpParserInternalError`, by the text it prints. -/
structure SdpParserInternalError where
  text : String

/-- The calls of `webrtc-sdp` on a session and on a media section. `formats` is
the payload types on a section's `m=` line. -/
structure SdpLib (M : Type) where
  parseSdp : String → Bool → Except SdpParserError (SdpSession M)
  newSession : UInt64 → SdpOrigin → String → SdpSession M
  sessionAttribute : SdpSession M → SdpAttributeType → Option SdpAttribute
  addSessionAttribute : SdpSession M → SdpAttribute →
    Except SdpParserInternalError (SdpSession M)
  display : SdpAttribute → String
  formats : M → List UInt8
  getAttributes : M → List SdpAttribute
  getAttribute : M → SdpAttributeType → Option SdpAttribute
  removeAttribute : M → SdpAttributeType → M
  addAttribute : M → SdpAttribute → Except SdpParserInternalError M
  setAttribute : M → SdpAttribute → Except SdpParserInternalError M
  removeCodecs : M → M
  addCodec : M → SdpAttributeRtpmap → Except SdpParserInternalError M
  setPort : M → UInt32 → M
  setConnection : M → SdpConnection → M

/-! ## What `webrtc-sdp` promises

`remove_attribute` drops every attribute of a type, `add_attribute` appends, and
`set_attribute` is one after the other. `remove_codecs` clears the formats, and
`add_codec` appends a format and an rtpmap. Nothing else touches either list. -/

structure SdpLib.Lawful {M : Type} (lib : SdpLib M) : Prop where
  getAttributes_removeAttribute : ∀ m t,
    lib.getAttributes (lib.removeAttribute m t) =
      (lib.getAttributes m).filter fun a => a.type ≠ t
  formats_removeAttribute : ∀ m t,
    lib.formats (lib.removeAttribute m t) = lib.formats m
  addAttribute : ∀ {m a m'}, lib.addAttribute m a = .ok m' →
    lib.getAttributes m' = lib.getAttributes m ++ [a] ∧
      lib.formats m' = lib.formats m
  setAttribute : ∀ m a,
    lib.setAttribute m a = lib.addAttribute (lib.removeAttribute m a.type) a
  removeCodecs : ∀ m, lib.formats (lib.removeCodecs m) = [] ∧
    (lib.getAttributes (lib.removeCodecs m)).filterMap SdpAttribute.asRtpmap = []
  addCodec : ∀ {m r m'}, lib.addCodec m r = .ok m' →
    lib.formats m' = lib.formats m ++ [r.payloadType] ∧
      lib.getAttributes m' = lib.getAttributes m ++ [.rtpmap r]
  setPort : ∀ m port,
    lib.getAttributes (lib.setPort m port) = lib.getAttributes m ∧
      lib.formats (lib.setPort m port) = lib.formats m
  setConnection : ∀ m c,
    lib.getAttributes (lib.setConnection m c) = lib.getAttributes m ∧
      lib.formats (lib.setConnection m c) = lib.formats m

/-- The attributes that go with the codecs of a section. -/
def SdpAttributeType.isCodec (t : SdpAttributeType) : Bool :=
  decide (t ∈ [.rtpmap, .other "fmtp", .other "rtcp-fb", .other "sctpmap",
    .other "sctp-port"])

def SdpAttribute.isCodec (a : SdpAttribute) : Bool := a.type.isCodec

/-- `get_attribute` finds the first attribute of a type, of a section in the
section's own list and of a session in the session's own. `remove_codecs` drops
codec attributes only, and a new session has no attribute but those added. -/
structure SdpLib.Documented {M : Type} (lib : SdpLib M) : Prop
    extends lib.Lawful where
  getAttribute : ∀ m t, lib.getAttribute m t =
    (lib.getAttributes m).find? fun a => a.type = t
  filter_removeCodecs : ∀ m,
    ((lib.getAttributes (lib.removeCodecs m)).filter fun a => !a.isCodec) =
      (lib.getAttributes m).filter fun a => !a.isCodec
  sessionAttribute : ∀ s t, lib.sessionAttribute s t =
    s.attributes.find? fun a => a.type = t
  newSession : ∀ version origin session,
    (lib.newSession version origin session).attributes = []
  addSessionAttribute : ∀ {s a s'}, lib.addSessionAttribute s a = .ok s' →
    s'.attributes = s.attributes ++ [a]

/-! ## Sections as two lists

An instance to evaluate offers with: a section is its formats and its
attributes, every attribute is let through, and the one text that parses is
given with what it parses to. -/

structure PlainMedia where
  formats : List UInt8
  attributes : List SdpAttribute
  port : UInt32
  connection : Option SdpConnection

namespace PlainMedia

def remove (m : PlainMedia) (t : SdpAttributeType) : PlainMedia :=
  { m with attributes := m.attributes.filter fun a => a.type ≠ t }

def add (m : PlainMedia) (a : SdpAttribute) : PlainMedia :=
  { m with attributes := m.attributes ++ [a] }

end PlainMedia

def SdpLib.plain (text : String) (offer : SdpSession PlainMedia) :
    SdpLib PlainMedia where
  parseSdp s _ := if s = text then .ok offer else .error ⟨"unknown text"⟩
  newSession version origin session :=
    { version := version, origin := origin, session := some session
      timing := none, attributes := [], media := [] }
  sessionAttribute s t := s.attributes.find? fun a => a.type = t
  addSessionAttribute s a := .ok { s with attributes := s.attributes ++ [a] }
  display
    | .iceUfrag ufrag => "ice-ufrag:" ++ ufrag
    | _ => ""
  formats m := m.formats
  getAttributes m := m.attributes
  getAttribute m t := m.attributes.find? fun a => a.type = t
  removeAttribute := PlainMedia.remove
  addAttribute m a := .ok (m.add a)
  setAttribute m a := .ok ((m.remove a.type).add a)
  removeCodecs m := { m.remove .rtpmap with formats := [] }
  addCodec m r :=
    .ok { m.add (.rtpmap r) with formats := m.formats ++ [r.payloadType] }
  setPort m port := { m with port := port }
  setConnection m c := { m with connection := some c }

theorem SdpLib.parse_plain (text : String) (offer : SdpSession PlainMedia) :
    (SdpLib.plain text offer).parseSdp text true = .ok offer :=
  if_pos rfl

theorem asRtpmap_eq_none_iff {a : SdpAttribute} :
    a.asRtpmap = none ↔ a.type ≠ .rtpmap := by
  cases a <;> simp [SdpAttribute.asRtpmap, SdpAttribute.type]

theorem SdpLib.lawful_plain (text : String) (offer : SdpSession PlainMedia) :
    (SdpLib.plain text offer).Lawful where
  getAttributes_removeAttribute _ _ := rfl
  formats_removeAttribute _ _ := rfl
  addAttribute h := by cases h; exact ⟨rfl, rfl⟩
  setAttribute _ _ := rfl
  removeCodecs m := by
    refine ⟨rfl, List.filterMap_eq_nil_iff.mpr fun a ha => ?_⟩
    exact asRtpmap_eq_none_iff.mpr (by simpa using (List.mem_filter.mp ha).2)
  addCodec h := by cases h; exact ⟨rfl, rfl⟩
  setPort _ _ := ⟨rfl, rfl⟩
  setConnection _ _ := ⟨rfl, rfl⟩

theorem SdpLib.documented_plain (text : String)
    (offer : SdpSession PlainMedia) : (SdpLib.plain text offer).Documented where
  toLawful := lawful_plain text offer
  getAttribute _ _ := rfl
  filter_removeCodecs m := by
    refine List.filter_filter.trans (List.filter_congr fun a _ => ?_)
    by_cases ha : a.type = .rtpmap
    · simp [SdpAttribute.isCodec, SdpAttributeType.isCodec, ha]
    · simp [ha]
  sessionAttribute _ _ := rfl
  newSession _ _ _ := rfl
  addSessionAttribute h := by cases h; rfl

end RStreamer
