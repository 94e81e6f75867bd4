import RStreamer.Lib.Edits
import RStreamer.Sdp.Offer

/-!
# The attributes of an answered section

An answer is the offer's own sections, edited by some fifteen calls of the
crate. Codecs apart, the calls only remove, add and replace attributes, so the
attributes of a section of the answer are those of the offer's section after a
script of edits, and the script depends on the section in one place: which way
its direction is turned. What is left of one kind of attribute can then be read
off the edits of that kind.
-/

namespace RStreamer

open Edit (edit ofTag)

abbrev AttributeEdit := Edit SdpAttribute SdpAttributeType

/-- The edits of `turnDirection`. -/
def turnEdits (l : List SdpAttribute) : List AttributeEdit :=
  if (ofTag SdpAttribute.type .recvonly l).isEmpty then
    if (ofTag SdpAttribute.type .sendonly l).isEmpty then []
    else [.remove .sendonly, .set .recvonly]
  else [.remove .recvonly, .set .sendonly]

/-- The edits of `removeUselessAttributes`. -/
def uselessEdits (l : List SdpAttribute) : List AttributeEdit :=
  .remove .msid :: turnEdits l ++ [.remove .ssrcGroup, .remove .ssrc]

/-- The edits of `setAttributes`, the same for every section. -/
def serverEdits (server : ServerData) (addr : SocketAddr) (priority : UInt32) :
    List AttributeEdit :=
  [.set (.icePwd server.password), .set (.iceUfrag server.user),
    .set (.fingerprint ⟨.sha256, server.digest⟩), .set (.setup .passive),
    .set (.rtcp ⟨addr.port, some (.ip addr.ip)⟩), .set .rtcpMux,
    .add (.candidate (hostCandidate addr priority)), .set .endOfCandidates]

/-- The edits of a section whose attributes are `l`. -/
def answerEdits (server : ServerData) (addr : SocketAddr) (priority : UInt32)
    (l : List SdpAttribute) : List AttributeEdit :=
  uselessEdits l ++ serverEdits server addr priority

section Section

variable {M : Type} {lib : SdpLib M}

/-- The attributes of a section that are not about its codecs. -/
def SdpLib.others (lib : SdpLib M) (m : M) : List SdpAttribute :=
  (lib.getAttributes m).filter fun a => !a.isCodec

theorem SdpLib.ofTag_others (m : M) {t : SdpAttributeType}
    (ht : t.isCodec = false) : ofTag SdpAttribute.type t (lib.others m) =
      ofTag SdpAttribute.type t (lib.getAttributes m) := by
  rw [ofTag, ofTag, others, List.filter_filter]
  refine List.filter_congr fun a _ => ?_
  by_cases ha : a.type = t
  · simp [SdpAttribute.isCodec, ha, ht]
  · simp [ha]

namespace SdpLib.Documented

theorem others_removeAttribute (h : lib.Documented) (m : M)
    (t : SdpAttributeType) : lib.others (lib.removeAttribute m t) =
      (lib.others m).filter fun a => a.type ≠ t := by
  rw [others, others, h.getAttributes_removeAttribute, List.filter_filter,
    List.filter_filter]
  refine List.filter_congr fun a _ => ?_
  rw [Bool.and_comm]

theorem others_addAttribute (h : lib.Documented) {m m' : M} {a : SdpAttribute}
    (ha : a.isCodec = false) (hadd : lib.addAttribute m a = .ok m') :
    lib.others m' = lib.others m ++ [a] := by
  rw [others, (h.addAttribute hadd).1, List.filter_append,
    List.filter_cons_of_pos (by simp [ha]), List.filter_nil, others]

theorem others_setAttribute (h : lib.Documented) {m m' : M} {a : SdpAttribute}
    (ha : a.isCodec = false) (hset : lib.setAttribute m a = .ok m') :
    lib.others m' = ((lib.others m).filter fun b => b.type ≠ a.type) ++ [a] := by
  rw [h.setAttribute] at hset
  rw [h.others_addAttribute ha hset, h.others_removeAttribute]

theorem others_addCodecs (h : lib.Documented) :
    ∀ (rs : List SdpAttributeRtpmap) {m m' : M},
      rs.foldlM lib.addCodec m = .ok m' → lib.others m' = lib.others m := by
  intro rs
  induction rs with
  | nil =>
      intro m m' hm
      cases hm
      rfl
  | cons r rs ih =>
      intro m m' hm
      rw [List.foldlM_cons, bind_eq_ok] at hm
      obtain ⟨m₁, hadd, hrest⟩ := hm
      rw [ih hrest, others, (h.addCodec hadd).2, List.filter_append]
      exact List.append_nil _

theorem isSome_getAttribute (h : lib.Documented) (m : M) {t : SdpAttributeType}
    (ht : t.isCodec = false) : (lib.getAttribute m t).isSome =
      !(ofTag SdpAttribute.type t (lib.others m)).isEmpty := by
  rw [h.getAttribute, ofTag_others m ht, ofTag, Bool.eq_iff_iff]
  simp [List.filter_eq_nil_iff]

theorem others_turnDirection (h : lib.Documented) {m m' : M}
    (hm : turnDirection lib m = .ok m') :
    lib.others m' =
      edit SdpAttribute.type (lib.others m) (turnEdits (lib.others m)) := by
  rw [turnDirection, h.isSome_getAttribute m rfl,
    h.isSome_getAttribute m rfl] at hm
  rw [turnEdits]
  split at hm
  · next hrecv =>
      rw [Bool.not_eq_true'] at hrecv
      rw [hrecv, h.others_setAttribute rfl hm, h.others_removeAttribute]
      rfl
  · next hrecv =>
      rw [Bool.not_eq_true', Bool.not_eq_false] at hrecv
      rw [hrecv]
      split at hm
      · next hsend =>
          rw [Bool.not_eq_true'] at hsend
          rw [hsend, h.others_setAttribute rfl hm, h.others_removeAttribute]
          rfl
      · next hsend =>
          rw [Bool.not_eq_true', Bool.not_eq_false] at hsend
          rw [hsend]
          cases hm
          rfl

end SdpLib.Documented

/-- Taking out the `msid` does not change which way a section is turned. -/
theorem turnEdits_remove (l : List SdpAttribute) :
    turnEdits (l.filter fun a => a.type ≠ .msid) = turnEdits l := by
  have hframe : ∀ {t : SdpAttributeType}, t ≠ .msid →
      ofTag SdpAttribute.type t (l.filter fun a => a.type ≠ .msid) =
        ofTag SdpAttribute.type t l := by
    intro t ht
    refine Edit.filter_apply (e := (Edit.remove .msid : AttributeEdit))
      (fun a ha => ?_) l
    have hat : a.type = .msid := ha
    simpa [hat] using ht.symm
  rw [turnEdits, turnEdits, hframe (by decide), hframe (by decide)]

namespace SdpLib.Documented

theorem others_removeUselessAttributes (h : lib.Documented) {m m' : M}
    (hm : removeUselessAttributes lib m = .ok m') :
    lib.others m' = edit SdpAttribute.type (lib.others m)
      (uselessEdits (lib.others m)) := by
  rw [removeUselessAttributes, bind_eq_ok] at hm
  obtain ⟨m₁, hturn, hm'⟩ := hm
  cases hm'
  rw [h.others_removeAttribute, h.others_removeAttribute,
    h.others_turnDirection hturn, h.others_removeAttribute, turnEdits_remove,
    uselessEdits, edit, edit, List.cons_append, List.foldl_cons,
    List.foldl_append]
  rfl

theorem others_setAttributes (h : lib.Documented) {m m' : M}
    {server : ServerData} {addr : SocketAddr} {priority : UInt32}
    (hm : setAttributes lib m server addr priority = .ok m') :
    lib.others m' = edit SdpAttribute.type (lib.others m)
      (serverEdits server addr priority) := by
  simp only [setAttributes, bind_eq_ok] at hm
  obtain ⟨m₀, hcodecs, m₁, hpwd, m₂, hufrag, m₃, hfinger, m₄, hsetup, m₅, hrtcp,
    m₆, hmux, m₇, hcand, hend⟩ := hm
  have hcodec : lib.others m₀ = lib.others m :=
    (h.others_addCodecs _ hcodecs).trans (h.filter_removeCodecs m)
  rw [h.others_setAttribute rfl hend, h.others_addAttribute rfl hcand,
    h.others_setAttribute rfl hmux, h.others_setAttribute rfl hrtcp,
    h.others_setAttribute rfl hsetup, h.others_setAttribute rfl hfinger,
    h.others_setAttribute rfl hufrag, h.others_setAttribute rfl hpwd, hcodec]
  rfl

/-- The attributes of an answered section, from those of the offer's. -/
theorem others_answerSection (h : lib.Documented) {m m' : M}
    {server : ServerData} {addr : SocketAddr} {priority : UInt32}
    (hm : answerSection lib m server addr priority = .ok m') :
    lib.others m' = edit SdpAttribute.type (lib.others m)
      (answerEdits server addr priority (lib.others m)) := by
  simp only [answerSection, bind_eq_ok] at hm
  obtain ⟨m₁, hremove, m₂, hset, hm'⟩ := hm
  cases hm'
  have hport : lib.others (lib.setPort m addr.port.toUInt32) = lib.others m := by
    rw [others, others, (h.setPort m _).1]
  have hconn : lib.others (lib.setConnection m₂ ⟨.ip addr.ip, none, none⟩) =
      lib.others m₂ := by
    rw [others, others, (h.setConnection m₂ _).1]
  rw [hconn, h.others_setAttributes hset,
    h.others_removeUselessAttributes hremove, hport, answerEdits,
    Edit.edit_append]

end SdpLib.Documented

/-- A relation that for the pairs of two related lists is a property of the left
item holds of all pairs if the property holds of the left list. -/
theorem forall₂_iff_forall_mem {α β : Type} {S R : α → β → Prop} {p : α → Prop}
    {l : List α} {u : List β} (hlu : List.Forall₂ S l u)
    (h : ∀ a b, S a b → (R a b ↔ p a)) :
    List.Forall₂ R l u ↔ ∀ a ∈ l, p a := by
  constructor
  · intro hall
    have hboth : List.Forall₂ (fun a b => p a ∧ R a b) l u :=
      hlu.mp (fun a b hs hr => ⟨(h a b hs).mp hr, hr⟩) hall
    exact ((List.forall₂_and_left l u).mp hboth).1
  · intro hp
    refine ((List.forall₂_and_left l u).mpr ⟨hp, hlu⟩).imp ?_
    rintro a b ⟨ha, hs⟩
    exact (h a b hs).mpr ha

/-- The sections of an answer are those of the offer, one by one. -/
theorem forall₂_answerMedia {server : ServerData} {addr : SocketAddr}
    {priority : Nat → UInt32} :
    ∀ {media : List M} {i : Nat} {answer : List M},
      answerMedia lib server addr priority i media = .ok answer →
      List.Forall₂ (fun m m' => ∃ p, answerSection lib m server addr p = .ok m')
        media answer := by
  intro media
  induction media with
  | nil =>
      intro i answer ha
      cases ha
      exact .nil
  | cons m ms ih =>
      intro i answer ha
      simp only [answerMedia, bind_eq_ok] at ha
      obtain ⟨m', hm, ms', hms, ha'⟩ := ha
      cases ha'
      exact .cons ⟨_, hm⟩ (ih hms)

end Section

/-! ## Offers of one section -/

/-- A video section of a client with the name `u`, with the given attributes
after the ones every section has. -/
def clientSection (u : String) (own : List SdpAttribute) : PlainMedia where
  formats := [96]
  attributes := .iceUfrag u :: .rtpmap ⟨96, "VP8", 90000, none⟩ :: own
  port := 9
  connection := some ⟨.ip (SocketAddr.host 1).ip, none, none⟩

/-- The offer of such a section, with the given attributes of the session. -/
def clientOffer (u : String) (session own : List SdpAttribute) :
    SdpSession PlainMedia where
  version := 0
  origin := ⟨"-", 1, 2, .ip (SocketAddr.host 1).ip⟩
  session := some "-"
  timing := some ⟨0, 0⟩
  attributes := session
  media := [clientSection u own]

/-- The text of such an offer, with the lines of these attributes. -/
def clientText (u session own : String) : String :=
  "v=0\r\no=- 1 2 IN IP4 10.0.0.1\r\ns=-\r\nt=0 0\r\n" ++ session ++
    "m=video 9 UDP/TLS/RTP/SAVPF 96\r\nc=IN IP4 10.0.0.1\r\n" ++
    "a=ice-ufrag:" ++ u ++ "\r\na=rtpmap:96 VP8/90000\r\n" ++ own

def answerClient (text : String) (offer : SdpSession PlainMedia) :
    Response PlainMedia :=
  generateStreamerResponse (SdpLib.plain text offer) text
    (some ⟨"server", "password", []⟩) 1 (.host 9) ⟨fun _ => 0, 7, fun _ => 0⟩

end RStreamer
