import RStreamer.Proofs.ReceivePath
import RStreamer.Proofs.RequestSoundness

/-!
# Whether the kinds of datagrams overlap

`WebRtcRequest::from` asks three recognisers, and the first that accepts decides.
They are written in three modules and look at different things, but each settles
the first byte: the two top bits of an RTP header, the type of a binding
request, the range of DTLS records. No byte is left to two of them
(`eq_of_accepts`), so the order they are asked in does not matter
(`classifyBy_perm`).

The ranges are those the multiplexing standard assigns to the three protocols,
with one exception. DTLS ends at 63, and `is_dtls` at 64: a datagram of any other
first byte is sorted as it should be, and one that starts with 64 is taken for
DTLS (`partitioned_iff`).
-/

namespace RStreamer

open Bytes

/-- The tests of `WebRtcRequest::from`. -/
inductive Recogniser where
  | rtp
  | stun
  | dtls
  deriving DecidableEq, Repr

namespace Recogniser

def Accepts (buf : DataPacket) : Recogniser → Prop
  | .rtp => RtpHeader.isRtpHeader buf = .ok true
  | .stun => ∃ req, Stun.parseStunBindingRequest buf = .ok (some req)
  | .dtls => isDtls buf = .ok true

/-- One test, with the request it gives if it accepts. -/
def ask (buf : DataPacket) (addr : SocketAddr) :
    Recogniser → Except Panic (Option WebRtcRequest)
  | .rtp => (RtpHeader.isRtpHeader buf).map fun b =>
      if b then some (.rtc buf addr) else none
  | .stun => (Stun.parseStunBindingRequest buf).map fun o =>
      o.map fun req => .stun req addr
  | .dtls => (isDtls buf).map fun b =>
      if b then some (.dtls buf addr) else none

end Recogniser

/-- The test a request comes from. -/
def WebRtcRequest.test : WebRtcRequest → Option Recogniser
  | .rtc _ _ => some .rtp
  | .stun _ _ => some .stun
  | .dtls _ _ => some .dtls
  | .unknown => none

/-- `WebRtcRequest::from` with its tests in the given order. -/
def classifyBy (buf : DataPacket) (addr : SocketAddr) :
    List Recogniser → Except Panic WebRtcRequest
  | [] => return .unknown
  | t :: ts => do
      match ← t.ask buf addr with
      | some req => return req
      | none => classifyBy buf addr ts

/-- The order of the source. -/
theorem fromDatagram_eq_classifyBy (buf : DataPacket) (addr : SocketAddr) :
    WebRtcRequest.fromDatagram buf addr =
      classifyBy buf addr [.rtp, .stun, .dtls] := by
  simp only [WebRtcRequest.fromDatagram, classifyBy, Recogniser.ask]
  cases RtpHeader.isRtpHeader buf with
  | error e => rfl
  | ok isRtp =>
      cases isRtp with
      | true => rfl
      | false =>
          cases Stun.parseStunBindingRequest buf with
          | error e => rfl
          | ok stun =>
              cases stun with
              | some req => rfl
              | none =>
                  cases isDtls buf with
                  | error e => rfl
                  | ok dtls => cases dtls <;> rfl

/-! ## The first byte -/

theorem isDtls_cons (b : UInt8) (rest : DataPacket) :
    isDtls (b :: rest) = .ok (decide (20 ≤ b ∧ b ≤ 64)) := by
  have hindex : index (b :: rest) 0 = .ok b := rfl
  rw [isDtls, hindex, ok_bind]
  by_cases h : b < 20
  · rw [if_pos h, decide_eq_false (fun hb => absurd h (UInt8.not_lt.mpr hb.1))]
    rfl
  · have hle : 20 ≤ b := UInt8.not_lt.mp h
    rw [if_neg h, ok_bind]
    simp only [hle, true_and]
    rfl

namespace Recogniser

/-- The numbers the first byte of an accepted datagram can be. -/
def first : Recogniser → Nat → Prop
  | .rtp => fun n => 128 ≤ n ∧ n ≤ 191
  | .stun => fun n => n = 0
  | .dtls => fun n => 20 ≤ n ∧ n ≤ 64

theorem first_of_accepts {t : Recogniser} {b : UInt8} {rest : DataPacket}
    (h : t.Accepts (b :: rest)) : t.first b.toNat := by
  cases t with
  | rtp =>
      rw [Accepts, RtpHeader.isRtpHeader_eq] at h
      have hv : b >>> 6 = 2 := (of_decide_eq_true (Except.ok.inj h)).2
      have hv' : b.toNat / 64 = 2 := by
        rw [← UInt8.toNat_inj, UInt8.toNat_shiftRight,
          Nat.shiftRight_eq_div_pow] at hv
        exact hv
      show 128 ≤ b.toNat ∧ b.toNat ≤ 191
      omega
  | stun =>
      obtain ⟨req, hreq⟩ := h
      have htype := (Stun.hasStunHeader_of_parse hreq).type
      cases rest with
      | nil => cases htype
      | cons b₁ rest => exact congrArg UInt8.toNat (List.cons.inj htype).1
  | dtls =>
      rw [Accepts, isDtls_cons] at h
      have hb : 20 ≤ b ∧ b ≤ 64 := of_decide_eq_true (Except.ok.inj h)
      exact ⟨UInt8.le_iff_toNat_le.mp hb.1, UInt8.le_iff_toNat_le.mp hb.2⟩

theorem eq_of_first {t t' : Recogniser} {n : Nat} (h : t.first n)
    (h' : t'.first n) : t = t' := by
  cases t <;> cases t' <;> simp only [first] at h h' <;> first | rfl | omega

theorem eq_of_accepts {t t' : Recogniser} {b : UInt8} {rest : DataPacket}
    (h : t.Accepts (b :: rest)) (h' : t'.Accepts (b :: rest)) : t = t' :=
  eq_of_first (first_of_accepts h) (first_of_accepts h')

/-! ## The order of the tests -/

theorem ask_returns (t : Recogniser) (b : UInt8) (rest : DataPacket)
    (addr : SocketAddr) : ∃ o, t.ask (b :: rest) addr = .ok o := by
  cases t with
  | rtp =>
      rw [ask, RtpHeader.isRtpHeader_eq]
      exact ⟨_, rfl⟩
  | stun =>
      obtain ⟨res, hres⟩ := Stun.parseStunBindingRequest_ok (b :: rest)
      rw [ask, hres]
      exact ⟨_, rfl⟩
  | dtls =>
      rw [ask, isDtls_cons]
      exact ⟨_, rfl⟩

theorem exists_of_map_eq_ok {ε α β : Type} {x : Except ε α} {f : α → β}
    {b : β} (h : x.map f = .ok b) : ∃ a, x = .ok a ∧ f a = b := by
  cases x with
  | error e => cases h
  | ok a => exact ⟨a, rfl, Except.ok.inj h⟩

theorem accepts_of_ask {t : Recogniser} {buf : DataPacket} {addr : SocketAddr}
    {req : WebRtcRequest} (h : t.ask buf addr = .ok (some req)) :
    t.Accepts buf ∧ req.test = some t := by
  cases t with
  | rtp =>
      obtain ⟨isRtp, hask, hreq⟩ := exists_of_map_eq_ok h
      cases isRtp with
      | true => cases hreq; exact ⟨hask, rfl⟩
      | false => cases hreq
  | stun =>
      obtain ⟨stun, hask, hreq⟩ := exists_of_map_eq_ok h
      cases stun with
      | some stun => cases hreq; exact ⟨⟨stun, hask⟩, rfl⟩
      | none => cases hreq
  | dtls =>
      obtain ⟨dtls, hask, hreq⟩ := exists_of_map_eq_ok h
      cases dtls with
      | true => cases hreq; exact ⟨hask, rfl⟩
      | false => cases hreq

end Recogniser

open Recogniser

/-- A request comes from the test that accepted the datagram. -/
theorem accepts_of_classifyBy {buf : DataPacket} {addr : SocketAddr}
    {req : WebRtcRequest} {t : Recogniser} (ht : req.test = some t) :
    ∀ {ts : List Recogniser}, classifyBy buf addr ts = .ok req →
      t.Accepts buf := by
  intro ts
  induction ts with
  | nil =>
      intro h
      cases h
      cases ht
  | cons t' ts ih =>
      intro h
      rw [classifyBy] at h
      cases hask : ask buf addr t' with
      | error e => rw [hask] at h; cases h
      | ok o =>
          rw [hask, ok_bind] at h
          cases o with
          | some req' =>
              cases h
              obtain ⟨hacc, ht'⟩ := accepts_of_ask hask
              rw [ht] at ht'
              cases ht'
              exact hacc
          | none => exact ih h

/-- Exclusive tests can be asked in any order. -/
theorem classifyBy_perm (b : UInt8) (rest : DataPacket) (addr : SocketAddr)
    {ts ts' : List Recogniser} (h : ts.Perm ts') :
    classifyBy (b :: rest) addr ts = classifyBy (b :: rest) addr ts' := by
  induction h with
  | nil => rfl
  | cons t _ ih =>
      rw [classifyBy, classifyBy, ih]
  | swap t t' ts =>
      obtain ⟨o, ho⟩ := ask_returns t b rest addr
      obtain ⟨o', ho'⟩ := ask_returns t' b rest addr
      simp only [classifyBy, ho, ho', ok_bind]
      cases o with
      | none => cases o' <;> rfl
      | some req =>
          cases o' with
          | none => rfl
          | some req' =>
              obtain rfl := eq_of_accepts (accepts_of_ask ho).1
                (accepts_of_ask ho').1
              rw [ho] at ho'
              cases ho'
              rfl
  | trans _ _ ih ih' => exact ih.trans ih'

/-! ## The ranges -/

/-- No two tests accept the datagram, their order does not matter to it, and
its first byte is in the range of the protocol it is taken for. -/
structure Partitioned (buf : DataPacket) (addr : SocketAddr) : Prop where
  exclusive : ∀ {t t' : Recogniser}, t.Accepts buf → t'.Accepts buf → t = t'
  order : ∀ {ts : List Recogniser}, ts.Perm [.rtp, .stun, .dtls] →
    classifyBy buf addr ts = WebRtcRequest.fromDatagram buf addr
  rtc : ∀ {m a}, WebRtcRequest.fromDatagram buf addr = .ok (.rtc m a) →
    128 ≤ buf.getD 0 0 ∧ buf.getD 0 0 ≤ 191
  stun : ∀ {req a}, WebRtcRequest.fromDatagram buf addr = .ok (.stun req a) →
    buf.getD 0 0 ≤ 3
  dtls : ∀ {m a}, WebRtcRequest.fromDatagram buf addr = .ok (.dtls m a) →
    20 ≤ buf.getD 0 0 ∧ buf.getD 0 0 ≤ 63

theorem first_of_fromDatagram {b : UInt8} {rest : DataPacket}
    {addr : SocketAddr} {req : WebRtcRequest} {t : Recogniser}
    (ht : req.test = some t)
    (h : WebRtcRequest.fromDatagram (b :: rest) addr = .ok req) :
    t.first b.toNat := by
  rw [fromDatagram_eq_classifyBy] at h
  exact first_of_accepts (accepts_of_classifyBy ht h)

theorem fromDatagram_sixty_four (rest : DataPacket) (addr : SocketAddr) :
    WebRtcRequest.fromDatagram (64 :: rest) addr =
      .ok (.dtls (64 :: rest) addr) := by
  have hperm : [Recogniser.rtp, .stun, .dtls].Perm [.dtls, .rtp, .stun] := by
    decide
  rw [fromDatagram_eq_classifyBy, classifyBy_perm 64 rest addr hperm,
    classifyBy, ask, isDtls_cons]
  rfl

/-- A datagram is sorted as the ranges say exactly if it does not start with
64, the byte behind the last one of DTLS. -/
theorem partitioned_iff (b : UInt8) (rest : DataPacket) (addr : SocketAddr) :
    Partitioned (b :: rest) addr ↔ b ≠ 64 := by
  refine ⟨?_, fun hb => ?_⟩
  · rintro h rfl
    have hle : (64 : UInt8) ≤ 63 :=
      (h.dtls (fromDatagram_sixty_four rest addr)).2
    exact absurd hle (by decide)
  · refine ⟨eq_of_accepts, ?_, ?_, ?_, ?_⟩
    · intro ts hts
      rw [fromDatagram_eq_classifyBy]
      exact classifyBy_perm b rest addr hts
    · intro m a h
      obtain ⟨hlo, hhi⟩ := first_of_fromDatagram rfl h
      exact ⟨UInt8.le_iff_toNat_le.mpr hlo, UInt8.le_iff_toNat_le.mpr hhi⟩
    · intro req a h
      have hfirst : Recogniser.stun.first b.toNat :=
        first_of_fromDatagram rfl h
      have hzero : b.toNat = 0 := hfirst
      have hle : b.toNat ≤ 3 := by omega
      exact UInt8.le_iff_toNat_le.mpr hle
    · intro m a h
      obtain ⟨hlo, hhi⟩ := first_of_fromDatagram rfl h
      have hne : b.toNat ≠ 64 := fun e => hb (UInt8.toNat_inj.mp e)
      have hlt : b.toNat ≤ 63 := by omega
      exact ⟨UInt8.le_iff_toNat_le.mpr hlo, UInt8.le_iff_toNat_le.mpr hlt⟩

/-- A datagram of the one byte 64 goes to the DTLS side. -/
theorem dtls_range_one_too_long :
    ¬ ∀ (buf : DataPacket) (addr : SocketAddr), buf ≠ [] →
      Partitioned buf addr := by
  intro h
  have hpart := h [64] (.host 1) (by decide)
  have hle : (64 : UInt8) ≤ 63 :=
    (hpart.dtls (fromDatagram_sixty_four [] (.host 1))).2
  exact absurd hle (by decide)

end RStreamer
