import RStreamer.Rtp.Srtp

/-!
# RTP headers (`rtp/core.rs`)

The recogniser and the parser of the fixed RTP header, and the in-place rewrite
of its two counters (`client/rtc_actor.rs`). The reads are the panicking ones
of `Lib/Bytes.lean`; `isRtpHeader_eq` and `isRtcp_eq` say that the length test in
front of them covers every index, and give the value.
-/

namespace RStreamer

open Bytes

/-- `RtpHeader` -/
structure RtpHeader where
  marker : Bool
  payload : UInt8
  sequence : UInt16
  timestamp : UInt32
  deriving DecidableEq, Repr

namespace RtpHeader

/-- `RtpHeader::is_rtp_header` -/
def isRtpHeader (buf : DataPacket) : Except Panic Bool := do
  if buf.length ≤ 12 then
    return false
  let version := (← index buf 0) >>> 6
  if version ≠ 2 then
    return false
  return true

/-- `RtpHeader::from_buf` -/
def fromBuf (buf : DataPacket) : Except Panic (Except ErrorParse RtpHeader) := do
  if !(← isRtpHeader buf) then
    return .error .unsupportedFormat
  let sequence ← readU16 (← slice buf 2 4)
  let timestamp ← readU32 (← slice buf 4 8)
  let b₁ ← index buf 1
  return .ok {
    marker := b₁ >>> 7 == 1
    payload := b₁ &&& 0b01111111
    sequence := sequence
    timestamp := timestamp }

end RtpHeader

/-- `is_rtcp` -/
def isRtcp (buf : DataPacket) : Except Panic Bool := do
  if !(← RtpHeader.isRtpHeader buf) then
    return false
  if (← index buf 1) < 200 || (← index buf 1) > 206 then
    return false
  return true

/-- `replace_sequence_n_timestamp`, whose two slices panic on a buffer of fewer than
eight bytes. -/
def replaceSequenceNTimestamp? (buf : DataPacket) (sequence : UInt16)
    (timestamp : UInt32) : Except Panic DataPacket := do
  let buf ← writeAt buf 2 4 (be16 sequence)
  writeAt buf 4 8 (be32 timestamp)

/-- What it leaves of a buffer it does not panic on
(`replaceSequenceNTimestamp?_eq`). A packet keeps its header when it is decrypted, so
there is no other in `RtcActor` (`RtcActor.rewritable_of_unprotect`). -/
def replaceSequenceNTimestamp (buf : DataPacket) (sequence : UInt16)
    (timestamp : UInt32) : DataPacket :=
  overwrite (overwrite buf 2 (be16 sequence)) 4 (be32 timestamp)

/-- `calculate_payload` -/
def calculatePayload (marker : Bool) (payload : UInt8) : UInt8 :=
  payload ||| (marker.toUInt8 <<< 7)

/-! ## What the readers return -/

/-- More than twelve bytes, and version two in the top bits of the first. -/
def HasRtpHeader (buf : DataPacket) : Prop :=
  12 < buf.length ∧ buf.getD 0 0 >>> 6 = 2

instance (buf : DataPacket) : Decidable (HasRtpHeader buf) :=
  inferInstanceAs (Decidable (_ ∧ _))

theorem RtpHeader.isRtpHeader_eq (buf : DataPacket) :
    RtpHeader.isRtpHeader buf = .ok (decide (HasRtpHeader buf)) := by
  simp only [RtpHeader.isRtpHeader, HasRtpHeader]
  by_cases hlen : buf.length ≤ 12
  · rw [if_pos hlen]
    simp only [show ¬ 12 < buf.length by omega, false_and, decide_false]
    rfl
  · rw [if_neg hlen, index_ok (by omega), ok_bind]
    by_cases hv : buf.getD 0 0 >>> 6 = 2
    · simp only [hv, show 12 < buf.length by omega]
      rfl
    · simp only [hv, and_false, decide_false, ne_eq, not_false_eq_true,
        if_true]
      rfl

theorem isRtcp_eq (buf : DataPacket) : isRtcp buf =
    .ok (decide (HasRtpHeader buf ∧ 200 ≤ buf.getD 1 0 ∧ buf.getD 1 0 ≤ 206)) := by
  rw [isRtcp, RtpHeader.isRtpHeader_eq, ok_bind]
  by_cases hh : HasRtpHeader buf
  · rw [index_ok (show 1 < buf.length by have := hh.1; omega)]
    simp only [hh, decide_true, true_and, ok_bind, Bool.not_true,
      Bool.false_eq_true, if_false]
    by_cases hlo : buf.getD 1 0 < 200
    · have hlo' : ¬ 200 ≤ buf.getD 1 0 := UInt8.not_le.mpr hlo
      simp only [hlo, hlo', decide_true, Bool.true_or, if_true, false_and,
        decide_false]
      rfl
    · have hlo' : 200 ≤ buf.getD 1 0 := UInt8.not_lt.mp hlo
      by_cases hhi : buf.getD 1 0 ≤ 206
      · have hhi' : ¬ buf.getD 1 0 > 206 := UInt8.not_lt.mpr hhi
        simp only [hlo, hlo', hhi, hhi', decide_true, decide_false,
          Bool.or_self, Bool.false_eq_true, if_false, and_self]
        rfl
      · have hhi' : buf.getD 1 0 > 206 := UInt8.not_le.mp hhi
        simp only [hlo, hlo', hhi, hhi', decide_true, decide_false,
          Bool.or_true, if_true, and_false]
        rfl
  · simp only [hh, decide_false, false_and, Bool.not_false, if_true]
    rfl

theorem RtpHeader.fromBuf_eq (buf : DataPacket) :
    RtpHeader.fromBuf buf = .ok (if HasRtpHeader buf then
      .ok {
        marker := buf.getD 1 0 >>> 7 == 1
        payload := buf.getD 1 0 &&& 0b01111111
        sequence := ofBe16 (buf.getD 2 0) (buf.getD 3 0)
        timestamp := ofBe32 (buf.getD 4 0) (buf.getD 5 0) (buf.getD 6 0)
          (buf.getD 7 0) }
      else .error .unsupportedFormat) := by
  rw [RtpHeader.fromBuf, RtpHeader.isRtpHeader_eq, ok_bind]
  by_cases hh : HasRtpHeader buf
  · have hlen := hh.1
    have hseq := readU16_slice (show 2 + 2 ≤ buf.length by omega)
    have hts := readU32_slice (show 4 + 4 ≤ buf.length by omega)
    simp only [hh, decide_true, Bool.not_true, Bool.false_eq_true, if_false,
      if_true]
    rw [← bind_assoc, hseq, ok_bind, ← bind_assoc, hts, ok_bind,
      index_ok (by omega), ok_bind]
    rfl
  · simp only [hh, decide_false, Bool.not_false, if_true, if_false]
    rfl

theorem replaceSequenceNTimestamp_getElem?_one {buf : DataPacket}
    (h : 2 ≤ buf.length) (sequence : UInt16) (timestamp : UInt32) :
    (replaceSequenceNTimestamp buf sequence timestamp)[1]? = buf[1]? := by
  have htake : ∀ (b bytes : List UInt8) (i : Nat), 2 ≤ b.length → 2 ≤ i →
      (overwrite b i bytes)[1]? = b[1]? := by
    intro b bytes i hb hi
    have hlen : 1 < (b.take i).length := by
      rw [List.length_take]
      omega
    rw [overwrite, List.append_assoc, List.getElem?_append_left hlen,
      List.getElem?_take_of_lt (by omega)]
  have hlen : 2 ≤ (overwrite buf 2 (be16 sequence)).length := by
    simp only [overwrite, List.length_append, List.length_take]
    omega
  rw [replaceSequenceNTimestamp, htake _ _ 4 hlen (by omega),
    htake _ _ 2 h (by omega)]

end RStreamer
