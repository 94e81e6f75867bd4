import RStreamer.Rtp.Core

/-!
# Header rewriting is a lens

`replace_sequence_n_timestamp` writes two numbers into bytes 2 to 7 of a packet
and `RtpHeader::from_buf` reads them back, in another file and with its own
offsets. A packet with a header is longer than twelve bytes, so it is eight
bytes and a rest (`exists_front`), the writer replaces the last six of the
eight (`replace_front`), and the readers look at these six and at the first
two. The laws of a lens are then those of the bytes of a number.
-/

namespace RStreamer

open Bytes

/-! ## The eight bytes in front -/

theorem exists_front {buf : DataPacket} (h : 8 ≤ buf.length) :
    ∃ b₀ b₁ s₀ s₁ t₀ t₁ t₂ t₃ rest, buf =
      b₀ :: b₁ :: s₀ :: s₁ :: t₀ :: t₁ :: t₂ :: t₃ :: rest := by
  obtain ⟨b₀, buf, rfl, h7⟩ := exists_cons h
  obtain ⟨b₁, buf, rfl, h6⟩ := exists_cons h7
  obtain ⟨s₀, buf, rfl, h5⟩ := exists_cons h6
  obtain ⟨s₁, buf, rfl, h4⟩ := exists_cons h5
  obtain ⟨t₀, buf, rfl, h3⟩ := exists_cons h4
  obtain ⟨t₁, buf, rfl, h2⟩ := exists_cons h3
  obtain ⟨t₂, buf, rfl, h1⟩ := exists_cons h2
  obtain ⟨t₃, buf, rfl, -⟩ := exists_cons h1
  exact ⟨b₀, b₁, s₀, s₁, t₀, t₁, t₂, t₃, buf, rfl⟩

theorem replace_front (b₀ b₁ s₀ s₁ t₀ t₁ t₂ t₃ : UInt8) (rest : DataPacket)
    (s : UInt16) (t : UInt32) :
    replaceSequenceNTimestamp
        (b₀ :: b₁ :: s₀ :: s₁ :: t₀ :: t₁ :: t₂ :: t₃ :: rest) s t =
      b₀ :: b₁ :: (be16 s ++ (be32 t ++ rest)) := rfl

/-- The two writes of the source are inside a buffer of eight bytes. -/
theorem replaceSequenceNTimestamp?_eq {buf : DataPacket} (h : 8 ≤ buf.length)
    (s : UInt16) (t : UInt32) : replaceSequenceNTimestamp? buf s t =
      .ok (replaceSequenceNTimestamp buf s t) := by
  obtain ⟨b₀, b₁, s₀, s₁, t₀, t₁, t₂, t₃, rest, rfl⟩ := exists_front h
  have hseq : writeAt (b₀ :: b₁ :: s₀ :: s₁ :: t₀ :: t₁ :: t₂ :: t₃ :: rest) 2 4
      (be16 s) = .ok (b₀ :: b₁ :: (be16 s ++ t₀ :: t₁ :: t₂ :: t₃ :: rest)) :=
    @writeAt_append [b₀, b₁] [s₀, s₁] _ _ 2 4 rfl rfl rfl
  rw [replaceSequenceNTimestamp?, hseq, ok_bind, replace_front]
  exact @writeAt_append (b₀ :: b₁ :: be16 s) [t₀, t₁, t₂, t₃] rest (be32 t) 4 8
    rfl rfl rfl

/-- On any other buffer one of the two slices panics. -/
theorem replaceSequenceNTimestamp?_ok_iff {buf : DataPacket} {s : UInt16}
    {t : UInt32} :
    (∃ out, replaceSequenceNTimestamp? buf s t = .ok out) ↔ 8 ≤ buf.length := by
  refine ⟨?_, fun h => ⟨_, replaceSequenceNTimestamp?_eq h s t⟩⟩
  rintro ⟨out, hout⟩
  rw [replaceSequenceNTimestamp?, writeAt] at hout
  by_cases h4 : 4 ≤ buf.length
  · have hnumber : (be16 s).length = 4 - 2 := rfl
    have hlen : (overwrite buf 2 (be16 s)).length = buf.length := by
      simp [overwrite, be16]
      omega
    rw [if_pos ⟨by decide, h4⟩, if_pos hnumber, ok_bind, writeAt, hlen] at hout
    by_contra h8
    rw [if_neg fun h => h8 h.2] at hout
    cases hout
  · rw [if_neg fun h => h4 h.2] at hout
    cases hout

/-! ## What a rewrite leaves alone -/

theorem length_replace {buf : DataPacket} (h : 8 ≤ buf.length) (s : UInt16)
    (t : UInt32) : (replaceSequenceNTimestamp buf s t).length = buf.length := by
  obtain ⟨b₀, b₁, s₀, s₁, t₀, t₁, t₂, t₃, rest, rfl⟩ := exists_front h
  rfl

theorem getElem?_replace {buf : DataPacket} (h : 8 ≤ buf.length) (s : UInt16)
    (t : UInt32) {i : Nat} (hi : i < 2 ∨ 8 ≤ i) :
    (replaceSequenceNTimestamp buf s t)[i]? = buf[i]? := by
  obtain ⟨b₀, b₁, s₀, s₁, t₀, t₁, t₂, t₃, rest, rfl⟩ := exists_front h
  rw [replace_front]
  rcases hi with hlt | hle
  · have h01 : i = 0 ∨ i = 1 := by omega
    rcases h01 with rfl | rfl <;> rfl
  · obtain ⟨k, rfl⟩ := Nat.exists_eq_add_of_le' hle
    rfl

theorem getD_replace {buf : DataPacket} (h : 8 ≤ buf.length) (s : UInt16)
    (t : UInt32) {i : Nat} (hi : i < 2 ∨ 8 ≤ i) :
    (replaceSequenceNTimestamp buf s t).getD i 0 = buf.getD i 0 := by
  rw [List.getD_eq_getElem?_getD, getElem?_replace h s t hi,
    ← List.getD_eq_getElem?_getD]

theorem HasRtpHeader.eight_le {buf : DataPacket} (h : HasRtpHeader buf) :
    8 ≤ buf.length := by
  have := h.1
  omega

theorem hasRtpHeader_of_fromBuf {buf : DataPacket} {header : RtpHeader}
    (h : RtpHeader.fromBuf buf = .ok (.ok header)) : HasRtpHeader buf := by
  by_contra hnot
  rw [RtpHeader.fromBuf_eq, if_neg hnot] at h
  cases h

theorem hasRtpHeader_replace {buf : DataPacket} (h : HasRtpHeader buf)
    (s : UInt16) (t : UInt32) :
    HasRtpHeader (replaceSequenceNTimestamp buf s t) := by
  refine ⟨?_, ?_⟩
  · rw [length_replace h.eight_le]
    exact h.1
  · rw [getD_replace h.eight_le s t (.inl (by decide))]
    exact h.2

theorem isRtcp_replace {buf : DataPacket} (h : HasRtpHeader buf) (s : UInt16)
    (t : UInt32) :
    isRtcp (replaceSequenceNTimestamp buf s t) = isRtcp buf := by
  rw [isRtcp_eq, isRtcp_eq, getD_replace h.eight_le s t (.inl (by decide))]
  simp only [h, hasRtpHeader_replace h s t, true_and]

/-! ## The laws of a lens -/

theorem fromBuf_replace {buf : DataPacket} {header : RtpHeader}
    (h : HasRtpHeader buf) (hb : RtpHeader.fromBuf buf = .ok (.ok header))
    (s : UInt16) (t : UInt32) :
    RtpHeader.fromBuf (replaceSequenceNTimestamp buf s t) =
      .ok (.ok { header with sequence := s, timestamp := t }) := by
  rw [RtpHeader.fromBuf_eq, if_pos h] at hb
  cases hb
  rw [RtpHeader.fromBuf_eq, if_pos (hasRtpHeader_replace h s t),
    getD_replace h.eight_le s t (.inl (by decide))]
  obtain ⟨b₀, b₁, s₀, s₁, t₀, t₁, t₂, t₃, rest, rfl⟩ :=
    exists_front h.eight_le
  simp only [replace_front, be16, be32, List.cons_append, List.nil_append,
    List.getD_cons_succ, List.getD_cons_zero, ofBe16_be16, ofBe32_be32]

theorem replace_replace {buf : DataPacket} (h : 8 ≤ buf.length)
    (s s' : UInt16) (t t' : UInt32) :
    replaceSequenceNTimestamp (replaceSequenceNTimestamp buf s t) s' t' =
      replaceSequenceNTimestamp buf s' t' := by
  obtain ⟨b₀, b₁, s₀, s₁, t₀, t₁, t₂, t₃, rest, rfl⟩ := exists_front h
  rfl

theorem replace_parsed {buf : DataPacket} {header : RtpHeader}
    (h : HasRtpHeader buf) (hb : RtpHeader.fromBuf buf = .ok (.ok header)) :
    replaceSequenceNTimestamp buf header.sequence header.timestamp = buf := by
  rw [RtpHeader.fromBuf_eq, if_pos h] at hb
  cases hb
  obtain ⟨b₀, b₁, s₀, s₁, t₀, t₁, t₂, t₃, rest, rfl⟩ :=
    exists_front h.eight_le
  simp only [List.getD_cons_succ, List.getD_cons_zero]
  rw [replace_front, be16_ofBe16, be32_ofBe32]
  rfl

/-- A packet that is recognised has a header; rewriting it returns, with the
two numbers in place of those of the header and everything else as it was. The
last of two rewrites counts, and rewriting a packet with its own numbers does
nothing. -/
theorem header_rewriting_is_lens (buf : DataPacket)
    (hbuf : RtpHeader.isRtpHeader buf = .ok true) :
    ∃ header, RtpHeader.fromBuf buf = .ok (.ok header) ∧
      replaceSequenceNTimestamp buf header.sequence header.timestamp = buf ∧
      ∀ (s : UInt16) (t : UInt32),
        (writeAt buf 2 4 (be16 s) >>= fun b => writeAt b 4 8 (be32 t)) =
          .ok (replaceSequenceNTimestamp buf s t) ∧
        RtpHeader.fromBuf (replaceSequenceNTimestamp buf s t) =
          .ok (.ok { header with sequence := s, timestamp := t }) ∧
        (replaceSequenceNTimestamp buf s t).length = buf.length ∧
        (∀ i, i < 2 ∨ 8 ≤ i →
          (replaceSequenceNTimestamp buf s t)[i]? = buf[i]?) ∧
        isRtcp (replaceSequenceNTimestamp buf s t) = isRtcp buf ∧
        ∀ (s' : UInt16) (t' : UInt32),
          replaceSequenceNTimestamp (replaceSequenceNTimestamp buf s t) s' t' =
            replaceSequenceNTimestamp buf s' t' := by
  have h : HasRtpHeader buf := by
    rw [RtpHeader.isRtpHeader_eq] at hbuf
    exact of_decide_eq_true (Except.ok.inj hbuf)
  have h8 := h.eight_le
  have hfrom := RtpHeader.fromBuf_eq buf
  rw [if_pos h] at hfrom
  refine ⟨_, hfrom, replace_parsed h hfrom, fun s t => ?_⟩
  refine ⟨replaceSequenceNTimestamp?_eq h8 s t, fromBuf_replace h hfrom s t,
    length_replace h8 s t, ?_, isRtcp_replace h s t, ?_⟩
  · exact fun i hi => getElem?_replace h8 s t hi
  · exact fun s' t' => replace_replace h8 s s' t t'

theorem header_rewriting_video_packet :
    RtpHeader.isRtpHeader (videoPacket 7) = .ok true ∧
      ∃ header, RtpHeader.fromBuf (videoPacket 7) = .ok (.ok header) ∧
        replaceSequenceNTimestamp (videoPacket 7) header.sequence
          header.timestamp = videoPacket 7 := by
  obtain ⟨header, hfrom, hid, -⟩ :=
    header_rewriting_is_lens (videoPacket 7) (by decide)
  exact ⟨by decide, header, hfrom, hid⟩

end RStreamer
