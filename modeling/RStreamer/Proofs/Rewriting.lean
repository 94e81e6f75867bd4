import RStreamer.Client.Counters

/-!
# What rewriting does to a stream

The outgoing numbers are an accumulated counter, so what happens to a stream is
decided by its steps (`Client/Counters.lean`). Three questions about one set of
counters, each with its exact answer.

In-order streams. Over a step the written numbers advance as the incoming ones
do as long as neither number starts at zero or comes out smaller, that is, as
long as the stream does not pass or leave zero (`in_order_iff_no_wrap`). Zero
is not remembered as a last value, and a wrapped number is smaller than the one
before it, so at either the counters stand still.

Reordered bursts. A late packet is smaller than the one before it and gets that
packet's number, so a burst keeps its numbers apart exactly when it arrives in
order (`burst_distinct_iff_ascending`).

Several SSRCs at one clock rate. They share the counters, and a packet advances
them from the last packet of whatever SSRC. An SSRC sees the advances of its
own packets exactly when the steps through the packets in between add up to the
direct step (`ssrc_isolated_iff_steps_add_up`). They fail to where a number goes
back, since the difference saturates at zero and does not undo the step forward.
-/

namespace RStreamer

open ClientRtpRuntime

/-! ## In-order streams -/

/-- A step is the difference, unless it starts at zero or goes down. -/
theorem forwardStep_eq_sub_iff {U : Type} [AddGroup U] [LE U] [DecidableLE U]
    [DecidableEq U] (x y : U) :
    forwardStep x y = y - x ↔ y = x ∨ (x ≠ 0 ∧ x ≤ y) := by
  rw [forwardStep_eq]
  split
  · next h => simp [h]
  · next h =>
      rw [or_iff_left h]
      refine ⟨?_, ?_⟩
      · intro h0
        exact sub_eq_zero.mp h0.symm
      · rintro rfl
        exact (sub_self y).symm

def headerDiff (x y : RtpHeader) : UInt16 × UInt32 :=
  (y.sequence - x.sequence, y.timestamp - x.timestamp)

/-- `y` follows `x` in order: a forward step of less than half the range, of at
least one in the sequence number. -/
def InOrder (x y : RtpHeader) : Prop :=
  (1 ≤ (headerDiff x y).1 ∧ (headerDiff x y).1 < 2 ^ 15) ∧
    (headerDiff x y).2 < 2 ^ 31

instance (x y : RtpHeader) : Decidable (InOrder x y) :=
  inferInstanceAs (Decidable (_ ∧ _))

/-- The step from `x` to `y` neither starts at zero nor wraps, in the sequence
number and, if that moves, in the timestamp. -/
def NoWrap (x y : RtpHeader) : Prop :=
  (x.sequence ≠ 0 ∧ x.sequence < y.sequence) ∧
    (y.timestamp = x.timestamp ∨ (x.timestamp ≠ 0 ∧ x.timestamp ≤ y.timestamp))

instance (x y : RtpHeader) : Decidable (NoWrap x y) :=
  inferInstanceAs (Decidable (_ ∧ _))

/-- The written numbers advance as the incoming ones do, at every step. -/
def KeepsSteps (headers : List RtpHeader) (written : List (UInt16 × UInt32)) :
    Prop :=
  List.IsChain (fun a b : RtpHeader × (UInt16 × UInt32) =>
    b.2 - a.2 = headerDiff a.1 b.1) (headers.zip written)

instance (headers : List RtpHeader) (written : List (UInt16 × UInt32)) :
    Decidable (KeepsSteps headers written) :=
  inferInstanceAs (Decidable (List.IsChain _ _))

theorem headerStep_eq_headerDiff_iff {x y : RtpHeader} (h : InOrder x y) :
    headerStep x y = headerDiff x y ↔ NoWrap x y := by
  have hne : y.sequence ≠ x.sequence := by
    intro he
    have h1 : (1 : UInt16) ≤ y.sequence - x.sequence := h.1.1
    rw [he, sub_self] at h1
    exact absurd h1 (by decide)
  rw [headerStep, headerDiff, NoWrap]
  rw [Prod.mk.injEq, forwardStep_eq_sub_iff, forwardStep_eq_sub_iff,
    or_iff_right hne]
  refine and_congr_left' (and_congr_right fun _ => ?_)
  exact ⟨fun hle => UInt16.lt_of_le_of_ne hle (Ne.symm hne),
    fun hlt => UInt16.le_of_lt hlt⟩

/-- Whatever the counters start with: an in-order stream is rewritten with its
own steps exactly when none of them starts at zero or wraps. -/
theorem in_order_iff_no_wrap (rt : ClientRtpRuntime)
    (packets : List (RtpHeader × Instant))
    (h : (packets.map fun p => p.1).IsChain InOrder) :
    KeepsSteps (packets.map fun p => p.1) (rt.rewriteAll packets) ↔
      (packets.map fun p => p.1).IsChain NoWrap := by
  cases packets with
  | nil => simp [KeepsSteps]
  | cons p packets =>
      obtain ⟨x, now⟩ := p
      rw [KeepsSteps, rewriteAll_eq_walk, List.map_cons,
        Accum.isChain_walk_iff]
      exact Accum.isChain_iff_of_isChain h fun _ _ =>
        headerStep_eq_headerDiff_iff

theorem in_order_three_packets :
    KeepsSteps [⟨false, 96, 7, 900⟩, ⟨false, 96, 8, 900⟩, ⟨true, 96, 11, 3900⟩]
      ((ClientRtpRuntime.default 0 RuntimeDraw.least).rewriteAll
        [(⟨false, 96, 7, 900⟩, 0), (⟨false, 96, 8, 900⟩, 1),
          (⟨true, 96, 11, 3900⟩, 2)]) :=
  (in_order_iff_no_wrap (ClientRtpRuntime.default 0 RuntimeDraw.least)
    [(⟨false, 96, 7, 900⟩, 0), (⟨false, 96, 8, 900⟩, 1),
      (⟨true, 96, 11, 3900⟩, 2)] (by decide)).mpr (by decide)

/-- The sequence number wraps from 65535 to 0, and the written one stays. -/
theorem wrap_stalls_counters :
    ¬ ∀ (rt : ClientRtpRuntime) (packets : List (RtpHeader × Instant)),
      (packets.map fun p => p.1).IsChain InOrder →
      KeepsSteps (packets.map fun p => p.1) (rt.rewriteAll packets) := by
  intro h
  have hkeeps := h (ClientRtpRuntime.default 0 RuntimeDraw.least)
    [(⟨false, 96, 65535, 900⟩, 0), (⟨false, 96, 0, 900⟩, 1)] (by decide)
  revert hkeeps
  decide

/-! ## Reordered bursts -/

/-- Sequence numbers of packets that were sent close together and far from
zero: distinct, non-zero, and within half the range of each other. -/
structure Burst (seqs : List UInt16) : Prop where
  ne_zero : ∀ x ∈ seqs, x ≠ 0
  nodup : seqs.Nodup
  span : ∀ x ∈ seqs, ∀ y ∈ seqs, x.toNat < y.toNat + 2 ^ 15

def sequences (packets : List (RtpHeader × Instant)) : List UInt16 :=
  packets.map fun p => p.1.sequence

def writtenSequences (rt : ClientRtpRuntime)
    (packets : List (RtpHeader × Instant)) : List UInt16 :=
  (rt.rewriteAll packets).map fun o => o.1

/-- No number is written twice, and two packets are as far apart outgoing as
they were incoming. -/
def KeepsApart (seqs written : List UInt16) : Prop :=
  written.Nodup ∧
    (seqs.zip written).Pairwise fun a b => b.2 - a.2 = b.1 - a.1

instance (seqs written : List UInt16) : Decidable (KeepsApart seqs written) :=
  inferInstanceAs (Decidable (_ ∧ _))

theorem writtenSequences_cons (rt : ClientRtpRuntime) (x : RtpHeader)
    (now : Instant) (packets : List (RtpHeader × Instant)) :
    writtenSequences rt ((x, now) :: packets) =
      (rt.firstNumbers x).1 ::
        Accum.walk forwardStep (rt.firstNumbers x).1 x.sequence
          (sequences packets) := by
  have hmap := Accum.map_walk (AddMonoidHom.fst UInt16 UInt32) headerStep
    (packets.map fun p => p.1) (rt.firstNumbers x) x
  have hseq := Accum.walk_comap (fun y : RtpHeader => y.sequence) forwardStep
    (packets.map fun p => p.1) (rt.firstNumbers x).1 x
  rw [writtenSequences, rewriteAll_eq_walk, List.map_cons]
  refine congrArg _ (hmap.trans (hseq.trans ?_))
  rw [sequences, List.map_map]
  rfl

theorem isChain_lt_of_nodup {o x : UInt16} {ys : List UInt16}
    (h : (o :: Accum.walk forwardStep o x ys).Nodup) :
    (x :: ys).IsChain (· < ·) := by
  refine (Accum.isChain_of_nodup_walk h).imp fun a b hab => ?_
  rw [forwardStep_eq] at hab
  split at hab
  · next hle =>
      refine UInt16.lt_of_le_of_ne hle.2 fun e => hab ?_
      rw [e, sub_self]
  · exact absurd rfl hab

theorem walk_ascending {o x : UInt16} {ys : List UInt16}
    (h0 : ∀ y ∈ x :: ys, y ≠ 0) (h : (x :: ys).IsChain (· < ·)) :
    o :: Accum.walk forwardStep o x ys =
      (x :: ys).map fun y => y + (o - x) := by
  rw [List.map_cons, Accum.walk_eq_translate (fun y => y)]
  · rw [add_sub_cancel]
  · refine h.imp_of_mem_imp fun a b ha _ hab => ?_
    exact (forwardStep_eq_sub_iff a b).mpr
      (.inr ⟨h0 a ha, UInt16.le_of_lt hab⟩)

theorem keepsApart_translate {seqs : List UInt16} (h : seqs.Nodup)
    (k : UInt16) : KeepsApart seqs (seqs.map fun y => y + k) := by
  refine ⟨?_, ?_⟩
  · exact h.map fun a b hab => add_right_cancel hab
  · rw [← List.map_prod_left_eq_zip, List.pairwise_map]
    exact List.pairwise_of_forall fun a b => add_sub_add_right_eq_sub b a k

/-- Whatever the counters start with: the packets of a burst are kept apart
exactly when they arrive in ascending order. -/
theorem burst_distinct_iff_ascending (rt : ClientRtpRuntime)
    (packets : List (RtpHeader × Instant)) (h : Burst (sequences packets)) :
    KeepsApart (sequences packets) (writtenSequences rt packets) ↔
      (sequences packets).IsChain (· < ·) := by
  cases packets with
  | nil =>
      refine iff_of_true ⟨List.nodup_nil, List.Pairwise.nil⟩ List.isChain_nil
  | cons p packets =>
      obtain ⟨x, now⟩ := p
      have hs : sequences ((x, now) :: packets) =
          x.sequence :: sequences packets := rfl
      rw [hs] at h ⊢
      rw [writtenSequences_cons]
      refine ⟨?_, ?_⟩
      · intro hk
        exact isChain_lt_of_nodup hk.1
      · intro hlt
        rw [walk_ascending h.ne_zero hlt]
        exact keepsApart_translate h.nodup _

theorem burst_in_order_distinct :
    KeepsApart [5, 6, 9]
      (writtenSequences (ClientRtpRuntime.default 0 RuntimeDraw.least)
        [(⟨false, 96, 5, 900⟩, 0), (⟨false, 96, 6, 900⟩, 0),
          (⟨true, 96, 9, 900⟩, 0)]) :=
  (burst_distinct_iff_ascending (ClientRtpRuntime.default 0 RuntimeDraw.least)
    [(⟨false, 96, 5, 900⟩, 0), (⟨false, 96, 6, 900⟩, 0),
      (⟨true, 96, 9, 900⟩, 0)]
    ⟨by simp [sequences], by decide, by simp [sequences]⟩).mpr (by decide)

/-- The second of two packets overtakes the first, and both get one number. -/
theorem overtaken_packet_shares_number :
    ¬ ∀ (rt : ClientRtpRuntime) (packets : List (RtpHeader × Instant)),
      Burst (sequences packets) →
      KeepsApart (sequences packets) (writtenSequences rt packets) := by
  intro h
  have hapart := h (ClientRtpRuntime.default 0 RuntimeDraw.least)
    [(⟨false, 96, 6, 900⟩, 0), (⟨false, 96, 5, 900⟩, 0)]
    ⟨by simp [sequences], by decide, by simp [sequences]⟩
  revert hapart
  decide

/-! ## Several SSRCs at one clock rate -/

/-- A packet of a stream, with the SSRC it belongs to. The source never reads
the SSRC; it is here to name the packets. -/
structure SsrcPacket where
  ssrc : UInt32
  header : RtpHeader
  now : Instant

namespace SsrcPacket

def arrival (p : SsrcPacket) : RtpHeader × Instant := (p.header, p.now)

def isOf (ssrc : UInt32) (p : SsrcPacket) : Bool := p.ssrc == ssrc

def step (x y : SsrcPacket) : UInt16 × UInt32 := headerStep x.header y.header

end SsrcPacket

open SsrcPacket

/-- The numbers written into the packets of one SSRC, in a stream of several. -/
def writtenFor (rt : ClientRtpRuntime) (ssrc : UInt32)
    (packets : List SsrcPacket) : List (UInt16 × UInt32) :=
  Accum.passing (isOf ssrc) packets (rt.rewriteAll (packets.map arrival))

/-- The numbers written into them if the other packets are not there. -/
def writtenAlone (rt : ClientRtpRuntime) (ssrc : UInt32)
    (packets : List SsrcPacket) : List (UInt16 × UInt32) :=
  rt.rewriteAll ((packets.filter (isOf ssrc)).map arrival)

theorem rewriteAll_arrivals (rt : ClientRtpRuntime) (x : SsrcPacket)
    (xs : List SsrcPacket) : rt.rewriteAll ((x :: xs).map arrival) =
      rt.firstNumbers x.header ::
        Accum.walk step (rt.firstNumbers x.header) x xs := by
  have hwalk := Accum.walk_comap (fun p : SsrcPacket => p.header) headerStep xs
    (rt.firstNumbers x.header) x
  rw [List.map_cons, arrival, rewriteAll_eq_walk, List.map_map]
  exact congrArg _ hwalk.symm

theorem diffs_writtenFor (rt : ClientRtpRuntime) (ssrc : UInt32)
    (packets : List SsrcPacket) :
    Accum.diffs (writtenFor rt ssrc packets) =
      (Accum.gaps (isOf ssrc) packets).map (Accum.gapAdvance step) := by
  rw [writtenFor]
  cases packets with
  | nil => rfl
  | cons x xs => rw [rewriteAll_arrivals, Accum.diffs_passing]

theorem diffs_writtenAlone (rt : ClientRtpRuntime) (ssrc : UInt32)
    (packets : List SsrcPacket) :
    Accum.diffs (writtenAlone rt ssrc packets) =
      (Accum.gaps (isOf ssrc) packets).map fun g => step g.1 g.2.2 := by
  rw [writtenAlone]
  cases h : packets.filter (isOf ssrc) with
  | nil => rw [Accum.gaps_eq_nil h]; rfl
  | cons a bs => rw [rewriteAll_arrivals, Accum.diffs_walk_of_filter h]

/-- Whatever the counters start with and however the packets interleave: the
numbers of one SSRC advance as they would without the other packets exactly
when, over every gap between two consecutive packets of it, the steps through
the packets in the gap add up to the direct step. -/
theorem ssrc_isolated_iff_steps_add_up (rt : ClientRtpRuntime) (ssrc : UInt32)
    (packets : List SsrcPacket) :
    Accum.diffs (writtenFor rt ssrc packets) =
        Accum.diffs (writtenAlone rt ssrc packets) ↔
      ∀ g ∈ Accum.gaps (isOf ssrc) packets,
        Accum.gapAdvance step g = step g.1 g.2.2 := by
  rw [diffs_writtenFor, diffs_writtenAlone, List.map_inj_left]

/-- A packet of a second stream with higher numbers lies between two packets
of the first. -/
theorem second_ssrc_moves_first :
    ¬ ∀ (rt : ClientRtpRuntime) (ssrc : UInt32) (packets : List SsrcPacket),
      Accum.diffs (writtenFor rt ssrc packets) =
        Accum.diffs (writtenAlone rt ssrc packets) := by
  intro h
  have hdiffs := h (ClientRtpRuntime.default 0 RuntimeDraw.least) 1
    [⟨1, ⟨false, 96, 100, 900⟩, 0⟩, ⟨2, ⟨false, 97, 5000, 900⟩, 0⟩,
      ⟨1, ⟨false, 96, 101, 900⟩, 0⟩]
  revert hdiffs
  decide

end RStreamer
