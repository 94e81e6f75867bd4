import Mathlib.Algebra.Group.Prod
import RStreamer.Client.RtcActor
import RStreamer.Lib.Accum

/-!
# The counters along a stream

`ClientRtpRuntime.rewrite` is one packet. This file plays a whole stream
through it, and finds that the two outgoing numbers are a counter in the sense
of `Accum`: a value in `UInt16 × UInt32` that advances between two consecutive
packets by `forwardStep` in either coordinate. The initial state decides where
the counter starts and nothing else, and the time of arrival decides nothing
at all.

`forwardStep` is what the source computes from `Option<NonZero…>` and
`saturating_sub`: the difference, except that a last value of zero counts as
no value and a smaller next value as no advance.
-/

namespace RStreamer

/-- The advance from a packet numbered `x` to the next one, numbered `y`. -/
def forwardStep {U : Type} [OfNat U 0] [LE U] [DecidableLE U] [Sub U]
    [DecidableEq U] (x y : U) : U :=
  diffFrom (NonZero.new x) y

theorem forwardStep_eq {U : Type} [OfNat U 0] [LE U] [DecidableLE U] [Sub U]
    [DecidableEq U] (x y : U) :
    forwardStep x y = if x ≠ 0 ∧ x ≤ y then y - x else 0 := by
  simp only [forwardStep, NonZero.new, diffFrom, saturatingSub]
  by_cases hx : x = 0
  · simp [hx]
  · simp [hx]

def headerStep (x y : RtpHeader) : UInt16 × UInt32 :=
  (forwardStep x.sequence y.sequence, forwardStep x.timestamp y.timestamp)

namespace ClientRtpRuntime

/-- The sequence numbers and timestamps written into a stream of packets, each
with the time of its arrival. -/
def rewriteAll (rt : ClientRtpRuntime) :
    List (RtpHeader × Instant) → List (UInt16 × UInt32)
  | [] => []
  | (header, now) :: packets =>
      let rt' := (rt.rewrite header now).runtime
      (rt'.serverSequence, rt'.serverTs) :: rt'.rewriteAll packets

/-- The counters have seen `header` last and stand at `o`. -/
def At (rt : ClientRtpRuntime) (header : RtpHeader) (o : UInt16 × UInt32) :
    Prop :=
  rt.clientSequence = NonZero.new header.sequence ∧
    rt.clientTs = NonZero.new header.timestamp ∧
    (rt.serverSequence, rt.serverTs) = o

/-- The numbers the first packet of a stream gets. -/
def firstNumbers (rt : ClientRtpRuntime) (header : RtpHeader) :
    UInt16 × UInt32 :=
  (rt.serverSequence + diffFrom rt.clientSequence header.sequence,
    rt.serverTs + diffFrom rt.clientTs header.timestamp)

theorem at_rewrite (rt : ClientRtpRuntime) (header : RtpHeader)
    (now : Instant) :
    (rt.rewrite header now).runtime.At header (rt.firstNumbers header) :=
  ⟨rfl, rfl, rfl⟩

theorem At.firstNumbers {rt : ClientRtpRuntime} {x : RtpHeader}
    {o : UInt16 × UInt32} (h : rt.At x o) (y : RtpHeader) :
    rt.firstNumbers y = o + headerStep x y := by
  obtain ⟨hseq, hts, rfl⟩ := h
  rw [ClientRtpRuntime.firstNumbers, headerStep, forwardStep, hseq, hts]
  rfl

theorem rewriteAll_cons (rt : ClientRtpRuntime) (header : RtpHeader)
    (now : Instant) (packets : List (RtpHeader × Instant)) :
    rt.rewriteAll ((header, now) :: packets) =
      rt.firstNumbers header ::
        (rt.rewrite header now).runtime.rewriteAll packets := rfl

theorem At.rewriteAll : ∀ {packets : List (RtpHeader × Instant)}
    {rt : ClientRtpRuntime} {x : RtpHeader} {o : UInt16 × UInt32},
    rt.At x o → rt.rewriteAll packets =
      Accum.walk headerStep o x (packets.map fun p => p.1) := by
  intro packets
  induction packets with
  | nil => intro rt x o _; rfl
  | cons p packets ih =>
      intro rt x o h
      obtain ⟨header, now⟩ := p
      rw [rewriteAll_cons, ih (at_rewrite rt header now), h.firstNumbers]
      rfl

theorem rewriteAll_eq_walk (rt : ClientRtpRuntime) (header : RtpHeader)
    (now : Instant) (packets : List (RtpHeader × Instant)) :
    rt.rewriteAll ((header, now) :: packets) =
      rt.firstNumbers header ::
        Accum.walk headerStep (rt.firstNumbers header) header
          (packets.map fun p => p.1) := by
  rw [rewriteAll_cons, (at_rewrite rt header now).rewriteAll]

theorem rewriteAll_congr (rt : ClientRtpRuntime)
    {ps qs : List (RtpHeader × Instant)}
    (h : ps.map (fun p => p.1) = qs.map fun p => p.1) :
    rt.rewriteAll ps = rt.rewriteAll qs := by
  cases ps with
  | nil =>
      cases qs with
      | nil => rfl
      | cons q qs => cases h
  | cons p ps =>
      cases qs with
      | nil => cases h
      | cons q qs =>
          obtain ⟨x, t⟩ := p
          obtain ⟨y, t'⟩ := q
          simp only [List.map_cons, List.cons.injEq] at h
          obtain ⟨rfl, htail⟩ := h
          rw [rewriteAll_eq_walk, rewriteAll_eq_walk, htail]

end ClientRtpRuntime

end RStreamer
