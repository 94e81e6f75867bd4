import RStreamer.Client.Counters
import RStreamer.Client.Metered

/-!
# Whether the rewriting arithmetic overflows

Four places of the handler add or multiply words with plain operators, which end
the program in a build that checks them and wrap in one that does not: the two
outgoing counters, the arrival time in clock ticks, and the threshold the
transit time is compared with. None of them is guarded.

Each has its own reason to stay in range or not. The outgoing counters only ever
grow, by what the incoming ones advance, so all their sums fit exactly if the
last one does (`along_lt_iff_total_lt`), and a stream that lasts is certain to
leave the range. The arrival time depends on the gap to the packet before and the
clock rate, the threshold on the jitter delay in force and the clock rate.
`arithmetic_in_range_iff` puts the four together for whole runs.
-/

namespace RStreamer

open Machine

/-! ## One stream as a machine -/

/-- What the rewriting of a stream reads and writes: the counters of one
frequency, and the jitter statistics of the client. -/
structure Stream where
  runtime : ClientRtpRuntime
  stats : ClientRtpJitterStats

namespace Stream

/-- A packet of the stream, with the time of its arrival. -/
abbrev Packet : Type := RtpHeader × Instant

def step (frequency : UInt32) (s : Stream) (p : Packet) : Stream :=
  let rw := s.runtime.rewrite p.1 p.2
  { runtime := rw.runtime
    stats := s.stats.apply p.2 (s.stats.verdict frequency rw p.2) }

/-- The stream of client `c` at one frequency. -/
def ofRegistry {S : Type} (r : Registry S) (c : ClientRef) (f : UInt32) :
    Option Stream :=
  (r.counters c f).map fun rt => ⟨rt, (r.heap c).jitterStats⟩

/-- A packet that reaches its counters is a step of its stream. -/
theorem ofRegistry_handle {S : Type} {lib : SrtpLib S} {r : Registry S}
    {now : Instant} {message : DataPacket} {addr : SocketAddr} {c : ClientRef}
    {f : UInt32} {header : RtpHeader} {rw : Rewriting}
    (h : RtcActor.rewritingOf lib r now message addr = some (c, f, header, rw))
    (sched : List Receiver) :
    ofRegistry (RtcActor.handle lib r now sched message addr).registry c f =
      (ofRegistry r c f).map fun s => s.step f (header, now) := by
  have hcounters := RtcActor.counters_handle lib r now sched message addr c f
  have hstats := RtcActor.jitterStats_handle lib r now sched message addr c
  obtain ⟨rt, hrt, rfl⟩ := RtcActor.runtime_of_rewritingOf h
  rw [h] at hcounters hstats
  simp only [and_self, if_true] at hcounters hstats
  rw [ofRegistry, ofRegistry, Registry.counters, Registry.counters, hcounters,
    hstats, hrt]
  rfl

/-! ## The four operations -/

/-- What one packet computes with plain operators fits its type. -/
structure InRange (frequency : UInt32) (s : Stream) (p : Packet) : Prop where
  -- server_sequence += incr_sequence
  sequence : s.runtime.serverSequence.toNat +
    (diffFrom s.runtime.clientSequence p.1.sequence).toNat < 65536
  -- server_ts += client_diff
  timestamp : s.runtime.serverTs.toNat +
    (diffFrom s.runtime.clientTs p.1.timestamp).toNat < 4294967296
  -- real_time_diff.as_millis() as u32 * rate
  arrival : (UInt32.ofNat (Duration.asMillis
    (s.runtime.rewrite p.1 p.2).realTimeDiff)).toNat *
      (frequency / 1000).toNat < 4294967296
  -- jitter_delay * rate + JITTER_BUFFER_VOLATILE
  threshold : s.stats.jitterDelay.toNat * (frequency / 1000).toNat +
    JITTER_BUFFER_VOLATILE.toNat < 4294967296

/-! ## The outgoing counters -/

/-- How far the numbers of a stream go forward in all, from the last one
seen. -/
def totalAdvance {U : Type} [OfNat U 0] [LE U] [DecidableLE U] [Sub U]
    [DecidableEq U] (size : U → Nat) : Option (NonZero U) → List U → Nat
  | _, [] => 0
  | last, x :: xs =>
      size (diffFrom last x) + totalAdvance size (NonZero.new x) xs

theorem total_eq_totalAdvance {U : Type} [OfNat U 0] [LE U] [DecidableLE U]
    [Sub U] [DecidableEq U] (size : U → Nat) {frequency : UInt32}
    (last : Stream → Option (NonZero U)) (number : RtpHeader → U)
    (hlast : ∀ s p, last (step frequency s p) = NonZero.new (number p.1)) :
    ∀ (packets : List Packet) (s : Stream),
      total (step frequency) (fun s p => size (diffFrom (last s) (number p.1)))
          s packets =
        totalAdvance size (last s) (packets.map fun p => number p.1) := by
  intro packets
  induction packets with
  | nil => intro s; rfl
  | cons p packets ih =>
      intro s
      rw [total, ih, hlast]
      rfl

theorem along_sequence_iff (frequency : UInt32) (s : Stream)
    (packets : List Packet) :
    Along (step frequency) (fun s p => s.runtime.serverSequence.toNat +
        (diffFrom s.runtime.clientSequence p.1.sequence).toNat < 65536)
        s packets ↔
      s.runtime.serverSequence.toNat + totalAdvance UInt16.toNat
        s.runtime.clientSequence (packets.map fun p => p.1.sequence) <
          65536 := by
  rw [← total_eq_totalAdvance UInt16.toNat (fun s => s.runtime.clientSequence)
    (fun header => header.sequence) (fun _ _ => rfl) packets s]
  refine along_lt_iff_total_lt (fun s => s.runtime.serverSequence.toNat_lt) ?_
  intro s p hlt
  exact (UInt16.toNat_add _ _).trans (Nat.mod_eq_of_lt hlt)

theorem along_timestamp_iff (frequency : UInt32) (s : Stream)
    (packets : List Packet) :
    Along (step frequency) (fun s p => s.runtime.serverTs.toNat +
        (diffFrom s.runtime.clientTs p.1.timestamp).toNat < 4294967296)
        s packets ↔
      s.runtime.serverTs.toNat + totalAdvance UInt32.toNat
        s.runtime.clientTs (packets.map fun p => p.1.timestamp) <
          4294967296 := by
  rw [← total_eq_totalAdvance UInt32.toNat (fun s => s.runtime.clientTs)
    (fun header => header.timestamp) (fun _ _ => rfl) packets s]
  refine along_lt_iff_total_lt (fun s => s.runtime.serverTs.toNat_lt) ?_
  intro s p hlt
  exact (UInt32.toNat_add _ _).trans (Nat.mod_eq_of_lt hlt)

/-! ## The gaps -/

/-- When the last packet of the stream arrived. -/
def lastArrival (s : Stream) : Instant :=
  s.runtime.startedTime + s.runtime.prevTimeDiff

/-- The milliseconds between two arrivals, as a word, times the clock rate are
a word. -/
def ShortGap (frequency : UInt32) (last now : Instant) : Prop :=
  Duration.asMillis (now - last) % 4294967296 * (frequency / 1000).toNat <
    4294967296

instance (frequency : UInt32) (last now : Instant) :
    Decidable (ShortGap frequency last now) :=
  inferInstanceAs (Decidable (_ < _))

theorem lastArrival_step {frequency : UInt32} {s : Stream} {p : Packet}
    (h : s.lastArrival ≤ p.2) : (step frequency s p).lastArrival = p.2 := by
  show s.runtime.startedTime + (p.2 - s.runtime.startedTime) = p.2
  have hle : s.runtime.startedTime ≤ p.2 :=
    Nat.le_trans (Nat.le_add_right _ _) h
  exact Nat.add_sub_cancel' hle

theorem realTimeDiff_eq (s : Stream) (p : Packet) :
    (s.runtime.rewrite p.1 p.2).realTimeDiff = p.2 - s.lastArrival :=
  Nat.sub_sub _ _ _

theorem along_arrival_iff (frequency : UInt32) :
    ∀ (packets : List Packet) (s : Stream),
      List.IsChain (· ≤ ·) (s.lastArrival :: packets.map fun p => p.2) →
      (Along (step frequency) (fun s p => (UInt32.ofNat (Duration.asMillis
          (s.runtime.rewrite p.1 p.2).realTimeDiff)).toNat *
            (frequency / 1000).toNat < 4294967296) s packets ↔
        List.IsChain (ShortGap frequency)
          (s.lastArrival :: packets.map fun p => p.2)) := by
  intro packets
  induction packets with
  | nil => intro s _; exact ⟨fun _ => List.isChain_singleton _, fun _ => trivial⟩
  | cons p packets ih =>
      intro s h
      rw [List.map_cons, List.isChain_cons_cons] at h ⊢
      have hstep := @lastArrival_step frequency s p h.1
      have hrest := ih (step frequency s p) (by rw [hstep]; exact h.2)
      rw [Along, hrest, hstep, realTimeDiff_eq]
      rfl

/-! ## The threshold -/

/-- The jitter delay in force is small enough for the clock rate. -/
def DelayBounded (frequency : UInt32) (s : Stream) : Prop :=
  (frequency / 1000).toNat = 0 ∨
    s.stats.jitterDelay.toNat ≤ 4294966295 / (frequency / 1000).toNat

instance (frequency : UInt32) (s : Stream) :
    Decidable (s.DelayBounded frequency) :=
  inferInstanceAs (Decidable (_ ∨ _))

theorem threshold_iff_delayBounded (frequency : UInt32) (s : Stream) :
    s.stats.jitterDelay.toNat * (frequency / 1000).toNat +
        JITTER_BUFFER_VOLATILE.toNat < 4294967296 ↔
      s.DelayBounded frequency := by
  have hvolatile : JITTER_BUFFER_VOLATILE.toNat = 1000 := rfl
  rw [hvolatile, DelayBounded]
  rcases Nat.eq_zero_or_pos (frequency / 1000).toNat with hzero | hpos
  · rw [hzero]
    exact iff_of_true (by omega) (.inl rfl)
  · rw [Nat.le_div_iff_mul_le hpos]
    omega

/-! ## Whole runs -/

theorem inRange_iff (frequency : UInt32) (s : Stream) (p : Packet) :
    InRange frequency s p ↔
      (s.runtime.serverSequence.toNat +
        (diffFrom s.runtime.clientSequence p.1.sequence).toNat < 65536) ∧
      (s.runtime.serverTs.toNat +
        (diffFrom s.runtime.clientTs p.1.timestamp).toNat < 4294967296) ∧
      ((UInt32.ofNat (Duration.asMillis
        (s.runtime.rewrite p.1 p.2).realTimeDiff)).toNat *
          (frequency / 1000).toNat < 4294967296) ∧
      s.DelayBounded frequency := by
  rw [← threshold_iff_delayBounded]
  exact ⟨fun h => ⟨h.1, h.2, h.3, h.4⟩, fun h => ⟨h.1, h.2.1, h.2.2.1, h.2.2.2⟩⟩

/-- Whatever a stream starts with: along a run of packets none of the four
operations leaves its type exactly if the two outgoing numbers have room for all
that the incoming ones advance, every gap between arrivals is short for the
clock rate, and so is the jitter delay every packet finds. -/
theorem arithmetic_in_range_iff (frequency : UInt32) (s : Stream)
    (packets : List Packet)
    (h : List.IsChain (· ≤ ·) (s.lastArrival :: packets.map fun p => p.2)) :
    Along (step frequency) (InRange frequency) s packets ↔
      (s.runtime.serverSequence.toNat + totalAdvance UInt16.toNat
        s.runtime.clientSequence (packets.map fun p => p.1.sequence) <
          65536) ∧
      (s.runtime.serverTs.toNat + totalAdvance UInt32.toNat
        s.runtime.clientTs (packets.map fun p => p.1.timestamp) <
          4294967296) ∧
      List.IsChain (ShortGap frequency)
        (s.lastArrival :: packets.map fun p => p.2) ∧
      Along (step frequency) (fun s _ => s.DelayBounded frequency) s
        packets := by
  rw [along_congr (inRange_iff frequency), along_and, along_and, along_and,
    along_sequence_iff, along_timestamp_iff, along_arrival_iff frequency _ _ h]

/-- A stream as it starts, with the smallest numbers it can draw. -/
def fresh : Stream :=
  ⟨ClientRtpRuntime.default 0 RuntimeDraw.least, ClientRtpJitterStats.default 0⟩

theorem two_packets_in_range :
    Along (step 90000) (InRange 90000) fresh
      [(⟨false, 96, 7, 900⟩, 0), (⟨false, 96, 8, 3900⟩, 33000000)] := by
  refine (arithmetic_in_range_iff 90000 fresh _ (by decide)).mpr ?_
  exact ⟨by decide, by decide, by decide, by decide, by decide, trivial⟩

/-- A stream that goes round once leaves the range of the sequence number. -/
theorem second_round_overflows :
    ¬ ∀ (frequency : UInt32) (s : Stream) (packets : List Packet),
      List.IsChain (· ≤ ·) (s.lastArrival :: packets.map fun p => p.2) →
      Along (step frequency) (InRange frequency) s packets := by
  intro h
  have hrun := h 90000 fresh
    [(⟨false, 96, 1, 900⟩, 0), (⟨false, 96, 65535, 900⟩, 0),
      (⟨false, 96, 1, 900⟩, 0), (⟨false, 96, 2, 900⟩, 0)] (by decide)
  obtain ⟨-, -, -, hfourth, -⟩ := hrun
  have hseq := hfourth.sequence
  revert hseq
  decide

end Stream

end RStreamer
