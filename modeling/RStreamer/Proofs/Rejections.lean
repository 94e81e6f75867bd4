import RStreamer.Client.Sending
import RStreamer.System

/-!
# Packets that go nowhere

A packet can end in six ways before it is forwarded: its address is unknown,
its header is bad, its client has no SRTP context yet, it does not decrypt, it
has payload type 111, or it has no counters. `Rejected` lists them in the order
of the handler's tests, and `prepare_eq_none_iff` says that there is no other.

Each of them comes before the first write to anything but an SRTP session. What
a rejected packet leaves behind is therefore the registry with at most another
session (`handle_of_rejected`), and whatever a packet changed or sent, it was
decrypted first.
-/

namespace RStreamer.RtcActor

open Registry

variable {S : Type} {lib : SrtpLib S} {r : Registry S} {message : DataPacket}
  {addr : SocketAddr}

/-- The ends of the handler in front of the forwarding. -/
inductive Rejected (lib : SrtpLib S) (r : Registry S) (message : DataPacket)
    (addr : SocketAddr) : Prop where
  | unknownAddress : r.clientAt addr = none → Rejected lib r message addr
  | badHeader {c : ClientRef} {e : ErrorParse} : r.clientAt addr = some c →
      RtpHeader.fromBuf message = .ok (.error e) → Rejected lib r message addr
  | clientNotReady {c : ClientRef} {header : RtpHeader} :
      r.clientAt addr = some c → RtpHeader.fromBuf message = .ok (.ok header) →
      (r.heap c).srtp = none → Rejected lib r message addr
  | srtp {c : ClientRef} {header : RtpHeader} {t : SrtpTransport S}
      {rtcp : Bool} : r.clientAt addr = some c →
      RtpHeader.fromBuf message = .ok (.ok header) →
      (r.heap c).srtp = some t → isRtcp message = .ok rtcp →
      (t.unprotect lib rtcp message).2 = none → Rejected lib r message addr
  | payload111 {c : ClientRef} {header : RtpHeader} :
      DecryptedRtp lib r message addr c header → header.payload = 111 →
      Rejected lib r message addr
  | codecNotSet {c : ClientRef} {header : RtpHeader} :
      DecryptedRtp lib r message addr c header → header.payload ≠ 111 →
      runtimeOf (r.heap c)
        (codecNFrequency (r.heap c).media false header.payload) = none →
      Rejected lib r message addr

/-- A rejected packet ends the handler with nothing sent, in the registry it
started in or one with another session. -/
theorem handle_of_rejected (h : Rejected lib r message addr) (now : Instant)
    (sched : List Receiver) :
    ∃ r' result, SameButSessions r r' ∧
      handle lib r now sched message addr = ⟨r', result, [], [], none⟩ := by
  cases h with
  | unknownAddress hat =>
      rw [handle, hat]
      exact ⟨r, _, SameButSessions.refl r, rfl⟩
  | badHeader hat hbuf =>
      rw [handle, hat, hbuf]
      exact ⟨r, _, SameButSessions.refl r, rfl⟩
  | clientNotReady hat hbuf ht =>
      simp only [handle, hat, hbuf, process, ht]
      exact ⟨r, _, SameButSessions.refl r, rfl⟩
  | srtp hat hbuf ht hrtcp hplain =>
      rw [handle_eq_process hat hbuf hrtcp]
      simp only [process, ht, hplain]
      exact ⟨_, _, sameButSessions_setSrtp r _ _, rfl⟩
  | payload111 h hp =>
      obtain ⟨t, plain, ht, hplain⟩ := h.decrypts
      rw [handle_eq_process h.client h.parses h.rtp]
      simp only [process, ht, hplain, Bool.false_eq_true, if_false, if_pos hp]
      exact ⟨_, _, sameButSessions_setSrtp r _ _, rfl⟩
  | codecNotSet h hp hnone =>
      obtain ⟨t, plain, ht, hplain⟩ := h.decrypts
      rw [handle_eq_process h.client h.parses h.rtp]
      simp only [process, ht, hplain, Bool.false_eq_true, if_false, if_neg hp,
        handleRtp, runtimeOf_setSrtp, hnone]
      exact ⟨_, _, sameButSessions_setSrtp r _ _, rfl⟩

theorem rejected_of_decrypted {c : ClientRef} {header : RtpHeader}
    {rtcp : Bool} (hat : r.clientAt addr = some c)
    (hbuf : RtpHeader.fromBuf message = .ok (.ok header))
    (hrtcp : isRtcp message = .ok rtcp) {now : Instant}
    (h : decrypted lib r now message c rtcp header = none) :
    Rejected lib r message addr := by
  rw [decrypted] at h
  cases ht : (r.heap c).srtp with
  | none => exact .clientNotReady hat hbuf ht
  | some t =>
      rw [ht, Option.bind_some] at h
      cases hplain : (t.unprotect lib rtcp message).2 with
      | none => exact .srtp hat hbuf ht hrtcp hplain
      | some plain =>
          rw [hplain, Option.bind_some] at h
          cases rtcp with
          | true => cases h
          | false =>
              have hdec : DecryptedRtp lib r message addr c header :=
                ⟨hat, hbuf, hrtcp, t, plain, ht, hplain⟩
              simp only [Bool.false_eq_true, if_false] at h
              split at h
              · next hp => exact .payload111 hdec hp
              · next hp =>
                  rw [rewritten, runtimeOf_setSrtp, Option.map_eq_none_iff] at h
                  exact .codecNotSet hdec hp h

theorem prepare_of_rejected (h : Rejected lib r message addr) (now : Instant) :
    prepare lib r now message addr = none := by
  cases h with
  | unknownAddress hat => rw [prepare, hat]
  | badHeader hat hbuf => rw [prepare, hat, hbuf]
  | clientNotReady hat hbuf ht =>
      rw [prepare_eq_decrypted hat hbuf (isRtcp_eq message), decrypted, ht]
      rfl
  | srtp hat hbuf ht hrtcp hplain =>
      rw [prepare_eq_decrypted hat hbuf hrtcp, decrypted, ht,
        Option.bind_some, hplain]
      rfl
  | payload111 h hp =>
      obtain ⟨t, plain, ht, hplain⟩ := h.decrypts
      rw [prepare_eq_decrypted h.client h.parses h.rtp, decrypted, ht,
        Option.bind_some, hplain, Option.bind_some]
      simp only [Bool.false_eq_true, if_false, if_pos hp]
  | codecNotSet h hp hnone =>
      obtain ⟨t, plain, ht, hplain⟩ := h.decrypts
      rw [prepare_eq_decrypted h.client h.parses h.rtp, decrypted, ht,
        Option.bind_some, hplain, Option.bind_some]
      simp only [Bool.false_eq_true, if_false, if_neg hp, rewritten,
        runtimeOf_setSrtp, hnone, Option.map_none]

/-- The six ends are all there are. -/
theorem prepare_eq_none_iff (now : Instant) :
    prepare lib r now message addr = none ↔ Rejected lib r message addr := by
  refine ⟨fun h => ?_, fun h => prepare_of_rejected h now⟩
  cases hat : r.clientAt addr with
  | none => exact .unknownAddress hat
  | some c =>
      have hrtcp := isRtcp_eq message
      have hbuf := RtpHeader.fromBuf_eq message
      split at hbuf
      · rw [prepare_eq_decrypted hat hbuf hrtcp] at h
        exact rejected_of_decrypted hat hbuf hrtcp h
      · exact .badHeader hat hbuf

/-! ## No trace -/

/-- The handler left every client's counters and jitter statistics alone, and
sent neither a jitter message nor a datagram. -/
structure Traceless (r : Registry S) (o : Outcome S) : Prop where
  counters : ∀ c, (o.registry.heap c).rtpRuntimeStorage =
    (r.heap c).rtpRuntimeStorage
  jitterStats : ∀ c, (o.registry.heap c).jitterStats = (r.heap c).jitterStats
  control : o.control = []
  sent : o.sent = []

theorem traceless_of_rejected (h : Rejected lib r message addr)
    (now : Instant) (sched : List Receiver) :
    Traceless r (handle lib r now sched message addr) := by
  obtain ⟨r', result, hsame, heq⟩ := handle_of_rejected h now sched
  rw [heq]
  refine ⟨?_, ?_, rfl, rfl⟩
  · exact hsame.field (fun cl => cl.rtpRuntimeStorage) fun _ _ => rfl
  · exact hsame.field (fun cl => cl.jitterStats) fun _ _ => rfl

/-- The session of the packet's client decrypts the packet. -/
def Decrypts (lib : SrtpLib S) (r : Registry S) (message : DataPacket)
    (addr : SocketAddr) : Prop :=
  ∃ c t rtcp plain, r.clientAt addr = some c ∧ (r.heap c).srtp = some t ∧
    isRtcp message = .ok rtcp ∧ (t.unprotect lib rtcp message).2 = some plain

theorem decrypts_of_not_rejected (h : ¬ Rejected lib r message addr) :
    Decrypts lib r message addr := by
  cases hat : r.clientAt addr with
  | none => exact absurd (.unknownAddress hat) h
  | some c =>
      have hrtcp := isRtcp_eq message
      have hbuf := RtpHeader.fromBuf_eq message
      split at hbuf
      · cases ht : (r.heap c).srtp with
        | none => exact absurd (.clientNotReady hat hbuf ht) h
        | some t =>
            cases hplain : (t.unprotect lib _ message).2 with
            | none => exact absurd (.srtp hat hbuf ht hrtcp hplain) h
            | some plain => exact ⟨c, t, _, plain, hat, ht, hrtcp, hplain⟩
      · exact absurd (.badHeader hat hbuf) h

/-- In every reachable state and for every packet: the handler ends in front of
the forwarding exactly in the six ways of `Rejected`, a packet it rejects leaves
no trace, and a packet that leaves one was decrypted. -/
theorem rejected_packet_leaves_no_trace (lib : SrtpLib S)
    (es : List (Event S)) (now : Instant) (sched : List Receiver)
    (message : DataPacket) (addr : SocketAddr) :
    (prepare lib (System.after lib es).registry now message addr = none ↔
      Rejected lib (System.after lib es).registry message addr) ∧
    (Rejected lib (System.after lib es).registry message addr →
      Traceless (System.after lib es).registry
        (handle lib (System.after lib es).registry now sched message addr)) ∧
    (¬ Traceless (System.after lib es).registry
        (handle lib (System.after lib es).registry now sched message addr) →
      Decrypts lib (System.after lib es).registry message addr) := by
  refine ⟨prepare_eq_none_iff now, ?_, ?_⟩
  · exact fun h => traceless_of_rejected h now sched
  · intro htrace
    exact decrypts_of_not_rejected
      (mt (fun h => traceless_of_rejected h now sched) htrace)

end RStreamer.RtcActor
