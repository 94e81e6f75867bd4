import RStreamer.Server.Udp

/-!
# Which datagrams the receive path survives

Every recogniser checks how long its input is before it reads, with one
exception: `is_dtls` reads the first byte of whatever it is given. It is asked
last, so an empty datagram, which neither of the others takes, reaches it and
ends the receive loop. `classified_iff_nonempty` says that this is the only
one: every other datagram, of any length and content, is classified.
-/

namespace RStreamer

open Bytes

theorem isDtls_returns_iff (buf : DataPacket) :
    (∃ b, isDtls buf = .ok b) ↔ buf ≠ [] := by
  cases buf with
  | nil =>
      refine iff_of_false ?_ fun h => h rfl
      rintro ⟨b, hb⟩
      cases hb
  | cons b rest =>
      refine iff_of_true ?_ (List.cons_ne_nil b rest)
      rw [isDtls]
      rw [index_ok (show 0 < (b :: rest).length from Nat.succ_pos _), ok_bind]
      split
      · exact ⟨false, rfl⟩
      · exact ⟨_, rfl⟩

theorem fromDatagram_nil (addr : SocketAddr) :
    WebRtcRequest.fromDatagram [] addr = .error .indexOutOfRange := rfl

theorem fromDatagram_cons (b : UInt8) (rest : DataPacket)
    (addr : SocketAddr) :
    ∃ req, WebRtcRequest.fromDatagram (b :: rest) addr = .ok req := by
  obtain ⟨stun, hstun⟩ := Stun.parseStunBindingRequest_ok (b :: rest)
  obtain ⟨dtls, hdtls⟩ := (isDtls_returns_iff (b :: rest)).mpr
    (List.cons_ne_nil b rest)
  rw [WebRtcRequest.fromDatagram, RtpHeader.isRtpHeader_eq, ok_bind]
  split
  · exact ⟨_, rfl⟩
  · rw [hstun, ok_bind]
    cases stun with
    | some req => exact ⟨_, rfl⟩
    | none =>
        simp only []
        rw [hdtls, ok_bind]
        cases dtls with
        | true => exact ⟨_, rfl⟩
        | false => exact ⟨_, rfl⟩

/-- Every datagram from every address is classified, except the empty one. -/
theorem classified_iff_nonempty (buf : DataPacket) (addr : SocketAddr) :
    (∃ req, WebRtcRequest.fromDatagram buf addr = .ok req) ↔ buf ≠ [] := by
  cases buf with
  | nil =>
      refine iff_of_false ?_ fun h => h rfl
      rintro ⟨req, hreq⟩
      rw [fromDatagram_nil] at hreq
      cases hreq
  | cons b rest =>
      exact iff_of_true (fromDatagram_cons b rest addr)
        (List.cons_ne_nil b rest)

/-- A UDP datagram may carry no payload. -/
theorem empty_datagram_panics :
    ¬ ∀ (buf : DataPacket) (addr : SocketAddr), buf.length ≤ 1200 →
      ∃ req, WebRtcRequest.fromDatagram buf addr = .ok req := by
  intro h
  obtain ⟨req, hreq⟩ := h [] (.host 1) (by decide)
  rw [fromDatagram_nil] at hreq
  cases hreq

end RStreamer
