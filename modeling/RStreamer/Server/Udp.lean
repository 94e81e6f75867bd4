import RStreamer.Rtp.Core
import RStreamer.Stun.Parse

/-!
# Datagrams (`server/udp.rs`, `dtls/mod.rs`)

What the receive loop makes of a datagram. Three recognisers are asked in
turn, each on the raw bytes, and the first that answers decides the kind.
-/

namespace RStreamer

open Bytes

/-- `WebRtcRequest` -/
inductive WebRtcRequest where
  | stun (req : StunBindingRequest) (addr : SocketAddr)
  | dtls (message : DataPacket) (addr : SocketAddr)
  | rtc (message : DataPacket) (addr : SocketAddr)
  | unknown
  deriving DecidableEq

/-- `is_dtls`, which reads the first byte once or twice. -/
def isDtls (buf : DataPacket) : Except Panic Bool := do
  if (← index buf 0) < 20 then
    return false
  return decide ((← index buf 0) ≤ 64)

/-- `WebRtcRequest::from` -/
def WebRtcRequest.fromDatagram (buf : DataPacket) (addr : SocketAddr) :
    Except Panic WebRtcRequest := do
  if ← RtpHeader.isRtpHeader buf then
    return .rtc buf addr
  if let some req ← Stun.parseStunBindingRequest buf then
    return .stun req addr
  if ← isDtls buf then
    return .dtls buf addr
  return .unknown

/-- A request carries the bytes and the address of its datagram. -/
theorem WebRtcRequest.fromDatagram_cases {buf : DataPacket}
    {addr : SocketAddr} {req : WebRtcRequest}
    (h : fromDatagram buf addr = .ok req) :
    req = .rtc buf addr ∨
      (∃ r, req = .stun r addr ∧
        Stun.parseStunBindingRequest buf = .ok (some r)) ∨
      req = .dtls buf addr ∨ req = .unknown := by
  rw [fromDatagram] at h
  cases hrtp : RtpHeader.isRtpHeader buf with
  | error e => rw [hrtp] at h; cases h
  | ok rtp =>
      rw [hrtp, ok_bind] at h
      split at h
      · cases h; exact .inl rfl
      · cases hstun : Stun.parseStunBindingRequest buf with
        | error e => rw [hstun] at h; cases h
        | ok stun =>
            rw [hstun, ok_bind] at h
            cases stun with
            | some r => cases h; exact .inr (.inl ⟨r, rfl, rfl⟩)
            | none =>
                simp only [] at h
                cases hdtls : isDtls buf with
                | error e => rw [hdtls] at h; cases h
                | ok dtls =>
                    rw [hdtls, ok_bind] at h
                    split at h
                    · cases h; exact .inr (.inr (.inl rfl))
                    · cases h; exact .inr (.inr (.inr rfl))

end RStreamer
