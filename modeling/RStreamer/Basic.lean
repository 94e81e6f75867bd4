import RStreamer.Lib.Bytes

/-!
# The types every actor shares

Addresses, datagrams and the monotone clock. Time is counted in nanoseconds,
the resolution of `std::time`, so that the truncation to milliseconds the code
performs is the one performed here.
-/

namespace RStreamer

/-- `std::net::SocketAddr` -/
inductive SocketAddr where
  | v4 (ip : Vector UInt8 4) (port : UInt16)
  | v6 (ip : Vector UInt8 16) (port : UInt16) (flowinfo scopeId : UInt32)
  deriving DecidableEq, Repr

/-- Port 5000 of a host in `10.0.0.0/24`. -/
def SocketAddr.host (n : UInt8) : SocketAddr := .v4 #v[10, 0, 0, n] 5000

/-- `DataPacket`, the bytes of one datagram. -/
abbrev DataPacket : Type := List UInt8

/-- A reading of the monotone clock, in nanoseconds. -/
abbrev Instant : Type := Nat

/-- A span of time, in nanoseconds. -/
abbrev Duration : Type := Nat

namespace Duration

/-- `Duration::from_millis` -/
def fromMillis (n : Nat) : Duration := n * 1000000

/-- `Duration::from_secs` -/
def fromSecs (n : Nat) : Duration := n * 1000000000

/-- `Duration::as_millis`, which truncates. -/
def asMillis (d : Duration) : Nat := d / 1000000

theorem fromMillis_add (m n : Nat) :
    fromMillis m + fromMillis n = fromMillis (m + n) :=
  (Nat.add_mul m n 1000000).symm

theorem fromMillis_sub (m n : Nat) :
    fromMillis m - fromMillis n = fromMillis (m - n) :=
  (Nat.sub_mul m n 1000000).symm

theorem fromMillis_lt {m n : Nat} : fromMillis m < fromMillis n ↔ m < n :=
  Nat.mul_lt_mul_right (by decide)

theorem fromMillis_inj {m n : Nat} : fromMillis m = fromMillis n ↔ m = n :=
  Nat.mul_left_inj (by decide)

end Duration

/-- `Instant::elapsed`, read at `now`. -/
def elapsed (now since : Instant) : Duration := now - since

end RStreamer
