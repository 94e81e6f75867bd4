import RStreamer.Basic

/-!
# SRTP transports (`rtp/srtp.rs`)

The cipher itself is the `srtp` crate, outside the repository. `SrtpLib` is its
interface, a parameter of everything above: a session is a value of an
arbitrary type `S`, each of the four calls may change it whether it succeeds or
not, and a call that fails gives no packet back. A transport keeps two
sessions, one for what the peer sends and one for what the server sends, and
each of the four wrappers picks the session the source picks.
-/

namespace RStreamer

/-- The calls of `srtp::Srtp` on a session. `none` is an `Err`. -/
structure SrtpLib (S : Type) where
  protect : S → DataPacket → S × Option DataPacket
  protectRtcp : S → DataPacket → S × Option DataPacket
  unprotect : S → DataPacket → S × Option DataPacket
  unprotectRtcp : S → DataPacket → S × Option DataPacket

/-- `SrtpTransport` -/
structure SrtpTransport (S : Type) where
  client : S
  server : S

namespace SrtpTransport

variable {S : Type}

/-- `SrtpTransport::protect` and `protect_rtcp`, on the server's session. -/
def protect (lib : SrtpLib S) (rtcp : Bool) (t : SrtpTransport S)
    (buf : DataPacket) : SrtpTransport S × Option DataPacket :=
  let r := if rtcp then lib.protectRtcp t.server buf
    else lib.protect t.server buf
  ({ t with server := r.1 }, r.2)

/-- `SrtpTransport::unprotect` and `unprotect_rtcp`, on the client's
session. -/
def unprotect (lib : SrtpLib S) (rtcp : Bool) (t : SrtpTransport S)
    (buf : DataPacket) : SrtpTransport S × Option DataPacket :=
  let r := if rtcp then lib.unprotectRtcp t.client buf
    else lib.unprotect t.client buf
  ({ t with client := r.1 }, r.2)

end SrtpTransport

/-! ## The null cipher

An instance to evaluate packets with: nothing is encrypted, and a packet
carries a tag of ten zero bytes, which `unprotect` checks and removes. -/

def nullTag : DataPacket := List.replicate 10 0

def stripNullTag (buf : DataPacket) : Option DataPacket :=
  if nullTag.isSuffixOf buf then
    some (buf.take (buf.length - nullTag.length))
  else none

/-- The null cipher. Its sessions have no state. -/
def SrtpLib.null : SrtpLib Unit where
  protect _ buf := ((), some (buf ++ nullTag))
  protectRtcp _ buf := ((), some (buf ++ nullTag))
  unprotect _ buf := ((), stripNullTag buf)
  unprotectRtcp _ buf := ((), stripNullTag buf)

/-- An RTP packet under the null cipher: payload type 96, sequence number `n`,
timestamp 9. -/
def videoPacket (n : UInt8) : DataPacket :=
  [128, 96, 0, n, 0, 0, 0, 9, 0, 0, 0, 1, 42] ++ nullTag

/-! ## What SRTP promises

`peer out inn` says that `out` protects with the keys and at the index `inn`
expects. The header of a packet is authenticated and not encrypted. -/

structure SrtpLib.Lawful {S : Type} (lib : SrtpLib S) (peer : S → S → Prop) :
    Prop where
  undo : ∀ {out inn : S} {buf enc : DataPacket}, peer out inn →
    (lib.protect out buf).2 = some enc → (lib.unprotect inn enc).2 = some buf
  header_clear : ∀ {inn : S} {buf plain : DataPacket},
    (lib.unprotect inn buf).2 = some plain → plain.take 12 = buf.take 12
  header_authentic : ∀ {out inn : S} {buf enc header : DataPacket},
    peer out inn → (lib.protect out buf).2 = some enc →
    header.length = 12 → header ≠ enc.take 12 →
    (lib.unprotect inn (header ++ enc.drop 12)).2 = none

/-- The same for feedback, whose packets have an index of their own. -/
structure SrtpLib.LawfulRtcp {S : Type} (lib : SrtpLib S)
    (peer : S → S → Prop) : Prop where
  undo : ∀ {out inn : S} {buf enc : DataPacket}, peer out inn →
    (lib.protectRtcp out buf).2 = some enc →
    (lib.unprotectRtcp inn enc).2 = some buf

/-- A tag that repeats the header, as long as a packet has one. -/
def tagHeader (buf : DataPacket) : Option DataPacket :=
  if 12 ≤ buf.length then some (buf ++ buf.take 12) else none

def stripHeaderTag (buf : DataPacket) : Option DataPacket :=
  let body := buf.take (buf.length - 12)
  if 24 ≤ buf.length ∧ buf.drop (buf.length - 12) = body.take 12 then some body
  else none

/-- The cipher that encrypts nothing and authenticates the header. -/
def SrtpLib.tagged : SrtpLib Unit where
  protect _ buf := ((), tagHeader buf)
  protectRtcp _ buf := ((), tagHeader buf)
  unprotect _ buf := ((), stripHeaderTag buf)
  unprotectRtcp _ buf := ((), stripHeaderTag buf)

theorem stripHeaderTag_append {body tag : DataPacket}
    (hbody : 12 ≤ body.length) (htag : tag.length = 12) :
    stripHeaderTag (body ++ tag) =
      if tag = body.take 12 then some body else none := by
  have hlen : (body ++ tag).length - 12 = body.length := by
    rw [List.length_append]
    omega
  have hlong : 24 ≤ (body ++ tag).length := by
    rw [List.length_append]
    omega
  simp only [stripHeaderTag, hlen, List.take_left, List.drop_left, hlong,
    true_and]

theorem tagHeader_eq_some {buf enc : DataPacket}
    (h : tagHeader buf = some enc) :
    12 ≤ buf.length ∧ enc = buf ++ buf.take 12 := by
  rw [tagHeader] at h
  split at h
  · next hlen => exact ⟨hlen, (Option.some.inj h).symm⟩
  · cases h

theorem stripHeaderTag_tagHeader {buf enc : DataPacket}
    (h : tagHeader buf = some enc) : stripHeaderTag enc = some buf := by
  obtain ⟨hlen, rfl⟩ := tagHeader_eq_some h
  refine (stripHeaderTag_append hlen ?_).trans (if_pos rfl)
  rw [List.length_take]
  omega

theorem SrtpLib.lawful_tagged : SrtpLib.tagged.Lawful fun _ _ => True where
  undo _ henc := stripHeaderTag_tagHeader henc
  header_clear := by
    intro _ buf plain hplain
    change stripHeaderTag buf = some plain at hplain
    simp only [stripHeaderTag] at hplain
    split at hplain
    · next hlen =>
        cases hplain
        rw [List.take_take]
        congr 1
        omega
    · cases hplain
  header_authentic := by
    intro _ _ buf enc header _ henc hheader hne
    obtain ⟨hlen, rfl⟩ := tagHeader_eq_some henc
    rw [List.take_append_of_le_length hlen] at hne
    rw [List.drop_append_of_le_length hlen, ← List.append_assoc]
    refine (stripHeaderTag_append ?_ ?_).trans (if_neg ?_)
    · rw [List.length_append]
      omega
    · rw [List.length_take]
      omega
    · rw [← hheader, List.take_left]
      rw [hheader]
      exact fun h => hne h.symm

theorem SrtpLib.lawfulRtcp_tagged :
    SrtpLib.tagged.LawfulRtcp fun _ _ => True where
  undo _ henc := stripHeaderTag_tagHeader henc

/-- `ErrorParse`, the errors a packet can end with in `RtcActor`. -/
inductive ErrorParse where
  | srtp
  | unsupportedFormat
  | clientNotReady (addr : SocketAddr)
  | codecNotSet (addr : SocketAddr)
  deriving DecidableEq, Repr

end RStreamer
