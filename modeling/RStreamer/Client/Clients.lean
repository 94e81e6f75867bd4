import Mathlib.Data.UInt
import Mathlib.Logic.Function.Basic
import RStreamer.Rtp.Jitter
import RStreamer.Sdp.Media

/-!
# Clients and where they are kept (`client/clients.rs`, `client/group.rs`)

A client is shared: `client_storage` and the receivers maps of other clients
all hold `Arc`s to it, and it outlives its removal from either. So a client is
a place on a heap, an `Arc` is the number of that place (`ClientRef`), and
everything `ClientActor` and `RtcActor` share is a `Registry`: the heap, the
storage by address, and the group table. A fresh client takes the next unused
number, which is what makes two clients registered at one address at different
times different clients.

The interior of a client is plain data here. The locks around its fields are
named in `Client/Actor.lean`, where taking them matters.
-/

namespace RStreamer

/-! ## The counters of one stream -/

/-- `NonZeroU16`, `NonZeroU32` -/
abbrev NonZero (U : Type) [OfNat U 0] : Type := { u : U // u ≠ 0 }

/-- `NonZeroU16::new`, `NonZeroU32::new` -/
def NonZero.new {U : Type} [OfNat U 0] [DecidableEq U] (u : U) :
    Option (NonZero U) :=
  if h : u = 0 then none else some ⟨u, h⟩

/-- `saturating_sub` -/
def saturatingSub {U : Type} [OfNat U 0] [LE U] [DecidableLE U] [Sub U]
    (a b : U) : U :=
  if b ≤ a then a - b else 0

/-- `ClientRtpRuntime` -/
structure ClientRtpRuntime where
  clientTs : Option (NonZero UInt32)
  serverTs : UInt32
  clientSequence : Option (NonZero UInt16)
  serverSequence : UInt16
  startedTime : Instant
  prevTimeDiff : Duration
  deriving DecidableEq

/-- What `ClientRtpRuntime::default` draws from the random generator. -/
structure RuntimeDraw where
  serverTs : UInt32
  serverSequence : UInt16
  serverTs_range : 1 ≤ serverTs ∧ serverTs < 100000
  serverSequence_range : 1 ≤ serverSequence ∧ serverSequence < 10000

def RuntimeDraw.least : RuntimeDraw := ⟨1, 1, by decide, by decide⟩

/-- `ClientRtpRuntime::default`, created at `now`. -/
def ClientRtpRuntime.default (now : Instant) (draw : RuntimeDraw) :
    ClientRtpRuntime where
  clientTs := none
  serverTs := draw.serverTs
  clientSequence := none
  serverSequence := draw.serverSequence
  startedTime := now
  prevTimeDiff := 0

/-- `ClientRtpRuntimeStorage`, keyed by clock frequency. -/
abbrev ClientRtpRuntimeStorage : Type := Table UInt32 ClientRtpRuntime

/-- `ClientRtpJitterStats` -/
structure ClientRtpJitterStats where
  jitterDelay : UInt32
  jitterCheckTimestamp : Instant
  deriving DecidableEq, Repr

/-- `ClientRtpJitterStats::default`, created at `now`. -/
def ClientRtpJitterStats.default (now : Instant) : ClientRtpJitterStats where
  jitterDelay := UInt32.ofNat (Duration.asMillis JITTER_BUFFER_START_DELAY)
  jitterCheckTimestamp := now

/-! ## Clients -/

/-- `ClientSafeRef`, an `Arc<Client>`: which client, not what is in it. -/
abbrev ClientRef : Type := Nat

/-- `Client`, the fields routing and rewriting use. The DTLS stream, its
channels and the handshake state are not read on these paths. -/
structure Client (S : Type) where
  media : Option MediaList
  srtp : Option (SrtpTransport S)
  rtpRuntimeStorage : ClientRtpRuntimeStorage
  jitterStats : ClientRtpJitterStats
  receivers : Table SocketAddr ClientRef
  senderAddr : Option SocketAddr
  isDeleted : Bool

/-- `Client::default`, created at `now`. -/
def Client.default {S : Type} (now : Instant) : Client S where
  media := none
  srtp := none
  rtpRuntimeStorage := ∅
  jitterStats := ClientRtpJitterStats.default now
  receivers := ∅
  senderAddr := none
  isDeleted := false

/-! ## Groups -/

/-- `GroupsStorage`: the address of each group's sender. -/
abbrev GroupsStorage : Type := Table Nat SocketAddr

namespace GroupsStorage

/-- `Group::insert_or_get_sender`: the group's sender before the call, or
`addr` if it had none, and the table after it. -/
def insertOrGetSender (g : GroupsStorage) (groupId : Nat) (addr : SocketAddr)
    (isSender : Bool) : SocketAddr × GroupsStorage :=
  if isSender then
    ((g.lookup groupId).getD addr, g.insert groupId addr)
  else
    ((g.lookup groupId).getD addr, Table.orInsert groupId addr g)

/-- `Group::remove_sender` -/
def removeSender (g : GroupsStorage) (addr : SocketAddr) : GroupsStorage :=
  Table.filter (fun _ senderAddr => addr ≠ senderAddr) g

theorem insertOrGetSender_fst (g : GroupsStorage) (groupId : Nat)
    (addr : SocketAddr) (isSender : Bool) :
    (g.insertOrGetSender groupId addr isSender).1 =
      (g.lookup groupId).getD addr := by
  rw [insertOrGetSender]
  split <;> rfl

theorem lookup_insertOrGetSender (g : GroupsStorage) (groupId groupId' : Nat)
    (addr : SocketAddr) (isSender : Bool) :
    (g.insertOrGetSender groupId addr isSender).2.lookup groupId' =
      if groupId' = groupId then
        some (if isSender then addr else (g.lookup groupId).getD addr)
      else g.lookup groupId' := by
  rw [insertOrGetSender]
  cases isSender with
  | true => exact Table.lookup_insert' groupId' groupId addr g
  | false => exact Table.lookup_orInsert groupId' groupId addr g

end GroupsStorage

/-! ## The registry -/

/-- What the two actors share: `client_storage`, the clients behind the
`Arc`s, and the group table of `ClientActor`. `next` is the number the next
client gets. -/
structure Registry (S : Type) where
  clientStorage : Table SocketAddr ClientRef
  groups : GroupsStorage
  heap : ClientRef → Client S
  next : ClientRef

namespace Registry

variable {S : Type}

def init : Registry S where
  clientStorage := ∅
  groups := ∅
  heap := fun _ => Client.default 0
  next := 0

def modifyClient (r : Registry S) (c : ClientRef)
    (f : Client S → Client S) : Registry S :=
  { r with heap := Function.update r.heap c (f (r.heap c)) }

@[simp] theorem modifyClient_clientStorage (r : Registry S) (c : ClientRef)
    (f : Client S → Client S) :
    (r.modifyClient c f).clientStorage = r.clientStorage := rfl

@[simp] theorem modifyClient_next (r : Registry S) (c : ClientRef)
    (f : Client S → Client S) : (r.modifyClient c f).next = r.next := rfl

theorem modifyClient_heap (r : Registry S) (c d : ClientRef)
    (f : Client S → Client S) : (r.modifyClient c f).heap d =
      if d = c then f (r.heap c) else r.heap d := by
  simp only [modifyClient, Function.update_apply]

@[simp] theorem modifyClient_heap_self (r : Registry S) (c : ClientRef)
    (f : Client S → Client S) : (r.modifyClient c f).heap c = f (r.heap c) := by
  rw [modifyClient_heap, if_pos rfl]

@[simp] theorem modifyClient_heap_ne {r : Registry S} {c d : ClientRef}
    (f : Client S → Client S) (h : d ≠ c) :
    (r.modifyClient c f).heap d = r.heap d := by
  rw [modifyClient_heap, if_neg h]

def clientAt (r : Registry S) (addr : SocketAddr) : Option ClientRef :=
  r.clientStorage.lookup addr

theorem modifyClient_heap_field {β : Type} (π : Client S → β)
    {f : Client S → Client S} (hf : ∀ cl, π (f cl) = π cl) (r : Registry S)
    (c d : ClientRef) : π ((r.modifyClient c f).heap d) = π (r.heap d) := by
  rw [modifyClient_heap]
  split
  · next h => rw [hf, h]
  · rfl

end Registry

end RStreamer
