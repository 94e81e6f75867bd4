import RStreamer.Client.Clients
import RStreamer.Lib.Lock

/-!
# `ClientActor` (`client/actor.rs`)

The handlers that register, group, describe and delete clients, written once
as programs over the registry with every `parking_lot` guard in the scope the
source gives it. A temporary guard lives to the end of its statement, a guard
bound by `let` to the end of its block, and the guard in the scrutinee of an
`if let` to the end of that `if let`.

`Lock.Prog.exec` reads a handler with its locks, `Lock.Prog.eval` without them.
The closed forms (`register`, `delete`, `groupId`, `mediaAddr`) are the plain
reading computed once, so that no later proof looks inside a program again.
-/

namespace RStreamer

open Lock Lock.Prog

/-- The locks of the server: the one around `client_storage`, and those of a
client's fields. A `Mutex` is only ever taken in write mode. -/
inductive ClientLock where
  | clientStorage
  | media (c : ClientRef)
  | srtp (c : ClientRef)
  | rtpRuntimeStorage (c : ClientRef)
  | jitterStats (c : ClientRef)
  | receivers (c : ClientRef)
  | senderAddr (c : ClientRef)
  deriving DecidableEq, Repr

namespace ClientLock

def rd (l : ClientLock) : Guard ClientLock := ⟨l, .read⟩

def wr (l : ClientLock) : Guard ClientLock := ⟨l, .write⟩

end ClientLock

open ClientLock (rd wr)

namespace Registry

variable {S : Type}

/-- `client_storage.write().entry(addr).or_default()`: the first datagram of an
address makes a client for it. -/
def register (r : Registry S) (addr : SocketAddr) (now : Instant) :
    Registry S :=
  match r.clientAt addr with
  | some _ => r
  | none =>
      { r with
        clientStorage := r.clientStorage.insert addr r.next
        heap := Function.update r.heap r.next (Client.default now)
        next := r.next + 1 }

/-- `receivers.retain(not deleted)`, as `DeleteMessage` spells it. -/
def pruneReceivers (r : Registry S) (c : ClientRef) : Registry S :=
  r.modifyClient c fun cl => { cl with
    receivers :=
      Table.filter (fun _ recv => !(r.heap recv).isDeleted) cl.receivers }

/-- `*client.get_sender_addr().write() = Some(addr)` -/
def setSenderAddr (r : Registry S) (c : ClientRef) (addr : SocketAddr) :
    Registry S :=
  r.modifyClient c fun cl => { cl with senderAddr := some addr }

def setGroup (r : Registry S) (groupId : Nat) (addr : SocketAddr)
    (isSender : Bool) : Registry S :=
  { r with groups := (r.groups.insertOrGetSender groupId addr isSender).2 }

def receiversExcept (r : Registry S) (c : ClientRef) (addr : SocketAddr) :
    Table SocketAddr ClientRef :=
  Table.filter (fun recvAddr _ => recvAddr ≠ addr) (r.heap c).receivers

/-- `*sender.get_receivers().write() = receivers` -/
def setReceivers (r : Registry S) (c : ClientRef)
    (receivers : Table SocketAddr ClientRef) : Registry S :=
  r.modifyClient c fun cl => { cl with receivers := receivers }

/-- `entry(f).or_default()` for every frequency of a media list. -/
def addRuntimes (r : Registry S) (c : ClientRef) (now : Instant)
    (draw : UInt32 → RuntimeDraw) (frequencies : List UInt32) : Registry S :=
  r.modifyClient c fun cl => { cl with
    rtpRuntimeStorage := frequencies.foldl
      (fun st f => Table.orInsert f (ClientRtpRuntime.default now (draw f)) st)
      cl.rtpRuntimeStorage }

end Registry

namespace ClientActor

variable {S : Type}

/-- The registration at the head of `Handler<WebRtcRequest>`. -/
def handleDtls (addr : SocketAddr) (now : Instant) :
    Prog ClientLock (Registry S) Unit :=
  withGuard (wr .clientStorage) (write fun r => r.register addr now)

/-- `Handler<DeleteMessage>` -/
def handleDelete (addr : SocketAddr) : Prog ClientLock (Registry S) Bool := do
  let client ← withGuard (wr .clientStorage) do
    let r ← read
    write fun r => { r with clientStorage := r.clientStorage.erase addr }
    return r.clientAt addr
  match client with
  | some c =>
      write fun r => { r with groups := r.groups.removeSender addr }
      write fun r => r.modifyClient c fun cl => { cl with isDeleted := true }
      withGuard (wr (.receivers c)) (write fun r => r.pruneReceivers c)
      return true
  | none => return true

/-- The links `Handler<GroupId>` makes, once the group table is up to date and
`lastSenderAddr` is the sender it found there. -/
def link (lastSenderAddr addr : SocketAddr) (isSender : Bool) :
    Prog ClientLock (Registry S) Unit :=
  if lastSenderAddr = addr ∧ !isSender then
    return ()
  else
    withGuard (rd .clientStorage) do
      let r ← read
      match r.clientAt addr, r.clientAt lastSenderAddr with
      | some receiverRef, some senderRef =>
          withGuard (wr (.receivers senderRef)) do
            if lastSenderAddr ≠ addr ∧ isSender then
              -- the right-hand side takes the lock its target already holds
              withGuard (rd (.receivers senderRef)) do
                let r ← read
                let kept := r.receiversExcept senderRef addr
                forEach (fun e : Table.Entry SocketAddr ClientRef =>
                  withGuard (wr (.senderAddr e.2))
                    (write fun r => r.setSenderAddr e.2 addr)) kept.entries
                write fun r => r.setReceivers senderRef kept
            else
              withGuard (wr (.senderAddr receiverRef))
                (write fun r => r.setSenderAddr receiverRef lastSenderAddr)
              write fun r => r.setReceivers senderRef
                ((r.heap senderRef).receivers.insert addr receiverRef)
      | _, _ => return ()

/-- `Handler<GroupId>` -/
def handleGroupId (groupId : Nat) (addr : SocketAddr) (isSender : Bool) :
    Prog ClientLock (Registry S) Unit := do
  let r ← read
  write fun r => r.setGroup groupId addr isSender
  link (r.groups.insertOrGetSender groupId addr isSender).1 addr isSender

/-- `Handler<MediaAddrMessage>` -/
def handleMediaAddr (addr : SocketAddr) (media : MediaList) (now : Instant)
    (draw : UInt32 → RuntimeDraw) : Prog ClientLock (Registry S) Unit :=
  withGuard (rd .clientStorage) do
    let r ← read
    match r.clientAt addr with
    | some c =>
        withGuard (wr (.rtpRuntimeStorage c)) do
          write fun r => r.addRuntimes c now draw media.getFrequencies
          withGuard (wr (.media c))
            (write fun r => r.modifyClient c fun cl =>
              { cl with media := some media })
    | none => return ()

/-- `*client_ref.get_srtp().lock() = Some(srtp_transport)`, when the handshake
of a client ends well. -/
def handleConnected (c : ClientRef) (t : SrtpTransport S) :
    Prog ClientLock (Registry S) Unit :=
  withGuard (wr (.srtp c))
    (write fun r => r.modifyClient c fun cl => { cl with srtp := some t })

/-- What `ClientActor` does: the messages it handles, and the end of a
handshake its tasks ran. -/
inductive Message (S : Type) where
  | dtls (addr : SocketAddr) (now : Instant)
  | connected (c : ClientRef) (t : SrtpTransport S)
  | groupId (groupId : Nat) (addr : SocketAddr) (isSender : Bool)
  | mediaAddr (addr : SocketAddr) (media : MediaList) (now : Instant)
      (draw : UInt32 → RuntimeDraw)
  | delete (addr : SocketAddr)

def handler : Message S → Prog ClientLock (Registry S) Unit
  | .dtls addr now => handleDtls addr now
  | .connected c t => handleConnected c t
  | .groupId groupId addr isSender => handleGroupId groupId addr isSender
  | .mediaAddr addr media now draw => handleMediaAddr addr media now draw
  | .delete addr => do
      let _ ← handleDelete addr
      return ()

/-- A handler run with its locks: `none` if it waits for itself. -/
def handle? (r : Registry S) (m : Message S) : Option (Registry S) :=
  ((handler m).exec [] r).map fun out => out.2.2

def handle (r : Registry S) (m : Message S) : Registry S :=
  ((handler m).eval r).2

/-- Locks only ever stop a handler; they never change what it computes. -/
theorem handle_of_handle? {r r' : Registry S} {m : Message S}
    (h : handle? r m = some r') : r' = handle r m := by
  rw [handle?] at h
  obtain ⟨⟨a, held, s⟩, hexec, rfl⟩ := Option.map_eq_some_iff.mp h
  rw [handle, exec_eval hexec]

end ClientActor

/-! ## The closed forms -/

namespace Registry

variable {S : Type}

/-- `Handler<DeleteMessage>` on plain memory. -/
def delete (r : Registry S) (addr : SocketAddr) : Registry S :=
  match r.clientAt addr with
  | none => { r with clientStorage := r.clientStorage.erase addr }
  | some c =>
      (({ r with
        clientStorage := r.clientStorage.erase addr
        groups := r.groups.removeSender addr }).modifyClient c
          fun cl => { cl with isDeleted := true }).pruneReceivers c

/-- A new sender at `addr` takes the group over from the client `senderRef`. -/
def takeover (r : Registry S) (senderRef : ClientRef) (addr : SocketAddr) :
    Registry S :=
  let kept := r.receiversExcept senderRef addr
  (kept.entries.foldl (fun r e => r.setSenderAddr e.2 addr) r).setReceivers
    senderRef kept

/-- The client at `addr` becomes a receiver of the client at
`lastSenderAddr`. -/
def join (r : Registry S) (receiverRef senderRef : ClientRef)
    (addr lastSenderAddr : SocketAddr) : Registry S :=
  let r := r.setSenderAddr receiverRef lastSenderAddr
  r.setReceivers senderRef
    ((r.heap senderRef).receivers.insert addr receiverRef)

/-- The group's sender as a `GroupId` from `addr` finds it. -/
def lastSender (r : Registry S) (groupId : Nat) (addr : SocketAddr) :
    SocketAddr :=
  (r.groups.lookup groupId).getD addr

/-- `Handler<GroupId>` on plain memory. -/
def groupId (r : Registry S) (groupId : Nat) (addr : SocketAddr)
    (isSender : Bool) : Registry S :=
  let last := r.lastSender groupId addr
  let r' := r.setGroup groupId addr isSender
  if last = addr ∧ !isSender then r'
  else
    match r.clientAt addr, r.clientAt last with
    | some receiverRef, some senderRef =>
        if last ≠ addr ∧ isSender then r'.takeover senderRef addr
        else r'.join receiverRef senderRef addr last
    | _, _ => r'

def mediaAddr (r : Registry S) (addr : SocketAddr) (media : MediaList)
    (now : Instant) (draw : UInt32 → RuntimeDraw) : Registry S :=
  match r.clientAt addr with
  | none => r
  | some c =>
      (r.addRuntimes c now draw media.getFrequencies).modifyClient c
        fun cl => { cl with media := some media }

def connected (r : Registry S) (c : ClientRef) (t : SrtpTransport S) :
    Registry S :=
  r.modifyClient c fun cl => { cl with srtp := some t }

end Registry

namespace ClientActor

variable {S : Type}

@[simp] theorem handle_dtls (r : Registry S) (addr : SocketAddr)
    (now : Instant) : handle r (.dtls addr now) = r.register addr now := by
  simp [handle, handler, handleDtls]

@[simp] theorem handle_connected (r : Registry S) (c : ClientRef)
    (t : SrtpTransport S) : handle r (.connected c t) = r.connected c t := by
  simp [handle, handler, handleConnected, Registry.connected]

@[simp] theorem handle_delete (r : Registry S) (addr : SocketAddr) :
    handle r (.delete addr) = r.delete addr := by
  simp only [handle, handler, handleDelete, eval_monad_bind, eval_withGuard,
    eval_read, eval_write, eval_pure, Registry.delete]
  cases r.clientAt addr with
  | none => rfl
  | some c => simp

@[simp] theorem handle_mediaAddr (r : Registry S) (addr : SocketAddr)
    (media : MediaList) (now : Instant) (draw : UInt32 → RuntimeDraw) :
    handle r (.mediaAddr addr media now draw) =
      r.mediaAddr addr media now draw := by
  simp only [handle, handler, handleMediaAddr, eval_monad_bind,
    eval_withGuard, eval_read, Registry.mediaAddr]
  cases r.clientAt addr with
  | none => rfl
  | some c => simp

theorem eval_link (r : Registry S) (last addr : SocketAddr)
    (isSender : Bool) : ((link last addr isSender).eval r).2 =
      if last = addr ∧ !isSender then r
      else
        match r.clientAt addr, r.clientAt last with
        | some receiverRef, some senderRef =>
            if last ≠ addr ∧ isSender then r.takeover senderRef addr
            else r.join receiverRef senderRef addr last
        | _, _ => r := by
  rw [link]
  split
  · rfl
  · simp only [eval_withGuard, eval_monad_bind, eval_read]
    cases r.clientAt addr with
    | none => rfl
    | some receiverRef =>
        cases r.clientAt last with
        | none => rfl
        | some senderRef =>
            simp only [eval_withGuard]
            split
            · simp only [eval_withGuard, eval_monad_bind, eval_read,
                eval_write, eval_forEach]
              rfl
            · simp only [eval_withGuard, eval_monad_bind, eval_write]
              rfl

@[simp] theorem handle_groupId (r : Registry S) (g : Nat) (addr : SocketAddr)
    (isSender : Bool) : handle r (.groupId g addr isSender) =
      r.groupId g addr isSender := by
  simp only [handle, handler, handleGroupId, eval_monad_bind, eval_read,
    eval_write, eval_link, GroupsStorage.insertOrGetSender_fst]
  rfl

end ClientActor

end RStreamer
