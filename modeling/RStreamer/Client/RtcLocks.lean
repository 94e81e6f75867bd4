import RStreamer.Client.RtcEffects
import RStreamer.Lib.Threads

/-!
# The locks of `RtcActor` (`client/rtc_actor.rs`)

`RtcActor` runs on as many threads as the machine has processors, all of them
beside the thread of `ClientActor`. So the handler that `Client/RtcActor.lean`
reads as one step is in truth interleaved with other handlers wherever it takes
or drops a lock. Here it is written as a program, with every guard in the scope
the source gives it: the guard on `receivers` is held during the whole fan-out,
the one on `sender_addr` while the sender is looked up and the packet protected,
the one on the jitter statistics inside the one on the counters, and the others
in their own blocks.

The closures of the fan-out run on the threads of a pool. A closure holds one
guard at a time and nothing is requested under it, so it waits for the same
guards here, where the thread of the handler runs them, as it does there.

`eval_handler` is the link to the atomic reading: run without interference, the
program does what `RtcActor.handle` does.
-/

namespace RStreamer

open Lock Lock.Prog

open ClientLock (rd wr)

/-- What the threads of the server share: the registry, and the mailboxes of
`JitterControlActor` and `UdpSend` as far as `RtcActor` fills them. The numbers
written into packets are kept beside them, in the order they were given out. -/
structure Shared (S : Type) where
  registry : Registry S
  jitter : List JitterMessage
  sent : List Emission
  written : List Written

namespace Shared

variable {S : Type}

def onRegistry (f : Registry S → Registry S) (s : Shared S) : Shared S :=
  { s with registry := f s.registry }

/-- `udp_send.do_send` -/
def send (e : Emission) (s : Shared S) : Shared S :=
  { s with sent := s.sent ++ [e] }

/-- `jitter_control.do_send` -/
def control (ms : List JitterMessage) (s : Shared S) : Shared S :=
  { s with jitter := s.jitter ++ ms }

/-- The shared state with what a handler adds to it. -/
def add (s : Shared S) (out : Outcome S) : Shared S where
  registry := out.registry
  jitter := s.jitter ++ out.control
  sent := s.sent ++ out.sent
  written := s.written ++ out.written.toList

end Shared

/-- Sets the SRTP transport of a client. -/
def Registry.setSrtp {S : Type} (r : Registry S) (c : ClientRef)
    (t : SrtpTransport S) : Registry S :=
  r.modifyClient c fun cl => { cl with srtp := some t }

/-- Sets the counters of a client at one frequency. -/
def Registry.setRuntime {S : Type} (r : Registry S) (c : ClientRef)
    (frequency : UInt32) (rt : ClientRtpRuntime) : Registry S :=
  r.modifyClient c fun cl =>
    { cl with rtpRuntimeStorage := cl.rtpRuntimeStorage.insert frequency rt }

/-- The statistics of a client after a verdict. -/
def Registry.applyVerdict {S : Type} (r : Registry S) (c : ClientRef)
    (now : Instant) (verdict : Option DelayChange) : Registry S :=
  r.modifyClient c fun cl =>
    { cl with jitterStats := cl.jitterStats.apply now verdict }

namespace RtcActor

variable {S : Type}

/-- `client_storage.read().get(&addr)` -/
def findClient (addr : SocketAddr) :
    Prog ClientLock (Shared S) (Option ClientRef) :=
  withGuard (rd .clientStorage) do
    let s ← read
    return s.registry.clientAt addr

/-- The block of `codec_n_frequency`. -/
def findCodec (c : ClientRef) (rtcp : Bool) (payload : UInt8) :
    Prog ClientLock (Shared S) (Option (String × UInt32)) :=
  if rtcp then return none
  else
    withGuard (rd (.media c)) do
      let s ← read
      return codecNFrequency (s.registry.heap c).media rtcp payload

/-- "Decrypt rtp package" -/
def decrypt (lib : SrtpLib S) (c : ClientRef) (addr : SocketAddr)
    (rtcp : Bool) (header : RtpHeader) (message : DataPacket) :
    Prog ClientLock (Shared S) (Except ErrorParse DataPacket) :=
  withGuard (wr (.srtp c)) do
    let s ← read
    match (s.registry.heap c).srtp with
    | none => return .error (.clientNotReady addr)
    | some t =>
        let out := t.unprotect lib rtcp message
        write (Shared.onRegistry fun r => r.setSrtp c out.1)
        match out.2 with
        | none => return .error .srtp
        | some plain =>
            if rtcp = false ∧ header.payload = 111 then
              return .error .unsupportedFormat
            else return .ok plain

/-- "Calculating jitter delay". The message to `JitterControlActor` is sent
under the guard. -/
def adjustDelay (c : ClientRef) (frequency : UInt32) (rw : Rewriting)
    (addr : SocketAddr) (now : Instant) :
    Prog ClientLock (Shared S) Unit :=
  withGuard (wr (.jitterStats c)) do
    let s ← read
    let verdict := (s.registry.heap c).jitterStats.verdict frequency rw now
    write (Shared.onRegistry fun r => r.applyVerdict c now verdict)
    write (Shared.control (verdict.map fun v => v.message addr).toList)

/-- "Replace client with server meta", with the jitter delay inside. -/
def replaceMeta (c : ClientRef) (addr : SocketAddr) (now : Instant)
    (p : Prepared) :
    Prog ClientLock (Shared S) (Except ErrorParse DataPacket) :=
  withGuard (wr (.rtpRuntimeStorage c)) do
    let s ← read
    match runtimeOf (s.registry.heap c) p.codecNFrequency with
    | none => return .error (.codecNotSet addr)
    | some (frequency, rt) =>
        let rw := rt.rewrite p.header now
        let sequence := rw.runtime.serverSequence
        let timestamp := rw.runtime.serverTs
        write fun s =>
          { s with
            registry := s.registry.setRuntime c frequency rw.runtime
            written := s.written ++
              [⟨c, frequency, p.header, now, sequence, timestamp⟩] }
        adjustDelay c frequency rw addr now
        return .ok (replaceSequenceNTimestamp p.message sequence timestamp)

/-- "Encrypt rtp package" -/
def encrypt (lib : SrtpLib S) (addr : SocketAddr) (p : Prepared)
    (recv : Receiver) :
    Prog ClientLock (Shared S) (Except ErrorParse DataPacket) :=
  withGuard (wr (.srtp recv.2)) do
    let s ← read
    match (s.registry.heap recv.2).srtp with
    | none => return .error (.clientNotReady addr)
    | some t =>
        let out := t.protect lib p.rtcp p.message
        write (Shared.onRegistry fun r => r.setSrtp recv.2 out.1)
        match out.2 with
        | none => return .error .srtp
        | some message => return .ok message

/-- "Prepare payload type" -/
def preparePayloadType (p : Prepared) (recv : Receiver)
    (message : DataPacket) : Prog ClientLock (Shared S) DataPacket :=
  if p.rtcp then
    match p.codecNFrequency with
    | some _ =>
        withGuard (rd (.media recv.2)) do
          let s ← read
          return preparePayload p (s.registry.heap recv.2).media message
    | none => return message
  else return message

/-- The closure of the fan-out. -/
def sendToReceiver (lib : SrtpLib S) (addr : SocketAddr) (p : Prepared)
    (recv : Receiver) :
    Prog ClientLock (Shared S) (Except ErrorParse Emission) := do
  match ← encrypt lib addr p recv with
  | .error e => return .error e
  | .ok message =>
      let message ← preparePayloadType p recv message
      write (Shared.send ⟨recv.1, message, recv.2⟩)
      return .ok ⟨recv.1, message, recv.2⟩

/-- Some receivers in turn, those that are deleted passed over. -/
def sendEach (lib : SrtpLib S) (addr : SocketAddr) (p : Prepared) :
    List Receiver → Prog ClientLock (Shared S)
      (List (Receiver × Except ErrorParse Emission))
  | [] => return []
  | recv :: rest => do
      let s ← read
      if (s.registry.heap recv.2).isDeleted then
        sendEach lib addr p rest
      else
        let res ← sendToReceiver lib addr p recv
        let more ← sendEach lib addr p rest
        return (recv, res) :: more

/-- `receivers.par_iter().filter(..).try_for_each(..)`, in the order of
`sched`. -/
def sendAll (lib : SrtpLib S) (addr : SocketAddr) (p : Prepared)
    (c : ClientRef) (sched : List Receiver) :
    Prog ClientLock (Shared S) (Except ErrorParse Unit) := do
  let s ← read
  let items := (s.registry.heap c).receivers.entries
  let first ← sendEach lib addr p (ParIter.picked items sched)
  if first.any ParIter.failed then
    return firstError first
  else
    let rest ← sendEach lib addr p (ParIter.left items sched)
    return firstError (first ++ rest)

/-- The packet protected for the sender a client receives from, if there is
one. -/
def encryptFeedback (lib : SrtpLib S) (p : Prepared) (c : ClientRef) :
    Prog ClientLock (Shared S) (Option (Except ErrorParse Emission)) :=
  withGuard (rd (.senderAddr c)) do
    let s ← read
    match (s.registry.heap c).senderAddr with
    | none => return none
    | some senderAddr =>
        match ← findClient senderAddr with
        | none => return none
        | some sender =>
            withGuard (wr (.srtp sender)) do
              let s ← read
              match (s.registry.heap sender).srtp with
              | none => return none
              | some t =>
                  let out := t.protect lib true p.message
                  write (Shared.onRegistry fun r => r.setSrtp sender out.1)
                  match out.2 with
                  | none => return some (.error .srtp)
                  | some message =>
                      return some (.ok ⟨senderAddr, message, sender⟩)

def sendFeedback (lib : SrtpLib S) (p : Prepared) (c : ClientRef) :
    Prog ClientLock (Shared S) (Except ErrorParse Unit) := do
  match ← encryptFeedback lib p c with
  | some (.ok e) =>
      write (Shared.send e)
      return .ok ()
  | some (.error e) => return .error e
  | none => return .ok ()

/-- The code under the guard of the client's receivers. -/
def forwardAll (lib : SrtpLib S) (addr : SocketAddr) (p : Prepared)
    (c : ClientRef) (sched : List Receiver) :
    Prog ClientLock (Shared S) (Except ErrorParse Unit) :=
  withGuard (rd (.receivers c)) do
    let s ← read
    if p.rtcp && Table.isEmpty (s.registry.heap c).receivers then
      sendFeedback lib p c
    else sendAll lib addr p c sched

/-- A packet with a well-formed header from a known client. -/
def handlePacket (lib : SrtpLib S) (now : Instant) (sched : List Receiver)
    (message : DataPacket) (addr : SocketAddr) (c : ClientRef) (rtcp : Bool)
    (header : RtpHeader) :
    Prog ClientLock (Shared S) (Except ErrorParse Unit) := do
  let codec ← findCodec c rtcp header.payload
  match ← decrypt lib c addr rtcp header message with
  | .error e => return .error e
  | .ok plain =>
      let p : Prepared := ⟨rtcp, header, codec, plain⟩
      if rtcp then forwardAll lib addr p c sched
      else
        match ← replaceMeta c addr now p with
        | .error e => return .error e
        | .ok message => forwardAll lib addr { p with message := message } c sched

/-- `Handler<WebRtcRequest>` with its locks. -/
def handler (lib : SrtpLib S) (now : Instant) (sched : List Receiver)
    (message : DataPacket) (addr : SocketAddr) :
    Prog ClientLock (Shared S) (Except ErrorParse Unit) := do
  match ← findClient addr with
  | none => return .ok ()
  | some c =>
      match RtpHeader.fromBuf message with
      | .ok (.ok header) =>
          handlePacket lib now sched message addr c
            (isRtcp message matches .ok true) header
      | .ok (.error e) => return .error e
      | .error _ => return .error .unsupportedFormat

/-! ## The program run without interference -/

@[simp] theorem eval_findClient (addr : SocketAddr) (s : Shared S) :
    (findClient addr).eval s = (s.registry.clientAt addr, s) := by
  simp [findClient]

theorem eval_findCodec (c : ClientRef) (rtcp : Bool) (payload : UInt8)
    (s : Shared S) : (findCodec c rtcp payload).eval s =
      (codecNFrequency (s.registry.heap c).media rtcp payload, s) := by
  cases rtcp with
  | true => rfl
  | false => simp [findCodec]

theorem eval_decrypt (lib : SrtpLib S) (c : ClientRef) (addr : SocketAddr)
    (rtcp : Bool) (header : RtpHeader) (message : DataPacket) (s : Shared S) :
    (decrypt lib c addr rtcp header message).eval s =
      match (s.registry.heap c).srtp with
      | none => (.error (.clientNotReady addr), s)
      | some t =>
          let out := t.unprotect lib rtcp message
          let s' := { s with registry := s.registry.setSrtp c out.1 }
          match out.2 with
          | none => (.error .srtp, s')
          | some plain =>
              if rtcp = false ∧ header.payload = 111 then
                (.error .unsupportedFormat, s')
              else (.ok plain, s') := by
  simp only [decrypt, eval_withGuard, eval_monad_bind, eval_read]
  cases (s.registry.heap c).srtp with
  | none => rfl
  | some t =>
      simp only [eval_monad_bind, eval_write]
      cases (t.unprotect lib rtcp message).2 with
      | none => rfl
      | some plain =>
          simp only []
          split <;> rfl

theorem eval_adjustDelay (c : ClientRef) (frequency : UInt32) (rw : Rewriting)
    (addr : SocketAddr) (now : Instant) (s : Shared S) :
    ((adjustDelay c frequency rw addr now).eval s).2 =
      let verdict := (s.registry.heap c).jitterStats.verdict frequency rw now
      { s with
        registry := s.registry.applyVerdict c now verdict
        jitter := s.jitter ++ (verdict.map fun v => v.message addr).toList } := by
  simp [adjustDelay, Shared.onRegistry, Shared.control]

/-- The two updates of a packet's client are the one of the atomic reading. -/
theorem applyVerdict_setRuntime (r : Registry S) (c : ClientRef)
    (frequency : UInt32) (rw : Rewriting) (v : Option DelayChange)
    (now : Instant) :
    (r.setRuntime c frequency rw.runtime).applyVerdict c now v =
      updateCounters r c frequency rw v now := by
  simp only [Registry.setRuntime, Registry.applyVerdict, updateCounters,
    Registry.modifyClient, Function.update_self, Function.update_idem]

theorem eval_replaceMeta (c : ClientRef) (addr : SocketAddr) (now : Instant)
    (p : Prepared) (s : Shared S) : (replaceMeta c addr now p).eval s =
      match runtimeOf (s.registry.heap c) p.codecNFrequency with
      | none => (.error (.codecNotSet addr), s)
      | some (frequency, rt) =>
          let rw := rt.rewrite p.header now
          let sequence := rw.runtime.serverSequence
          let timestamp := rw.runtime.serverTs
          let verdict := (s.registry.heap c).jitterStats.verdict frequency rw now
          (.ok (replaceSequenceNTimestamp p.message sequence timestamp),
            { s with
              registry := updateCounters s.registry c frequency rw verdict now
              jitter := s.jitter ++ (verdict.map fun v => v.message addr).toList
              written := s.written ++
                [⟨c, frequency, p.header, now, sequence, timestamp⟩] }) := by
  simp only [replaceMeta, eval_withGuard, eval_monad_bind, eval_read]
  cases runtimeOf (s.registry.heap c) p.codecNFrequency with
  | none => rfl
  | some frt =>
      have hstats : ((s.registry.setRuntime c frt.1
          (frt.2.rewrite p.header now).runtime).heap c).jitterStats =
          (s.registry.heap c).jitterStats := by
        rw [Registry.setRuntime, Registry.modifyClient_heap_self]
      simp only [eval_monad_bind, eval_write, eval_adjustDelay, eval_pure,
        hstats, applyVerdict_setRuntime]

theorem eval_encrypt (lib : SrtpLib S) (addr : SocketAddr) (p : Prepared)
    (recv : Receiver) (s : Shared S) : (encrypt lib addr p recv).eval s =
      match (s.registry.heap recv.2).srtp with
      | none => (.error (.clientNotReady addr), s)
      | some t =>
          let out := t.protect lib p.rtcp p.message
          let s' := { s with registry := s.registry.setSrtp recv.2 out.1 }
          match out.2 with
          | none => (.error .srtp, s')
          | some message => (.ok message, s') := by
  simp only [encrypt, eval_withGuard, eval_monad_bind, eval_read]
  cases (s.registry.heap recv.2).srtp with
  | none => rfl
  | some t =>
      simp only [eval_monad_bind, eval_write]
      cases (t.protect lib p.rtcp p.message).2 with
      | none => rfl
      | some message => rfl

theorem eval_preparePayloadType (p : Prepared) (recv : Receiver)
    (message : DataPacket) (s : Shared S) :
    (preparePayloadType p recv message).eval s =
      (preparePayload p (s.registry.heap recv.2).media message, s) := by
  rw [preparePayloadType, preparePayload]
  split
  · cases hcodec : p.codecNFrequency with
    | none => rfl
    | some cf =>
        simp only [eval_withGuard, eval_monad_bind, eval_read, eval_pure]
        rw [preparePayload, if_pos ‹_›, hcodec]
  · rfl

/-- What one receiver gives, added to the shared state. -/
theorem eval_sendToReceiver (lib : SrtpLib S) (addr : SocketAddr)
    (p : Prepared) (recv : Receiver) (s : Shared S) :
    (sendToReceiver lib addr p recv).eval s =
      let out := sendTo lib addr p s.registry recv
      (out.2, { s with
        registry := out.1
        sent := s.sent ++ emissions [(recv, out.2)] }) := by
  simp only [sendToReceiver, eval_monad_bind, eval_encrypt, sendTo]
  cases (s.registry.heap recv.2).srtp with
  | none => simp [emissions]
  | some t =>
      cases hm : (t.protect lib p.rtcp p.message).2 with
      | none => simp [hm, emissions, Registry.setSrtp]
      | some message =>
          have hmedia : ((s.registry.setSrtp recv.2
              (t.protect lib p.rtcp p.message).1).heap recv.2).media =
              (s.registry.heap recv.2).media := by
            rw [Registry.setSrtp, Registry.modifyClient_heap_self]
          simp only [hm, eval_monad_bind, eval_preparePayloadType, eval_write,
            eval_pure, hmedia, Shared.send]
          rfl

theorem emissions_append (xs ys : List (Receiver × Except ErrorParse Emission)) :
    emissions (xs ++ ys) = emissions xs ++ emissions ys :=
  List.filterMap_append ..

theorem eval_sendEach (lib : SrtpLib S) (addr : SocketAddr) (p : Prepared) :
    ∀ (rs : List Receiver) (s : Shared S),
      (sendEach lib addr p rs).eval s =
        let out := ParIter.runAll (sendTo lib addr p) s.registry
          (rs.filter fun e => !(s.registry.heap e.2).isDeleted)
        (out.2, { s with
          registry := out.1
          sent := s.sent ++ emissions out.2 }) := by
  intro rs
  induction rs with
  | nil => intro s; simp [sendEach, ParIter.runAll, emissions]
  | cons recv rest ih =>
      intro s
      simp only [sendEach, eval_monad_bind, eval_read]
      by_cases hdel : (s.registry.heap recv.2).isDeleted = true
      · refine (congrArg (eval · s) (if_pos hdel)).trans ?_
        rw [ih, List.filter_cons_of_neg (by simp [hdel])]
      · have hsame : ∀ e : Receiver,
            ((sendTo lib addr p s.registry recv).1.heap e.2).isDeleted =
              (s.registry.heap e.2).isDeleted := fun e =>
          (sendTo_sessions lib addr p s.registry recv).1.field
            (fun cl => cl.isDeleted) (fun _ _ => rfl) e.2
        refine (congrArg (eval · s) (if_neg hdel)).trans ?_
        rw [List.filter_cons_of_pos (by simp [hdel])]
        simp only [eval_monad_bind, eval_sendToReceiver, ih, eval_pure, hsame,
          ParIter.runAll]
        rw [← List.singleton_append, emissions_append, List.append_assoc]

theorem picked_live (r : Registry S) (c : ClientRef) (sched : List Receiver) :
    ParIter.picked (liveReceivers r c) sched =
      (ParIter.picked (r.heap c).receivers.entries sched).filter
        fun e => !(r.heap e.2).isDeleted := by
  simp only [ParIter.picked, liveReceivers, List.filter_filter,
    List.mem_filter, Bool.decide_and, Bool.decide_eq_true]
  exact List.filter_congr fun e _ => Bool.and_comm _ _

theorem left_live (r : Registry S) (c : ClientRef) (sched : List Receiver) :
    ParIter.left (liveReceivers r c) sched =
      (ParIter.left (r.heap c).receivers.entries sched).filter
        fun e => !(r.heap e.2).isDeleted := by
  simp only [ParIter.left, liveReceivers, List.filter_filter]
  exact List.filter_congr fun e _ => Bool.and_comm _ _

/-- The state forwarding leaves, with what it sent. -/
def Forwarded.addTo (out : Forwarded S) (s : Shared S) : Shared S :=
  { s with registry := out.registry, sent := s.sent ++ out.sent }

theorem eval_sendAll (lib : SrtpLib S) (addr : SocketAddr) (p : Prepared)
    (c : ClientRef) (sched : List Receiver) (s : Shared S) :
    (sendAll lib addr p c sched).eval s =
      let out := fanOut lib addr p s.registry c sched
      (out.result, out.addTo s) := by
  simp only [sendAll, eval_monad_bind, eval_read, eval_sendEach, fanOut,
    ParIter.tryForEach, ← picked_live, Forwarded.addTo]
  cases hany : (ParIter.runAll (sendTo lib addr p) s.registry
      (ParIter.picked (liveReceivers s.registry c) sched)).2.any
        ParIter.failed with
  | true => rfl
  | false =>
      have hsame : ∀ e : Receiver,
          (((ParIter.runAll (sendTo lib addr p) s.registry
            (ParIter.picked (liveReceivers s.registry c) sched)).1.heap
              e.2).isDeleted) = (s.registry.heap e.2).isDeleted := by
        intro e
        have hkeep := ParIter.runAll_invariant (f := sendTo lib addr p)
          (I := Registry.SameButSessions s.registry) (R := fun _ _ => True)
          (ParIter.picked (liveReceivers s.registry c) sched)
          (fun r hr x _ => ⟨hr.trans (sendTo_sessions lib addr p r x).1,
            trivial⟩) (Registry.SameButSessions.refl _)
        exact hkeep.1.field (fun cl => cl.isDeleted) (fun _ _ => rfl) e.2
      simp only [Bool.false_eq_true, if_false, eval_monad_bind, eval_sendEach,
        hsame, ← left_live, eval_pure, emissions_append, List.append_assoc]

theorem eval_sendFeedback (lib : SrtpLib S) (p : Prepared) (c : ClientRef)
    (s : Shared S) : (sendFeedback lib p c).eval s =
      let out := sendUpstream lib p s.registry c
      (out.result, out.addTo s) := by
  simp only [sendFeedback, encryptFeedback, eval_monad_bind, eval_withGuard,
    eval_read, sendUpstream, Forwarded.addTo]
  cases (s.registry.heap c).senderAddr with
  | none => simp
  | some senderAddr =>
      simp only [eval_monad_bind, eval_findClient]
      cases s.registry.clientAt senderAddr with
      | none => simp
      | some sender =>
          simp only [eval_withGuard, eval_monad_bind, eval_read]
          cases (s.registry.heap sender).srtp with
          | none => simp
          | some t =>
              simp only [eval_monad_bind, eval_write]
              cases (t.protect lib true p.message).2 with
              | none => simp [Shared.onRegistry, Registry.setSrtp]
              | some message =>
                  simp [Shared.onRegistry, Shared.send, Registry.setSrtp]

theorem eval_forwardAll (lib : SrtpLib S) (addr : SocketAddr) (p : Prepared)
    (c : ClientRef) (sched : List Receiver) (s : Shared S) :
    (forwardAll lib addr p c sched).eval s =
      let out := forward lib addr p s.registry c sched
      (out.result, out.addTo s) := by
  simp only [forwardAll, eval_withGuard, eval_monad_bind, eval_read, forward]
  split
  · next h =>
      exact (congrArg (eval · s) (if_pos h)).trans (eval_sendFeedback lib p c s)
  · next h =>
      exact (congrArg (eval · s) (if_neg h)).trans
        (eval_sendAll lib addr p c sched s)

theorem eval_handlePacket (lib : SrtpLib S) (now : Instant)
    (sched : List Receiver) (message : DataPacket) (addr : SocketAddr)
    (c : ClientRef) (rtcp : Bool) (header : RtpHeader) (s : Shared S) :
    (handlePacket lib now sched message addr c rtcp header).eval s =
      let out := process lib s.registry now sched message addr c rtcp header
      (out.result, s.add out) := by
  simp only [handlePacket, eval_monad_bind, eval_findCodec, eval_decrypt,
    process]
  cases (s.registry.heap c).srtp with
  | none => simp [fail, Shared.add]
  | some t =>
      cases hm : (t.unprotect lib rtcp message).2 with
      | none => simp [hm, fail, Shared.add, Registry.setSrtp]
      | some plain =>
          cases rtcp with
          | true =>
              simp only [hm, Bool.true_eq_false, false_and, if_false, if_true,
                eval_forwardAll, handleRtcp, Shared.add, Forwarded.addTo,
                Registry.setSrtp, Option.toList_none, List.append_nil]
          | false =>
              by_cases h111 : header.payload = 111
              · simp [hm, h111, fail, Shared.add, Registry.setSrtp]
              · simp only [hm, h111, and_false, if_false, Bool.false_eq_true,
                  eval_monad_bind, eval_replaceMeta, handleRtp,
                  Registry.setSrtp]
                cases runtimeOf _ _ with
                | none => simp [fail, Shared.add]
                | some frt =>
                    simp only [eval_forwardAll, Shared.add, Forwarded.addTo,
                      Option.toList_some]

/-- Without interference the handler does what the atomic reading does: the
same result, registry, packets, delay messages and numbers. -/
theorem eval_handler (lib : SrtpLib S) (now : Instant) (sched : List Receiver)
    (message : DataPacket) (addr : SocketAddr) (s : Shared S) :
    (handler lib now sched message addr).eval s =
      let out := handle lib s.registry now sched message addr
      (out.result, s.add out) := by
  simp only [handler, eval_monad_bind, eval_findClient, handle]
  cases s.registry.clientAt addr with
  | none => simp [Shared.add]
  | some c =>
      cases RtpHeader.fromBuf message with
      | error e => simp [fail, Shared.add]
      | ok res =>
          cases res with
          | error e => simp [fail, Shared.add]
          | ok header =>
              exact eval_handlePacket lib now sched message addr c _ header s

end RtcActor

end RStreamer
