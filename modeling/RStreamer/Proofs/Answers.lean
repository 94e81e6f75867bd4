import RStreamer.Proofs.Confinement
import RStreamer.Proofs.Responses

/-!
# What the server answers

Apart from media the server sends two kinds of datagrams, and it sends neither
unasked. A STUN response goes to an address from which a binding request came,
one at most for each request, and it says to that address what it asked: the
transaction is that of the request and the address in it is the peer's own. A
DTLS datagram goes to an address that has begun a handshake, with what the TLS
library wrote for the client of that address.

Signing may fail here: a response is sent if OpenSSL signs it.
-/

namespace RStreamer

/-! ## The datagram of a response -/

namespace Stun

open Bytes

/-- `write_stun_success_response` into a buffer with room, whatever the library
says. -/
theorem writeStunSuccessResponse_of_room (lib : StunLib)
    (transactionId : TransactionId) {remoteAddr : SocketAddr}
    (passwd : List UInt8) {out : List UInt8}
    (hroom : responseLen remoteAddr ≤ out.length) :
    (∃ out', writeStunSuccessResponse lib transactionId remoteAddr passwd out =
      .ok (.error .errorStack, out')) ∨
    ∃ mac, lib.hmacSha1 passwd (signedPart transactionId remoteAddr) =
        some mac ∧
      writeStunSuccessResponse lib transactionId remoteAddr passwd out =
        .ok (.ok (responseLen remoteAddr),
          response lib.crc32 transactionId remoteAddr mac ++
            out.drop (responseLen remoteAddr)) := by
  have htest : ¬ STUN_HEADER_LEN + contentLen remoteAddr > out.length :=
    Nat.not_lt.mpr hroom
  rw [writeStunSuccessResponse, if_neg htest]
  obtain ⟨front, back, rfl, hfront, -⟩ := exists_append
    (show out.length = responseLen remoteAddr +
      (out.length - responseLen remoteAddr) by omega)
  have hdrop : (front ++ back).drop (responseLen remoteAddr) = back := by
    rw [← hfront, List.drop_left]
  rw [hdrop]
  obtain ⟨header, rest, rfl, hheader, hrest⟩ := exists_append hfront
  obtain ⟨addr, rest, rfl, haddr, hrest⟩ := exists_append
    (show rest.length = (ATTRIBUTE_MARKER_LEN + addrAttributeLen remoteAddr) +
      (ATTRIBUTE_MARKER_LEN + INTEGRITY_ATTRIBUTE_LEN +
        (ATTRIBUTE_MARKER_LEN + FINGERPRINT_ATTRIBUTE_LEN)) by
      rw [hrest, contentLen, contentLenIntegrity]; omega)
  obtain ⟨integrity, fingerprint, rfl, hint, hfp⟩ := exists_append hrest
  simp only [List.append_assoc, splitAt_append hheader.symm,
    splitAt_append haddr.symm, splitAt_append hint.symm, ok_bind,
    writeHeader_eq hheader, writeAddrAttribute_eq haddr]
  cases hmac : lib.hmacSha1 passwd (signedPart transactionId remoteAddr) with
  | none =>
      rw [signedPart] at hmac
      simp only [hmac]
      exact .inl ⟨_, rfl⟩
  | some mac =>
      rw [signedPart] at hmac
      have hlength : writeAt (messageHeader SUCCESS_RESPONSE transactionId
          (contentLenIntegrity remoteAddr)) 2 4
            (be16 (UInt16.ofNat (contentLen remoteAddr))) =
          .ok (messageHeader SUCCESS_RESPONSE transactionId
            (contentLen remoteAddr)) :=
        writeAt_append rfl rfl rfl
      refine .inr ⟨mac, rfl, ?_⟩
      simp only [hmac, writeIntegrityAttribute_eq hint, ok_bind, hlength,
        writeFingerprintAttribute_eq hfp, response, checkedPart,
        List.append_assoc]
      rfl

theorem responseLen_le (remoteAddr : SocketAddr) :
    responseLen remoteAddr ≤ 1200 := by
  have hcases := contentLen_cases remoteAddr
  rw [responseLen, STUN_HEADER_LEN]
  omega

/-- `UdpSend` sends the response, or nothing if it is not signed. -/
theorem sendStunResponse_cases (lib : StunLib) (transactionId : TransactionId)
    (remoteAddr : SocketAddr) (passwd : List UInt8)
    (messageBuf : Vector UInt8 1200) :
    sendStunResponse lib transactionId remoteAddr passwd messageBuf = .ok none ∨
      ∃ mac, sendStunResponse lib transactionId remoteAddr passwd messageBuf =
        .ok (some (response lib.crc32 transactionId remoteAddr mac)) := by
  have hroom : responseLen remoteAddr ≤ messageBuf.toList.length := by
    rw [Vector.length_toList]
    exact responseLen_le remoteAddr
  rw [sendStunResponse]
  rcases writeStunSuccessResponse_of_room lib transactionId passwd hroom with
    ⟨out, hout⟩ | ⟨mac, -, hout⟩
  · rw [hout, ok_bind]
    exact .inl rfl
  · rw [hout, ok_bind]
    refine .inr ⟨mac, ?_⟩
    show Except.ok (some (List.take (responseLen remoteAddr) (_ ++ _))) = _
    rw [← length_response lib.crc32 transactionId remoteAddr mac,
      List.take_left]

end Stun

namespace Server

variable {S M : Type}

/-! ## STUN -/

theorem datagramOf_stun {host : Host S M} {buf : Vector UInt8 1200}
    {req : StunBindingRequest} {addr b : SocketAddr} {packet : DataPacket}
    (h : datagramOf host buf (.stun req addr) = .ok (some (b, packet))) :
    b = addr ∧ ∃ mac,
      packet = Stun.response host.stun.crc32 req.transactionId addr mac := by
  rw [datagramOf] at h
  rcases Stun.sendStunResponse_cases host.stun req.transactionId addr
    (Stun.utf8 host.data.password) buf with hnone | ⟨mac, hsome⟩
  · rw [hnone] at h
    cases h
  · rw [hsome] at h
    cases h
    exact ⟨rfl, mac, rfl⟩

/-- In every run: a STUN response goes to an address that has asked for it, with
a session that was offered, and the peer reads its own transaction and its own
address in it. -/
theorem stun_answers_request (host : Host S M) (es : List (ServerEvent S))
    (e : ServerEvent S) (req : StunBindingRequest) (addr b : SocketAddr)
    (packet : DataPacket)
    (h : (.stun req addr, b, packet) ∈ sends host (after host es) e) :
    (Asked es req b ∧ ∃ g, Offered host es g req.session) ∧
      packet.length = Stun.responseLen b ∧
      ∃ value integrity fingerprint,
        Stun.decodeMessage packet = some ⟨Stun.SUCCESS_RESPONSE,
          req.transactionId, [(Stun.XOR_MAPPED_ADDRESS, value),
            (Stun.MESSAGE_INTEGRITY, integrity),
            (Stun.FINGERPRINT, fingerprint)]⟩ ∧
        Stun.decodeXorMappedAddress req.transactionId value =
          some (b.ip, b.port) := by
  obtain ⟨hmem, buf, hd⟩ := mem_toSend_of_sends h
  obtain ⟨rfl, mac, rfl⟩ := datagramOf_stun hd
  refine ⟨justified_of_mem_toSend hmem, Stun.length_response .., ?_⟩
  exact ⟨_, _, _, Stun.decodeMessage_response ..,
    Stun.decodeXorMappedAddress_eq ..⟩

/-- The first client of `oneGroup` is answered. -/
theorem stun_to_first_client :
    Asked oneGroup ⟨Vector.replicate 12 7, "abcd", "server"⟩ (.host 1) :=
  (stun_answers_request plainHost oneGroup (.send 0 (Vector.replicate 1200 0))
    ⟨Vector.replicate 12 7, "abcd", "server"⟩ (.host 1) (.host 1)
    (Stun.response (fun _ => 0) (Vector.replicate 12 7) (.host 1)
      (Vector.replicate 20 0)) (by decide +kernel)).1.1

def isStunTo (b : SocketAddr) : WebRtcRequest → Bool
  | .stun _ addr => addr = b
  | _ => false

/-- The binding request from `b` that an event is. -/
def askedBy (b : SocketAddr) : ServerEvent S → List StunBindingRequest
  | .datagram buf addr =>
      match WebRtcRequest.fromDatagram buf addr with
      | .ok (.stun req addr) => if addr = b then [req] else []
      | _ => []
  | _ => []

theorem countP_isStunTo_handleStun (s : UdpRecv) (req : StunBindingRequest)
    (addr b : SocketAddr) :
    ((s.handleStun req addr).2.filterMap StunEffect.toSend).countP
      (isStunTo b) ≤ if addr = b then 1 else 0 := by
  rw [UdpRecv.handleStun]
  split
  · exact Nat.zero_le _
  · have hmedia : ∀ media : Option MediaList,
        (media.map (StunEffect.mediaAddr addr)).toList.filterMap
          StunEffect.toSend = [] := by
      intro media
      cases media <;> rfl
    simp only [List.filterMap_append, hmedia, List.nil_append]
    show [WebRtcRequest.stun req addr].countP (isStunTo b) ≤ _
    by_cases hb : addr = b
    · rw [if_pos hb]
      exact List.countP_le_length
    · have hnot : ¬ isStunTo b (.stun req addr) = true := by
        rw [isStunTo, decide_eq_true_iff]
        exact hb
      rw [if_neg hb, List.countP_singleton, if_neg hnot]

/-- Only a binding request gives `UdpSend` a response to send. -/
theorem stun_queued_le (host : Host S M) (b : SocketAddr) (s : Server S)
    (e : ServerEvent S) :
    (s.queued host e).countP (isStunTo b) ≤ (askedBy b e).length := by
  rw [queued, whenAllowed]
  split
  · cases e with
    | datagram buf addr =>
        rw [queues, askedBy]
        cases WebRtcRequest.fromDatagram buf addr with
        | error e => exact Nat.le_refl _
        | ok request =>
            cases request with
            | stun req a =>
                refine (countP_isStunTo_handleStun s.recv req a b).trans ?_
                show _ ≤ (if a = b then [req] else []).length
                split <;> exact Nat.le_refl _
            | _ => exact Nat.le_refl _
    | client i now draw =>
        rw [queues]
        split <;> exact Nat.le_refl _
    | rtc i now sched =>
        rw [queues]
        split
        · refine Nat.le_of_eq (List.countP_eq_zero.mpr fun m hm => ?_)
          obtain ⟨e, -, rfl⟩ := List.mem_map.mp hm
          exact Bool.false_ne_true
        · exact Nat.le_refl _
    | _ => exact Nat.le_refl _
  · exact Nat.zero_le _

/-- However its events are ordered, the server sends an address no more STUN
responses than binding requests came from it. -/
theorem stun_sent_le_asked (host : Host S M) (es : List (ServerEvent S))
    (b : SocketAddr) :
    (Machine.trace (step host) (sends host) init es).countP
      (fun d => isStunTo b d.1) ≤ (es.flatMap (askedBy b)).length := by
  have hqueued : (Machine.trace (step host) (queued host) init es).countP
      (isStunTo b) ≤
        (Machine.trace (step host) (fun _ => askedBy b) init es).length :=
    Machine.countP_trace_le_length (stun_queued_le host b) es init
  rw [Machine.trace_of_event] at hqueued
  exact (countP_sends_le_queued host (isStunTo b) es).trans hqueued

/-! ## DTLS -/

/-- In every run: a DTLS datagram goes to an address that has sent one itself,
and it is what the TLS library wrote to the stream of a client of that
address. -/
theorem dtls_answers_handshake (host : Host S M) (es : List (ServerEvent S))
    (e : ServerEvent S) (message : DataPacket) (addr b : SocketAddr)
    (packet : DataPacket)
    (h : (.dtls message addr, b, packet) ∈ sends host (after host es) e) :
    Greeted es b ∧ ∃ c, (after host es).streams c = some b ∧
      .sslWrite c packet ∈ es := by
  obtain ⟨hmem, buf, hd⟩ := mem_toSend_of_sends h
  cases hd
  exact justified_of_mem_toSend hmem

/-- A client says hello, and the library answers. -/
def helloAnswered : List (ServerEvent Unit) :=
  [.datagram clientHello (.host 1), .client 0 0 fun _ => .least,
    .sslWrite 0 [22, 254, 253, 2], .outgoing 0, .client 0 0 fun _ => .least]

theorem dtls_to_first_client :
    Greeted helloAnswered (.host 1) ∧ ∃ c,
      (after plainHost helloAnswered).streams c = some (.host 1) ∧
        .sslWrite c [22, 254, 253, 2] ∈ helloAnswered :=
  dtls_answers_handshake plainHost helloAnswered
    (.send 0 (Vector.replicate 1200 0)) [22, 254, 253, 2] (.host 1) (.host 1)
    [22, 254, 253, 2] (by decide +kernel)

end Server

end RStreamer
