import RStreamer.Stun.Response

/-!
# What the peer makes of a response

The response is one list of bytes (`response`), and the two results of this file
are about what a STUN agent on the other side finds in it. It reads a message with
three attributes that tile the body, gets its own address and port back from the
first of them (`response_decodes`), and the other two pass its checks
(`response_verifies`).

The second is about time as much as about bytes. The HMAC was taken before the
integrity attribute existed, with the length that ends after it; the checksum was
taken when everything before it was final. A verifier rebuilds the first state
by setting the length field back, and needs no rebuilding for the second.
-/

namespace RStreamer.Stun

open Bytes

/-! ## Reading -/

theorem port_xor_cookie (port : UInt16) :
    ofBe16 ((port >>> 8).toUInt8 ^^^ 0x21) (port.toUInt8 ^^^ 0x12) ^^^ 0x2112 =
      port := by
  have hcookie : ofBe16 0x21 0x12 = 0x2112 := by decide
  rw [ofBe16_xor, ofBe16_be16, hcookie, UInt16.xor_assoc, UInt16.xor_self,
    UInt16.xor_zero]

theorem decodeXorMappedAddress_eq (transactionId : TransactionId)
    (remoteAddr : SocketAddr) :
    decodeXorMappedAddress transactionId
        (xorMappedAddress transactionId remoteAddr) =
      some (remoteAddr.ip, remoteAddr.port) := by
  have hid : transactionId.toList.length = 12 := transactionId.length_toList
  cases remoteAddr with
  | v4 ip port =>
      have hip : ip.toList.length ≤ STUN_COOKIE.length :=
        Nat.le_of_eq ip.length_toList
      show (toVector? 4 (xorBytes (xorBytes ip.toList STUN_COOKIE)
        STUN_COOKIE)).map (fun ip => (IpAddr.v4 ip, _)) = _
      rw [xorBytes_xorBytes hip, toVector?_toList, Option.map_some]
      exact congrArg (fun p => some (IpAddr.v4 ip, p)) (port_xor_cookie port)
  | v6 ip port flowinfo scopeId =>
      have hip : ip.toList.length ≤
          (STUN_COOKIE ++ transactionId.toList).length := by
        rw [List.length_append, hid]
        exact Nat.le_of_eq ip.length_toList
      show (toVector? 16 (xorBytes (xorBytes ip.toList
        (STUN_COOKIE ++ transactionId.toList))
        (STUN_COOKIE ++ transactionId.toList))).map
          (fun ip => (IpAddr.v6 ip, _)) = _
      rw [xorBytes_xorBytes hip, toVector?_toList, Option.map_some]
      exact congrArg (fun p => some (IpAddr.v6 ip, p)) (port_xor_cookie port)

/-- The body of a response: its three attributes. -/
def responseBody (crc : List UInt8 → UInt32) (transactionId : TransactionId)
    (remoteAddr : SocketAddr) (hmac : Vector UInt8 20) : List UInt8 :=
  (addrAttribute transactionId remoteAddr).encode ++
    ((integrityAttribute hmac).encode ++
      (fingerprintAttribute (crc (checkedPart transactionId remoteAddr
        hmac))).encode)

theorem response_eq (crc : List UInt8 → UInt32)
    (transactionId : TransactionId) (remoteAddr : SocketAddr)
    (hmac : Vector UInt8 20) : response crc transactionId remoteAddr hmac =
      messageHeader SUCCESS_RESPONSE transactionId (contentLen remoteAddr) ++
        responseBody crc transactionId remoteAddr hmac := by
  rw [response, responseBody, checkedPart, List.append_assoc, List.append_assoc]

theorem length_responseBody (crc : List UInt8 → UInt32)
    (transactionId : TransactionId) (remoteAddr : SocketAddr)
    (hmac : Vector UInt8 20) :
    (responseBody crc transactionId remoteAddr hmac).length =
      contentLen remoteAddr := by
  have h := length_response crc transactionId remoteAddr hmac
  rw [response_eq, List.length_append, length_messageHeader, responseLen] at h
  omega

theorem contentLen_cases (remoteAddr : SocketAddr) :
    contentLen remoteAddr = 44 ∨ contentLen remoteAddr = 56 := by
  cases remoteAddr with
  | v4 ip port => exact .inl rfl
  | v6 ip port flowinfo scopeId => exact .inr rfl

theorem length_addrAttribute_value (transactionId : TransactionId)
    (remoteAddr : SocketAddr) :
    (addrAttribute transactionId remoteAddr).value.length < 65536 := by
  show (xorMappedAddress transactionId remoteAddr).length < 65536
  rw [length_xorMappedAddress]
  cases remoteAddr with
  | v4 ip port => show 8 < 65536; decide
  | v6 ip port flowinfo scopeId => show 20 < 65536; decide

theorem length_integrityAttribute_value (hmac : Vector UInt8 20) :
    (integrityAttribute hmac).value.length < 65536 := by
  show hmac.toList.length < 65536
  rw [Vector.length_toList]
  decide

theorem decodeMessage_response (crc : List UInt8 → UInt32)
    (transactionId : TransactionId) (remoteAddr : SocketAddr)
    (hmac : Vector UInt8 20) :
    decodeMessage (response crc transactionId remoteAddr hmac) =
      some ⟨SUCCESS_RESPONSE, transactionId,
        [(XOR_MAPPED_ADDRESS, xorMappedAddress transactionId remoteAddr),
          (MESSAGE_INTEGRITY, hmac.toList),
          (FINGERPRINT, be32 (crc (checkedPart transactionId remoteAddr hmac) ^^^
            STUN_CRC_XOR))]⟩ := by
  have hlen := length_responseBody crc transactionId remoteAddr hmac
  have hcases := contentLen_cases remoteAddr
  have hnil : decodeAttributes [] = some [] := by rw [decodeAttributes]
  rw [response_eq, ← hlen, decodeMessage_encode (by decide) transactionId
    (by omega) (by omega), responseBody,
    decodeAttributes_encode (length_addrAttribute_value ..),
    decodeAttributes_encode (length_integrityAttribute_value ..),
    ← List.append_nil (fingerprintAttribute _).encode,
    decodeAttributes_encode (by show 4 < 65536; decide), hnil]
  rfl

/-- With signing that succeeds, for every transaction id, address, password and
buffer: a buffer too short for the response is left as it is, and the call is an
error; any other buffer is changed in its first `n` bytes only, and these are a
message whose attributes tile its body, with the transaction id in the header and
the address in the first attribute. -/
theorem response_decodes (hmac : List UInt8 → List UInt8 → Vector UInt8 20)
    (crc : List UInt8 → UInt32) (transactionId : TransactionId)
    (remoteAddr : SocketAddr) (passwd out : List UInt8) :
    (out.length < responseLen remoteAddr →
      writeStunSuccessResponse (.signing hmac crc) transactionId remoteAddr
        passwd out = .ok (.error .outputBufferTooSmall, out)) ∧
    (responseLen remoteAddr ≤ out.length →
      ∃ n out' value integrity fingerprint,
        writeStunSuccessResponse (.signing hmac crc) transactionId remoteAddr
          passwd out = .ok (.ok n, out') ∧
        n = responseLen remoteAddr ∧ n % 4 = 0 ∧
        out'.length = out.length ∧ out'.drop n = out.drop n ∧
        (slice out' 2 4 >>= readU16) = .ok (UInt16.ofNat (n - 20)) ∧
        decodeMessage (out'.take n) = some ⟨0x0101, transactionId,
          [(XOR_MAPPED_ADDRESS, value), (MESSAGE_INTEGRITY, integrity),
            (FINGERPRINT, fingerprint)]⟩ ∧
        integrity.length = 20 ∧ fingerprint.length = 4 ∧
        decodeXorMappedAddress transactionId value =
          some (remoteAddr.ip, remoteAddr.port)) := by
  rw [writeStunSuccessResponse_eq]
  refine ⟨fun hshort => by rw [if_pos hshort], fun hroom => ?_⟩
  rw [if_neg (Nat.not_lt.mpr hroom)]
  generalize hmac passwd (signedPart transactionId remoteAddr) = mac
  have hlen := length_response crc transactionId remoteAddr mac
  have hread := decodeMessage_response crc transactionId remoteAddr mac
  have htake : (response crc transactionId remoteAddr mac ++
      out.drop (responseLen remoteAddr)).take (responseLen remoteAddr) =
        response crc transactionId remoteAddr mac := by
    rw [← hlen, List.take_left]
  rw [← htake] at hread
  refine ⟨_, _, _, _, _, rfl, rfl, ?_, ?_, ?_, ?_, hread, mac.length_toList, rfl,
    decodeXorMappedAddress_eq transactionId remoteAddr⟩
  · rw [responseLen, STUN_HEADER_LEN]
    have hcases := contentLen_cases remoteAddr
    omega
  · rw [List.length_append, hlen, List.length_drop]
    omega
  · rw [← hlen, List.drop_left]
  · have hslice : slice (response crc transactionId remoteAddr mac ++
        out.drop (responseLen remoteAddr)) 2 4 =
          .ok (be16 (UInt16.ofNat (contentLen remoteAddr))) := by
      rw [response_eq, messageHeader, List.append_assoc, List.append_assoc,
        List.append_assoc]
      exact slice_append rfl rfl
    rw [hslice, ok_bind, readU16_be16, responseLen, STUN_HEADER_LEN,
      Nat.add_sub_cancel_left]

/-- So what `UdpSend` puts on the wire is the response. -/
theorem sendStunResponse_eq
    (hmac : List UInt8 → List UInt8 → Vector UInt8 20)
    (crc : List UInt8 → UInt32) (transactionId : TransactionId)
    (remoteAddr : SocketAddr) (passwd : List UInt8)
    (messageBuf : Vector UInt8 1200) :
    sendStunResponse (.signing hmac crc) transactionId remoteAddr passwd
        messageBuf =
      .ok (some (response crc transactionId remoteAddr
        (hmac passwd (signedPart transactionId remoteAddr)))) := by
  have hcases := contentLen_cases remoteAddr
  have hroom : ¬ messageBuf.toList.length < responseLen remoteAddr := by
    rw [Vector.length_toList, responseLen, STUN_HEADER_LEN]
    omega
  rw [sendStunResponse, writeStunSuccessResponse_eq, if_neg hroom, ok_bind]
  show Except.ok (some (List.take (responseLen remoteAddr) (_ ++ _))) = _
  rw [← length_response crc transactionId remoteAddr
    (hmac passwd (signedPart transactionId remoteAddr)), List.take_left]

/-! ## Verifying -/

/-- The length that ends after the integrity attribute is the one the HMAC was
taken with. -/
theorem verifyIntegrity_response
    (hmac : List UInt8 → List UInt8 → Vector UInt8 20)
    (crc : List UInt8 → UInt32) (transactionId : TransactionId)
    (remoteAddr : SocketAddr) (passwd : List UInt8) :
    verifyIntegrity (hmac passwd) (response crc transactionId remoteAddr
      (hmac passwd (signedPart transactionId remoteAddr))) = true := by
  have hoffset : ∀ mac back, attributeOffset MESSAGE_INTEGRITY
      ((addrAttribute transactionId remoteAddr).encode ++
        ((integrityAttribute mac).encode ++ back)) =
        some (addrAttribute transactionId remoteAddr).encode.length := by
    intro mac back
    have haddr : (addrAttribute transactionId remoteAddr).type ≠
        MESSAGE_INTEGRITY := by show XOR_MAPPED_ADDRESS ≠ _; decide
    have hint : (integrityAttribute mac).type = MESSAGE_INTEGRITY := rfl
    rw [attributeOffset_encode (length_addrAttribute_value ..), if_neg haddr,
      attributeOffset_encode (length_integrityAttribute_value ..), if_pos hint,
      Option.map_some, Nat.zero_add]
  have hlength : (addrAttribute transactionId remoteAddr).encode.length + 24 =
      contentLenIntegrity remoteAddr := by
    rw [length_encode_addrAttribute, contentLenIntegrity,
      INTEGRITY_ATTRIBUTE_LEN, ATTRIBUTE_MARKER_LEN]
    omega
  have hadjust : overwrite (messageHeader SUCCESS_RESPONSE transactionId
      (contentLen remoteAddr)) 2
        (be16 (UInt16.ofNat (contentLenIntegrity remoteAddr))) =
      messageHeader SUCCESS_RESPONSE transactionId
        (contentLenIntegrity remoteAddr) :=
    overwrite_append rfl
  rw [response_eq, responseBody]
  refine (verifyIntegrity_iff (length_messageHeader ..) (hoffset _ _)
    Vector.length_toList).mpr ?_
  rw [hlength, hadjust]
  rfl

theorem verifyFingerprint_response (crc : List UInt8 → UInt32)
    (transactionId : TransactionId) (remoteAddr : SocketAddr)
    (hmac : Vector UInt8 20) : verifyFingerprint crc
      (response crc transactionId remoteAddr hmac) = true := by
  have hoffset : ∀ c, attributeOffset FINGERPRINT
      (((addrAttribute transactionId remoteAddr).encode ++
        (integrityAttribute hmac).encode) ++
          ((fingerprintAttribute c).encode ++ [])) =
        some ((addrAttribute transactionId remoteAddr).encode ++
          (integrityAttribute hmac).encode).length := by
    intro c
    have haddr : (addrAttribute transactionId remoteAddr).type ≠
        FINGERPRINT := by show XOR_MAPPED_ADDRESS ≠ _; decide
    have hint : (integrityAttribute hmac).type ≠ FINGERPRINT := by
      show MESSAGE_INTEGRITY ≠ _; decide
    have hfp : (fingerprintAttribute c).type = FINGERPRINT := rfl
    rw [List.append_assoc,
      attributeOffset_encode (length_addrAttribute_value ..), if_neg haddr,
      attributeOffset_encode (length_integrityAttribute_value ..), if_neg hint,
      attributeOffset_encode (by show 4 < 65536; decide), if_pos hfp,
      Option.map_some, Option.map_some, List.length_append, Nat.zero_add,
      Nat.add_comm]
  rw [response_eq, responseBody, ← List.append_assoc (addrAttribute _ _).encode,
    ← List.append_nil (fingerprintAttribute _).encode]
  exact (verifyFingerprint_iff (length_messageHeader ..) (hoffset _) rfl).mpr rfl

/-- With signing that succeeds and a buffer that has room: what is written passes
both checks of a verifier that has the same key. -/
theorem response_verifies (hmac : List UInt8 → List UInt8 → Vector UInt8 20)
    (crc : List UInt8 → UInt32) (transactionId : TransactionId)
    (remoteAddr : SocketAddr) (passwd out : List UInt8)
    (hroom : responseLen remoteAddr ≤ out.length) :
    ∃ n out', writeStunSuccessResponse (.signing hmac crc) transactionId
        remoteAddr passwd out = .ok (.ok n, out') ∧
      verifyIntegrity (hmac passwd) (out'.take n) = true ∧
      verifyFingerprint crc (out'.take n) = true := by
  rw [writeStunSuccessResponse_eq, if_neg (Nat.not_lt.mpr hroom)]
  refine ⟨_, _, rfl, ?_⟩
  rw [← length_response crc transactionId remoteAddr
    (hmac passwd (signedPart transactionId remoteAddr)), List.take_left]
  exact ⟨verifyIntegrity_response hmac crc transactionId remoteAddr passwd,
    verifyFingerprint_response crc transactionId remoteAddr _⟩

/-- HMAC-SHA1, under the password "secret", of the part of a response to
`10.0.0.1:5000` it is taken of. -/
def secretHmac : Vector UInt8 20 :=
  #v[227, 165, 203, 200, 223, 48, 212, 91, 73, 220, 117, 145, 56, 177, 41, 106,
    35, 212, 228, 165]

/-- That response, with its checksum. -/
theorem response_verifies_secret :
    ∃ n out', writeStunSuccessResponse
        (.signing (fun _ _ => secretHmac) fun _ => 0x01480639)
        (Vector.replicate 12 7) (.host 1) [115, 101, 99, 114, 101, 116]
        (List.replicate 64 0) = .ok (.ok n, out') ∧
      verifyIntegrity (fun _ => secretHmac) (out'.take n) = true ∧
      verifyFingerprint (fun _ => 0x01480639) (out'.take n) = true :=
  response_verifies _ _ (Vector.replicate 12 7) (.host 1)
    [115, 101, 99, 114, 101, 116] (List.replicate 64 0) (by decide)

end RStreamer.Stun
