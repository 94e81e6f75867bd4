import RStreamer.Stun.Message

/-!
# Success responses (`stun/mod.rs`)

`write_stun_success_response` fills a buffer in place, through four mutable
pieces it is split into: the header, the address, the integrity and the
fingerprint. The last piece is the rest of the buffer. The header is written with
the length up to the integrity attribute, which is what the HMAC covers, and
gets its final length before the checksum is taken.

Signing and the checksum are OpenSSL and `crc32fast`, outside the repository:
`StunLib` is what is called of them. Each write checks its range, as in
`Lib/Bytes.lean`; `writeStunSuccessResponse_eq` says that none is out of range
and what the buffer holds at the end.
-/

namespace RStreamer

open Bytes

def STUN_CRC_XOR : UInt32 := 0x5354554e

/-- The calls on OpenSSL and `crc32fast`: HMAC-SHA1 of some bytes under a key,
`none` if OpenSSL reports an error, and CRC-32. -/
structure StunLib where
  hmacSha1 : List UInt8 → List UInt8 → Option (Vector UInt8 20)
  crc32 : List UInt8 → UInt32

/-- Signing always succeeds. -/
def StunLib.signing (hmac : List UInt8 → List UInt8 → Vector UInt8 20)
    (crc : List UInt8 → UInt32) : StunLib where
  hmacSha1 key bytes := some (hmac key bytes)
  crc32 := crc

namespace Stun

/-- `StunType::SuccessResponse` -/
def SUCCESS_RESPONSE : UInt16 := 0x0101

/-- `StunAttributeType::XorMappedAddress` -/
def XOR_MAPPED_ADDRESS : UInt16 := 0x20

/-- `StunAddressFamily::IPV4` -/
def IPV4 : UInt8 := 0x01

/-- `StunAddressFamily::IPV6` -/
def IPV6 : UInt8 := 0x02

def ATTRIBUTE_MARKER_LEN : Nat := 4
def IPV4_ADDR_ATTRIBUTE_LEN : Nat := 8
def IPV6_ADDR_ATTRIBUTE_LEN : Nat := 20
def INTEGRITY_ATTRIBUTE_LEN : Nat := 20
def FINGERPRINT_ATTRIBUTE_LEN : Nat := 4

/-- The errors of `write_stun_success_response`: "output buffer too small for
STUN response", or the one OpenSSL reported. -/
inductive ResponseError where
  | outputBufferTooSmall
  | errorStack
  deriving DecidableEq, Repr

/-- `xor_range` -/
def xorRange : List UInt8 → List UInt8 → Except Panic (List UInt8)
  | [], _ => .ok []
  | _ :: _, [] => .error .indexOutOfRange
  | t :: target, x :: xor => do
      let rest ← xorRange target xor
      return (t ^^^ x) :: rest

/-- `xor_range(&mut buf[i..j], xor)` -/
def xorAt (buf : List UInt8) (i j : Nat) (xor : List UInt8) :
    Except Panic (List UInt8) := do
  let target ← slice buf i j
  let target ← xorRange target xor
  return overwrite buf i target

def addrAttributeLen : SocketAddr → Nat
  | .v4 _ _ => IPV4_ADDR_ATTRIBUTE_LEN
  | .v6 _ _ _ _ => IPV6_ADDR_ATTRIBUTE_LEN

def contentLenIntegrity (remoteAddr : SocketAddr) : Nat :=
  ATTRIBUTE_MARKER_LEN * 2 + addrAttributeLen remoteAddr +
    INTEGRITY_ATTRIBUTE_LEN

def contentLen (remoteAddr : SocketAddr) : Nat :=
  contentLenIntegrity remoteAddr + ATTRIBUTE_MARKER_LEN +
    FINGERPRINT_ATTRIBUTE_LEN

def writeHeader (header : List UInt8) (transactionId : TransactionId)
    (length : Nat) : Except Panic (List UInt8) := do
  let header ← writeAt header 0 2 (be16 SUCCESS_RESPONSE)
  let header ← writeAt header 2 4 (be16 (UInt16.ofNat length))
  let header ← writeAt header 4 8 STUN_COOKIE
  writeAt header 8 20 transactionId.toList

/-- The first steps of either address family. -/
def writeFamilyNPort (attr : List UInt8) (family : UInt8) (port : UInt16) :
    Except Panic (List UInt8) := do
  let attr ← setAt attr 4 0
  let attr ← setAt attr 5 family
  let attr ← writeAt attr 6 8 (be16 port)
  xorAt attr 6 8 STUN_COOKIE

def writeAddrAttribute (attr : List UInt8) (transactionId : TransactionId)
    (remoteAddr : SocketAddr) : Except Panic (List UInt8) := do
  let attr ← writeAt attr 0 2 (be16 XOR_MAPPED_ADDRESS)
  let attr ← writeAt attr 2 4
    (be16 (UInt16.ofNat (addrAttributeLen remoteAddr)))
  match remoteAddr with
  | .v4 ip port =>
      let attr ← writeFamilyNPort attr IPV4 port
      let attr ← writeAt attr 8 12 ip.toList
      xorAt attr 8 12 STUN_COOKIE
  | .v6 ip port _ _ =>
      let attr ← writeFamilyNPort attr IPV6 port
      let attr ← writeAt attr 8 24 ip.toList
      let attr ← xorAt attr 8 12 STUN_COOKIE
      xorAt attr 12 24 transactionId.toList

def writeIntegrityAttribute (attr : List UInt8) (hmac : Vector UInt8 20) :
    Except Panic (List UInt8) := do
  let attr ← writeAt attr 0 2 (be16 MESSAGE_INTEGRITY)
  let attr ← writeAt attr 2 4 (be16 (UInt16.ofNat INTEGRITY_ATTRIBUTE_LEN))
  writeAt attr 4 attr.length hmac.toList

def writeFingerprintAttribute (attr : List UInt8) (crc : UInt32) :
    Except Panic (List UInt8) := do
  let attr ← writeAt attr 0 2 (be16 FINGERPRINT)
  let attr ← writeAt attr 2 4 (be16 (UInt16.ofNat FINGERPRINT_ATTRIBUTE_LEN))
  writeAt attr 4 8 (be32 (crc ^^^ STUN_CRC_XOR))

/-- `write_stun_success_response`: what it returns, and the buffer
afterwards. -/
def writeStunSuccessResponse (lib : StunLib) (transactionId : TransactionId)
    (remoteAddr : SocketAddr) (passwd out : List UInt8) :
    Except Panic (Except ResponseError Nat × List UInt8) := do
  if STUN_HEADER_LEN + contentLen remoteAddr > out.length then
    return (.error .outputBufferTooSmall, out)
  let (header, rest) ← splitAt out STUN_HEADER_LEN
  let (addrAttribute, rest) ←
    splitAt rest (ATTRIBUTE_MARKER_LEN + addrAttributeLen remoteAddr)
  let (integrityAttribute, fingerprintAttribute) ←
    splitAt rest (ATTRIBUTE_MARKER_LEN + INTEGRITY_ATTRIBUTE_LEN)
  let header ← writeHeader header transactionId (contentLenIntegrity remoteAddr)
  let addrAttribute ← writeAddrAttribute addrAttribute transactionId remoteAddr
  match lib.hmacSha1 passwd (header ++ addrAttribute) with
  | none =>
      return (.error .errorStack, header ++ (addrAttribute ++
        (integrityAttribute ++ fingerprintAttribute)))
  | some hmac =>
      let integrityAttribute ← writeIntegrityAttribute integrityAttribute hmac
      let header ← writeAt header 2 4 (be16 (UInt16.ofNat (contentLen remoteAddr)))
      let crc := lib.crc32 (header ++ (addrAttribute ++ integrityAttribute))
      let fingerprintAttribute ←
        writeFingerprintAttribute fingerprintAttribute crc
      return (.ok (STUN_HEADER_LEN + contentLen remoteAddr),
        header ++ (addrAttribute ++ (integrityAttribute ++ fingerprintAttribute)))

/-- What `UdpSend` sends for a binding request (`server/udp.rs`): the response,
written into a buffer of 1200 bytes that nobody has initialised, and cut to its
length. -/
def sendStunResponse (lib : StunLib) (transactionId : TransactionId)
    (remoteAddr : SocketAddr) (passwd : List UInt8)
    (messageBuf : Vector UInt8 1200) : Except Panic (Option DataPacket) := do
  let (n, messageBuf) ← writeStunSuccessResponse lib transactionId remoteAddr
    passwd messageBuf.toList
  match n with
  | .ok n => return some (messageBuf.take n)
  | .error _ => return none

/-! ## What is in the buffer at the end -/

theorem xorRange_eq : ∀ {target mask : List UInt8},
    target.length ≤ mask.length →
      xorRange target mask = .ok (xorBytes target mask) := by
  intro target
  induction target with
  | nil => intro mask _; rfl
  | cons t target ih =>
      intro mask h
      cases mask with
      | nil => cases h
      | cons x mask =>
          rw [xorRange, ih (Nat.le_of_succ_le_succ h)]
          rfl

theorem length_xorBytes {bytes mask : List UInt8}
    (h : bytes.length ≤ mask.length) :
    (xorBytes bytes mask).length = bytes.length := by
  rw [xorBytes, List.length_zipWith, Nat.min_eq_left h]

theorem xorAt_append {front mid back mask : List UInt8} {i j : Nat}
    (hi : i = front.length) (hj : j = i + mid.length)
    (hlen : mid.length ≤ mask.length) :
    xorAt (front ++ (mid ++ back)) i j mask =
      .ok (front ++ (xorBytes mid mask ++ back)) := by
  rw [xorAt, slice_append hi hj, ok_bind, xorRange_eq hlen, ok_bind, hi,
    overwrite_append (length_xorBytes hlen)]
  rfl

theorem writeHeader_eq {header : List UInt8}
    (h : header.length = STUN_HEADER_LEN) (transactionId : TransactionId)
    (length : Nat) : writeHeader header transactionId length =
      .ok (messageHeader SUCCESS_RESPONSE transactionId length) := by
  have hid : transactionId.toList.length = 12 := transactionId.length_toList
  obtain ⟨type, rest, rfl, htype, hrest⟩ :=
    exists_append (show header.length = 2 + 18 from h)
  obtain ⟨len, rest, rfl, hlen, hrest⟩ :=
    exists_append (show rest.length = 2 + 16 from hrest)
  obtain ⟨cookie, rest, rfl, hcookie, hrest⟩ :=
    exists_append (show rest.length = 4 + 12 from hrest)
  have h₁ : writeAt (type ++ (len ++ (cookie ++ rest))) 0 2
      (be16 SUCCESS_RESPONSE) =
        .ok (be16 SUCCESS_RESPONSE ++ (len ++ (cookie ++ rest))) :=
    @writeAt_append [] type _ _ 0 2 rfl (by rw [htype]) htype.symm
  have h₂ : writeAt (be16 SUCCESS_RESPONSE ++ (len ++ (cookie ++ rest))) 2 4
      (be16 (UInt16.ofNat length)) =
        .ok (be16 SUCCESS_RESPONSE ++ (be16 (UInt16.ofNat length) ++
          (cookie ++ rest))) :=
    writeAt_append rfl (by rw [hlen]) hlen.symm
  have h₃ : writeAt ((be16 SUCCESS_RESPONSE ++ be16 (UInt16.ofNat length)) ++
      (cookie ++ rest)) 4 8 STUN_COOKIE =
        .ok ((be16 SUCCESS_RESPONSE ++ be16 (UInt16.ofNat length)) ++
          (STUN_COOKIE ++ rest)) :=
    writeAt_append rfl (by rw [hcookie]) hcookie.symm
  have h₄ : writeAt ((be16 SUCCESS_RESPONSE ++ be16 (UInt16.ofNat length) ++
      STUN_COOKIE) ++ (rest ++ [])) 8 20 transactionId.toList =
        .ok ((be16 SUCCESS_RESPONSE ++ be16 (UInt16.ofNat length) ++
          STUN_COOKIE) ++ (transactionId.toList ++ [])) :=
    writeAt_append rfl (by rw [hrest]) (hid.trans hrest.symm)
  simp only [List.append_assoc, List.append_nil] at h₃ h₄
  rw [writeHeader, h₁, ok_bind, h₂, ok_bind, h₃, ok_bind, h₄]
  rfl

/-- An attribute whose value needs no padding. -/
def Attribute.unpadded (type : UInt16) (value : List UInt8)
    (h : paddedLen value.length = value.length) : Attribute where
  type := type
  value := value
  padding := []
  aligned := by rw [h, List.length_nil, Nat.add_zero]

theorem Attribute.encode_unpadded (type : UInt16) (value : List UInt8)
    (h : paddedLen value.length = value.length) :
    (Attribute.unpadded type value h).encode =
      be16 type ++ (be16 (UInt16.ofNat value.length) ++ value) := by
  rw [Attribute.encode, Attribute.unpadded, List.append_nil]

/-- The value of the address attribute. -/
def xorMappedAddress (transactionId : TransactionId) :
    SocketAddr → List UInt8
  | .v4 ip port =>
      0 :: IPV4 :: (xorBytes (be16 port) STUN_COOKIE ++
        xorBytes ip.toList STUN_COOKIE)
  | .v6 ip port _ _ =>
      0 :: IPV6 :: (xorBytes (be16 port) STUN_COOKIE ++
        xorBytes ip.toList (STUN_COOKIE ++ transactionId.toList))

theorem length_xorMappedAddress (transactionId : TransactionId)
    (remoteAddr : SocketAddr) :
    (xorMappedAddress transactionId remoteAddr).length =
      addrAttributeLen remoteAddr := by
  have hid : transactionId.toList.length = 12 := transactionId.length_toList
  have hport : ∀ port, (xorBytes (be16 port) STUN_COOKIE).length = 2 :=
    fun _ => rfl
  cases remoteAddr with
  | v4 ip port =>
      have hip : ip.toList.length = 4 := ip.length_toList
      have hxor : (xorBytes ip.toList STUN_COOKIE).length = 4 := by
        rw [length_xorBytes (by rw [hip]; decide), hip]
      simp only [xorMappedAddress, List.length_cons, List.length_append, hport,
        hxor]
      rfl
  | v6 ip port flowinfo scopeId =>
      have hip : ip.toList.length = 16 := ip.length_toList
      have hmask : (STUN_COOKIE ++ transactionId.toList).length = 16 := by
        rw [List.length_append, hid]; rfl
      have hxor : (xorBytes ip.toList
          (STUN_COOKIE ++ transactionId.toList)).length = 16 := by
        rw [length_xorBytes (by omega), hip]
      simp only [xorMappedAddress, List.length_cons, List.length_append, hport,
        hxor]
      rfl

theorem paddedLen_addrAttributeLen (remoteAddr : SocketAddr) :
    paddedLen (addrAttributeLen remoteAddr) = addrAttributeLen remoteAddr := by
  cases remoteAddr with
  | v4 ip port => show paddedLen 8 = 8; decide
  | v6 ip port flowinfo scopeId => show paddedLen 20 = 20; decide

def addrAttribute (transactionId : TransactionId) (remoteAddr : SocketAddr) :
    Attribute :=
  .unpadded XOR_MAPPED_ADDRESS (xorMappedAddress transactionId remoteAddr) (by
    rw [length_xorMappedAddress, paddedLen_addrAttributeLen])

def integrityAttribute (hmac : Vector UInt8 20) : Attribute :=
  .unpadded MESSAGE_INTEGRITY hmac.toList (by rw [Vector.length_toList]; rfl)

def fingerprintAttribute (crc : UInt32) : Attribute :=
  .unpadded FINGERPRINT (be32 (crc ^^^ STUN_CRC_XOR)) (by
    show paddedLen 4 = 4; decide)

theorem exists_value {value : List UInt8} {n : Nat}
    (h : value.length = 4 + n) : ∃ r f port rest,
      value = r :: f :: (port ++ rest) ∧ port.length = 2 ∧ rest.length = n := by
  obtain ⟨r, value, rfl⟩ :=
    List.exists_cons_of_length_eq_add_one (show value.length = (3 + n) + 1 by omega)
  rw [List.length_cons] at h
  obtain ⟨f, value, rfl⟩ :=
    List.exists_cons_of_length_eq_add_one (show value.length = (2 + n) + 1 by omega)
  rw [List.length_cons] at h
  obtain ⟨port, rest, rfl, hport, hrest⟩ :=
    exists_append (show value.length = 2 + n by omega)
  exact ⟨r, f, port, rest, rfl, hport, hrest⟩

theorem xorBytes_append {a b c d : List UInt8} (h : a.length = c.length) :
    xorBytes (a ++ b) (c ++ d) = xorBytes a c ++ xorBytes b d :=
  List.zipWith_append h

theorem writeFamilyNPort_eq {front port : List UInt8}
    (hfront : front.length = 4) (hport : port.length = 2) (r f : UInt8)
    (rest : List UInt8) (family : UInt8) (v : UInt16) :
    writeFamilyNPort (front ++ (r :: f :: (port ++ rest))) family v =
      .ok (front ++ (0 :: family :: (xorBytes (be16 v) STUN_COOKIE ++
        rest))) := by
  have h₁ : setAt (front ++ (r :: f :: (port ++ rest))) 4 0 =
      .ok (front ++ (0 :: f :: (port ++ rest))) := setAt_append hfront.symm 0
  have h₂ : setAt ((front ++ [0]) ++ (f :: (port ++ rest))) 5 family =
      .ok ((front ++ [0]) ++ (family :: (port ++ rest))) :=
    setAt_append (by rw [List.length_append, hfront]; rfl) family
  have hsix : 6 = (front ++ [0, family]).length := by
    rw [List.length_append, hfront]
    rfl
  have h₃ : writeAt ((front ++ [0, family]) ++ (port ++ rest)) 6 8 (be16 v) =
      .ok ((front ++ [0, family]) ++ (be16 v ++ rest)) :=
    writeAt_append hsix (by rw [hport]) hport.symm
  have h₄ : xorAt ((front ++ [0, family]) ++ (be16 v ++ rest)) 6 8
      STUN_COOKIE =
        .ok ((front ++ [0, family]) ++ (xorBytes (be16 v) STUN_COOKIE ++
          rest)) :=
    xorAt_append hsix rfl (by show 2 ≤ 4; decide)
  simp only [List.append_assoc, List.cons_append, List.nil_append] at h₂ h₃ h₄
  rw [writeFamilyNPort, h₁, ok_bind, h₂, ok_bind, h₃, ok_bind, h₄]

/-- The type and the length of an attribute, written in front of its value. -/
theorem writeMarker_eq {marker : List UInt8} (h : marker.length = 4)
    (rest : List UInt8) (type len : UInt16) :
    (writeAt (marker ++ rest) 0 2 (be16 type) >>= fun attr =>
      writeAt attr 2 4 (be16 len)) = .ok (be16 type ++ (be16 len ++ rest)) := by
  obtain ⟨t, l, rfl, ht, hl⟩ := exists_append (show marker.length = 2 + 2 from h)
  have h₁ : writeAt (t ++ (l ++ rest)) 0 2 (be16 type) =
      .ok (be16 type ++ (l ++ rest)) :=
    @writeAt_append [] t _ _ 0 2 rfl (by rw [ht]) ht.symm
  have h₂ : writeAt (be16 type ++ (l ++ rest)) 2 4 (be16 len) =
      .ok (be16 type ++ (be16 len ++ rest)) :=
    writeAt_append rfl (by rw [hl]) hl.symm
  rw [List.append_assoc, h₁, ok_bind, h₂]

theorem writeIp4_eq {front rest ip : List UInt8} (hfront : front.length = 8)
    (hrest : rest.length = 4) (hip : ip.length = 4) :
    (writeAt (front ++ rest) 8 12 ip >>= fun attr =>
      xorAt attr 8 12 STUN_COOKIE) = .ok (front ++ xorBytes ip STUN_COOKIE) := by
  have hwrite : writeAt (front ++ (rest ++ [])) 8 12 ip =
      .ok (front ++ (ip ++ [])) :=
    writeAt_append hfront.symm (by rw [hrest]) (hip.trans hrest.symm)
  have hxor : xorAt (front ++ (ip ++ [])) 8 12 STUN_COOKIE =
      .ok (front ++ (xorBytes ip STUN_COOKIE ++ [])) :=
    xorAt_append hfront.symm (by rw [hip]) (by rw [hip]; decide)
  rw [List.append_nil] at hwrite
  rw [hwrite, ok_bind, hxor, List.append_nil]

/-- The upper four bytes are masked with the cookie, the rest with the id. -/
theorem writeIp6_eq {front rest ip id : List UInt8} (hfront : front.length = 8)
    (hrest : rest.length = 16) (hip : ip.length = 16) (hid : id.length = 12) :
    (writeAt (front ++ rest) 8 24 ip >>= fun attr =>
      xorAt attr 8 12 STUN_COOKIE >>= fun attr => xorAt attr 12 24 id) =
        .ok (front ++ xorBytes ip (STUN_COOKIE ++ id)) := by
  have hwrite : writeAt (front ++ (rest ++ [])) 8 24 ip =
      .ok (front ++ (ip ++ [])) :=
    writeAt_append hfront.symm (by rw [hrest]) (hip.trans hrest.symm)
  obtain ⟨top, low, rfl, htop, hlow⟩ :=
    exists_append (show ip.length = 4 + 12 from hip)
  have hxor : xorAt (front ++ (top ++ low)) 8 12 STUN_COOKIE =
      .ok (front ++ (xorBytes top STUN_COOKIE ++ low)) :=
    xorAt_append hfront.symm (by rw [htop]) (by rw [htop]; decide)
  have hxor' : xorAt ((front ++ xorBytes top STUN_COOKIE) ++ (low ++ [])) 12 24
      id = .ok ((front ++ xorBytes top STUN_COOKIE) ++
        (xorBytes low id ++ [])) := by
    refine xorAt_append ?_ (by rw [hlow]) (by omega)
    rw [List.length_append, hfront, length_xorBytes (by rw [htop]; decide), htop]
  rw [List.append_nil, List.append_nil] at hwrite
  rw [List.append_nil, List.append_nil, List.append_assoc,
    List.append_assoc] at hxor'
  rw [hwrite, ok_bind, hxor, ok_bind, hxor', xorBytes_append htop]

theorem writeAddrAttribute_eq {attr : List UInt8} {remoteAddr : SocketAddr}
    (h : attr.length = ATTRIBUTE_MARKER_LEN + addrAttributeLen remoteAddr)
    (transactionId : TransactionId) :
    writeAddrAttribute attr transactionId remoteAddr =
      .ok (addrAttribute transactionId remoteAddr).encode := by
  obtain ⟨marker, value, rfl, hmarker, hvalue⟩ := exists_append h
  have hmark := writeMarker_eq hmarker value XOR_MAPPED_ADDRESS
    (UInt16.ofNat (addrAttributeLen remoteAddr))
  rw [addrAttribute, Attribute.encode_unpadded, length_xorMappedAddress,
    writeAddrAttribute, ← bind_assoc, hmark, ok_bind, ← List.append_assoc,
    ← List.append_assoc]
  have hfront : (be16 XOR_MAPPED_ADDRESS ++
      be16 (UInt16.ofNat (addrAttributeLen remoteAddr))).length = 4 := rfl
  generalize be16 XOR_MAPPED_ADDRESS ++
    be16 (UInt16.ofNat (addrAttributeLen remoteAddr)) = front at hfront ⊢
  -- eight bytes are in front of the address
  have height : ∀ (family : UInt8) (port : UInt16), (front ++ (0 :: family ::
      xorBytes (be16 port) STUN_COOKIE)).length = 8 := by
    intro family port
    rw [List.length_append, hfront]
    rfl
  cases remoteAddr with
  | v4 ip port =>
      obtain ⟨r, f, p, rest, rfl, hp, hrest⟩ :=
        exists_value (show value.length = 4 + 4 from hvalue)
      have hfam := writeFamilyNPort_eq hfront hp r f rest IPV4 port
      have hwrite := writeIp4_eq (height IPV4 port) hrest ip.length_toList
      rw [List.append_assoc, List.append_assoc] at hwrite
      simp only [hfam, ok_bind]
      exact hwrite
  | v6 ip port flowinfo scopeId =>
      obtain ⟨r, f, p, rest, rfl, hp, hrest⟩ :=
        exists_value (show value.length = 4 + 16 from hvalue)
      have hfam := writeFamilyNPort_eq hfront hp r f rest IPV6 port
      have hwrite := writeIp6_eq (height IPV6 port) hrest ip.length_toList
        transactionId.length_toList
      rw [List.append_assoc, List.append_assoc] at hwrite
      simp only [hfam, ok_bind]
      exact hwrite

theorem writeIntegrityAttribute_eq {attr : List UInt8}
    (h : attr.length = ATTRIBUTE_MARKER_LEN + INTEGRITY_ATTRIBUTE_LEN)
    (hmac : Vector UInt8 20) : writeIntegrityAttribute attr hmac =
      .ok (integrityAttribute hmac).encode := by
  have hlen : hmac.toList.length = 20 := hmac.length_toList
  obtain ⟨marker, value, rfl, hmarker, hvalue⟩ := exists_append h
  have hmark := writeMarker_eq hmarker value MESSAGE_INTEGRITY
    (UInt16.ofNat INTEGRITY_ATTRIBUTE_LEN)
  rw [integrityAttribute, Attribute.encode_unpadded, hlen,
    writeIntegrityAttribute, ← bind_assoc, hmark, ok_bind, ← List.append_assoc,
    ← List.append_assoc]
  have hwrite := @writeAt_append (be16 MESSAGE_INTEGRITY ++
    be16 (UInt16.ofNat INTEGRITY_ATTRIBUTE_LEN)) value [] hmac.toList 4 24 rfl
    (by rw [hvalue]; rfl) (hlen.trans hvalue.symm)
  rw [List.append_nil, List.append_nil] at hwrite
  rw [List.length_append, hvalue]
  exact hwrite

theorem writeFingerprintAttribute_eq {attr back : List UInt8}
    (h : attr.length = ATTRIBUTE_MARKER_LEN + FINGERPRINT_ATTRIBUTE_LEN)
    (crc : UInt32) : writeFingerprintAttribute (attr ++ back) crc =
      .ok ((fingerprintAttribute crc).encode ++ back) := by
  obtain ⟨marker, value, rfl, hmarker, hvalue⟩ := exists_append h
  have hmark := writeMarker_eq hmarker (value ++ back) FINGERPRINT
    (UInt16.ofNat FINGERPRINT_ATTRIBUTE_LEN)
  have hwrite := @writeAt_append (be16 FINGERPRINT ++
    be16 (UInt16.ofNat FINGERPRINT_ATTRIBUTE_LEN)) value back
    (be32 (crc ^^^ STUN_CRC_XOR)) 4 8 rfl (by rw [hvalue]; rfl) hvalue.symm
  rw [fingerprintAttribute, Attribute.encode_unpadded,
    writeFingerprintAttribute, ← bind_assoc, List.append_assoc, hmark, ok_bind]
  rw [List.append_assoc] at hwrite
  rw [hwrite]
  simp only [List.append_assoc]
  rfl

/-! ## The whole response -/

/-- How long the response to an address is. -/
def responseLen (remoteAddr : SocketAddr) : Nat :=
  STUN_HEADER_LEN + contentLen remoteAddr

/-- What the HMAC is taken of. -/
def signedPart (transactionId : TransactionId) (remoteAddr : SocketAddr) :
    List UInt8 :=
  messageHeader SUCCESS_RESPONSE transactionId
      (contentLenIntegrity remoteAddr) ++
    (addrAttribute transactionId remoteAddr).encode

/-- What the checksum is taken of. -/
def checkedPart (transactionId : TransactionId) (remoteAddr : SocketAddr)
    (hmac : Vector UInt8 20) : List UInt8 :=
  messageHeader SUCCESS_RESPONSE transactionId (contentLen remoteAddr) ++
    ((addrAttribute transactionId remoteAddr).encode ++
      (integrityAttribute hmac).encode)

def response (crc : List UInt8 → UInt32) (transactionId : TransactionId)
    (remoteAddr : SocketAddr) (hmac : Vector UInt8 20) : List UInt8 :=
  checkedPart transactionId remoteAddr hmac ++
    (fingerprintAttribute (crc (checkedPart transactionId remoteAddr
      hmac))).encode

theorem length_encode_addrAttribute (transactionId : TransactionId)
    (remoteAddr : SocketAddr) :
    (addrAttribute transactionId remoteAddr).encode.length =
      ATTRIBUTE_MARKER_LEN + addrAttributeLen remoteAddr := by
  rw [Attribute.length_encode, addrAttribute, Attribute.unpadded,
    length_xorMappedAddress, paddedLen_addrAttributeLen]
  rfl

theorem length_encode_integrityAttribute (hmac : Vector UInt8 20) :
    (integrityAttribute hmac).encode.length =
      ATTRIBUTE_MARKER_LEN + INTEGRITY_ATTRIBUTE_LEN := by
  rw [Attribute.length_encode, integrityAttribute, Attribute.unpadded,
    Vector.length_toList]
  rfl

theorem length_response (crc : List UInt8 → UInt32)
    (transactionId : TransactionId) (remoteAddr : SocketAddr)
    (hmac : Vector UInt8 20) :
    (response crc transactionId remoteAddr hmac).length =
      responseLen remoteAddr := by
  have hfp : ∀ c, (fingerprintAttribute c).encode.length =
      ATTRIBUTE_MARKER_LEN + FINGERPRINT_ATTRIBUTE_LEN := fun _ => rfl
  simp only [response, checkedPart, List.length_append, length_messageHeader,
    length_encode_addrAttribute, length_encode_integrityAttribute, hfp,
    responseLen, contentLen, contentLenIntegrity]
  omega

/-- With signing that succeeds, the response is written to the front of a buffer
that has room for it, and a shorter buffer is left alone. -/
theorem writeStunSuccessResponse_eq
    (hmac : List UInt8 → List UInt8 → Vector UInt8 20)
    (crc : List UInt8 → UInt32) (transactionId : TransactionId)
    (remoteAddr : SocketAddr) (passwd out : List UInt8) :
    writeStunSuccessResponse (.signing hmac crc) transactionId remoteAddr passwd
        out =
      .ok (if out.length < responseLen remoteAddr then
          (.error .outputBufferTooSmall, out)
        else (.ok (responseLen remoteAddr),
          response crc transactionId remoteAddr
            (hmac passwd (signedPart transactionId remoteAddr)) ++
              out.drop (responseLen remoteAddr))) := by
  rw [writeStunSuccessResponse]
  by_cases hroom : out.length < responseLen remoteAddr
  · have htest : STUN_HEADER_LEN + contentLen remoteAddr > out.length := hroom
    rw [if_pos htest, if_pos hroom]
    rfl
  · have htest : ¬ STUN_HEADER_LEN + contentLen remoteAddr > out.length := hroom
    rw [if_neg htest, if_neg hroom]
    obtain ⟨front, back, rfl, hfront, -⟩ := exists_append
      (show out.length = responseLen remoteAddr +
        (out.length - responseLen remoteAddr) by omega)
    obtain ⟨header, rest, rfl, hheader, hrest⟩ := exists_append hfront
    obtain ⟨addr, rest, rfl, haddr, hrest⟩ := exists_append
      (show rest.length = (ATTRIBUTE_MARKER_LEN + addrAttributeLen remoteAddr) +
        (ATTRIBUTE_MARKER_LEN + INTEGRITY_ATTRIBUTE_LEN +
          (ATTRIBUTE_MARKER_LEN + FINGERPRINT_ATTRIBUTE_LEN)) by
        rw [hrest, contentLen, contentLenIntegrity]; omega)
    obtain ⟨integrity, fingerprint, rfl, hint, hfp⟩ := exists_append hrest
    have hdrop : (header ++ (addr ++ (integrity ++ fingerprint)) ++ back).drop
        (responseLen remoteAddr) = back := by
      rw [← hfront, List.drop_left]
    rw [hdrop]
    simp only [List.append_assoc, splitAt_append hheader.symm,
      splitAt_append haddr.symm, splitAt_append hint.symm, ok_bind,
      writeHeader_eq hheader, writeAddrAttribute_eq haddr,
      writeIntegrityAttribute_eq hint, writeFingerprintAttribute_eq hfp,
      StunLib.signing]
    have hlength : writeAt (messageHeader SUCCESS_RESPONSE transactionId
        (contentLenIntegrity remoteAddr)) 2 4
          (be16 (UInt16.ofNat (contentLen remoteAddr))) =
        .ok (messageHeader SUCCESS_RESPONSE transactionId
          (contentLen remoteAddr)) :=
      writeAt_append rfl rfl rfl
    rw [hlength, ok_bind]
    simp only [response, checkedPart, List.append_assoc]
    rfl

end Stun

end RStreamer
